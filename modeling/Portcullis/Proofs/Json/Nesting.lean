import Portcullis.Proofs.Json.Reading

/-! No object's text ends with the text of another object.

A scan follows quotes and brackets through a text: whether a string is open and how many brackets
are. The text of a value leaves a scan where it was, so behind a part of an object's text the scan
is not where it began, and the text of a second object does not bring it back. A scan that takes
quotes the other way round, because a string is open when the second object starts, ends inside a
string or breaks off (`eq_nil_of_render_ofFields_eq_append`). -/
namespace Portcullis.Json
open Text

/-- Where a scan stands between two characters. -/
inductive Position where
  /-- Outside strings. -/
  | outside
  /-- In a string. -/
  | inside
  /-- In a string, behind a backslash. -/
  | escaped
  deriving DecidableEq, Repr

structure Scan where
  position : Position
  /-- How many brackets are open. -/
  depth : Nat
  deriving DecidableEq, Repr

namespace Scan

/-- How many brackets are open behind a character outside strings. No bracket closes that was not
opened, and no backslash stands there. -/
def nest? (depth : Nat) (c : Char) : Option Nat :=
  match c with
  | '[' | '{' => some (depth + 1)
  | ']' | '}' => if depth = 0 then none else some (depth - 1)
  | '\\' => none
  | _ => some depth

/-- Take one character. -/
def next? (s : Scan) (c : Char) : Option Scan :=
  match s.position with
  | .outside =>
    if c = '"' then some {s with position := .inside}
    else (nest? s.depth c).map fun depth => {s with depth}
  | .inside =>
    if c = '"' then some {s with position := .outside}
    else if c = '\\' then some {s with position := .escaped}
    else some s
  | .escaped => some {s with position := .inside}

def follow? (s : Scan) : List Char → Option Scan
  | [] => some s
  | c :: rest => (s.next? c).bind fun s => s.follow? rest

theorem follow?_append (s : Scan) (a b : List Char) :
    s.follow? (a ++ b) = (s.follow? a).bind fun s => s.follow? b := by
  induction a generalizing s with
  | nil => rfl
  | cons c rest ih =>
    rw [List.cons_append, follow?, follow?]
    cases s.next? c with
    | none => rfl
    | some next => exact ih next

/-- A scan with one more bracket around it. -/
def deeper (s : Scan) : Scan := {s with depth := s.depth + 1}

theorem nest?_succ {depth next : Nat} {c : Char} (h : nest? depth c = some next) :
    nest? (depth + 1) c = some (next + 1) := by
  revert h
  fun_cases nest? depth c
  all_goals simp_all [nest?]
  all_goals omega

theorem next?_deeper {s t : Scan} {c : Char} (h : s.next? c = some t) :
    s.deeper.next? c = some t.deeper := by
  obtain ⟨position, depth⟩ := s
  cases position with
  | outside =>
    simp only [next?, deeper] at h ⊢
    split at h
    · cases h
      rw [if_pos ‹_›]
    · obtain ⟨next, hnext, rfl⟩ := Option.map_eq_some_iff.mp h
      rw [if_neg ‹_›, nest?_succ hnext, Option.map_some]
  | inside =>
    simp only [next?, deeper] at h ⊢
    split at h
    · cases h
      rw [if_pos ‹_›]
    · rw [if_neg ‹_›]
      split at h
      all_goals
        cases h
        simp_all
  | escaped =>
    cases h
    rfl

theorem follow?_deeper {s t : Scan} {text : List Char} (h : s.follow? text = some t) :
    s.deeper.follow? text = some t.deeper := by
  induction text generalizing s with
  | nil =>
    cases h
    rfl
  | cons c rest ih =>
    obtain ⟨next, hnext, hrest⟩ := Option.bind_eq_some_iff.mp h
    rw [follow?, next?_deeper hnext]
    exact ih hrest

end Scan

/-! ### Text that a scan passes -/

/-- Text that leaves a scan where it was. A scan that takes it for a part of a string is in a
string at its end, if it gets there. -/
structure Passed (text : List Char) : Prop where
  outside : ∀ depth, Scan.follow? ⟨.outside, depth⟩ text = some ⟨.outside, depth⟩
  inside : ∀ depth s, Scan.follow? ⟨.inside, depth⟩ text = some s → s.position = .inside

namespace Passed
open Scan

theorem nil : Passed [] where
  outside := by
    intro depth
    rfl
  inside := by
    intro depth s h
    cases h
    rfl

theorem append {a b : List Char} (ha : Passed a) (hb : Passed b) : Passed (a ++ b) where
  outside := by
    intro depth
    rw [follow?_append, ha.outside, Option.bind_some, hb.outside]
  inside := by
    intro depth s h
    rw [follow?_append] at h
    obtain ⟨⟨position, middle⟩, hfront, hback⟩ := Option.bind_eq_some_iff.mp h
    obtain rfl := ha.inside depth _ hfront
    exact hb.inside middle s hback

/-- A character that is neither quote nor backslash nor bracket. -/
theorem singleton {c : Char} (h : c ∉ ['"', '\\', '[', ']', '{', '}']) : Passed [c] where
  outside := by
    intro depth
    simp_all [follow?, next?, nest?]
  inside := by
    intro depth s hs
    simp_all [follow?, next?]
    rw [← hs]

theorem of_forall {text : List Char} (h : ∀ c ∈ text, c ∉ ['"', '\\', '[', ']', '{', '}']) :
    Passed text := by
  induction text with
  | nil => exact nil
  | cons c rest ih =>
    exact (singleton (h c List.mem_cons_self)).append
      (ih fun d hd => h d (List.mem_cons_of_mem c hd))

/-- Brackets around text that a scan passes. -/
theorem brackets {o c : Char} {body : List Char} (ho : o = '[' ∨ o = '{') (hc : c = ']' ∨ c = '}')
    (h : Passed body) : Passed (o :: body ++ [c]) where
  outside := by
    intro depth
    have hopen : next? ⟨.outside, depth⟩ o = some ⟨.outside, depth + 1⟩ := by
      rcases ho with rfl | rfl <;> rfl
    have hclose : next? ⟨.outside, depth + 1⟩ c = some ⟨.outside, depth⟩ := by
      rcases hc with rfl | rfl <;> rfl
    rw [List.cons_append, follow?, hopen, Option.bind_some, follow?_append, h.outside,
      Option.bind_some, follow?, hclose]
    rfl
  inside := by
    intro depth s hs
    have hopen : next? ⟨.inside, depth⟩ o = some ⟨.inside, depth⟩ := by
      rcases ho with rfl | rfl <;> rfl
    have hclose : ∀ depth, next? ⟨.inside, depth⟩ c = some ⟨.inside, depth⟩ := by
      intro depth
      rcases hc with rfl | rfl <;> rfl
    rw [List.cons_append, follow?, hopen, Option.bind_some, follow?_append] at hs
    obtain ⟨⟨position, middle⟩, hbody, hlast⟩ := Option.bind_eq_some_iff.mp hs
    obtain rfl := h.inside depth _ hbody
    rw [follow?, hclose] at hlast
    cases hlast
    rfl

end Passed

/-! ### Strings -/

/-- A character stands for itself, or a backslash stands before what stands for it. -/
theorem escape_cases (c : Char) :
    (escape c = [c] ∧ c ≠ '"' ∧ c ≠ '\\') ∨
      ∃ e rest, escape c = '\\' :: e :: rest ∧ ∀ d ∈ rest, d ≠ '"' ∧ d ≠ '\\' := by
  fun_cases escape c with
  | case8 c _ _ _ _ _ _ _ hlt =>
    have hdigit : ∀ n < 16, Nat.digitChar n ≠ '"' ∧ Nat.digitChar n ≠ '\\' := by decide
    refine .inr ⟨'u', _, rfl, ?_⟩
    intro d hd
    simp only [List.mem_cons, List.not_mem_nil, or_false] at hd
    rcases hd with rfl | rfl | rfl | rfl
    · decide
    · decide
    · exact hdigit _ (by omega)
    · exact hdigit _ (by omega)
  | case9 c hquote hbackslash => exact .inl ⟨rfl, hquote, hbackslash⟩
  | _ => exact .inr ⟨_, [], rfl, by simp⟩

namespace Scan

theorem follow?_inside {text : List Char} (h : ∀ c ∈ text, c ≠ '"' ∧ c ≠ '\\') (depth : Nat) :
    follow? ⟨.inside, depth⟩ text = some ⟨.inside, depth⟩ := by
  induction text with
  | nil => rfl
  | cons c rest ih =>
    obtain ⟨hquote, hbackslash⟩ := h c List.mem_cons_self
    rw [follow?, next?]
    simp only [if_neg hquote, if_neg hbackslash, Option.bind_some]
    exact ih fun d hd => h d (List.mem_cons_of_mem c hd)

/-- What stands for characters in a string leaves the string open. -/
theorem follow?_flatMap_escape (chars : List Char) (depth : Nat) :
    follow? ⟨.inside, depth⟩ (chars.flatMap escape) = some ⟨.inside, depth⟩ := by
  induction chars with
  | nil => rfl
  | cons c chars ih =>
    rw [List.flatMap_cons, follow?_append]
    rcases escape_cases c with ⟨hc, hplain⟩ | ⟨e, rest, hc, hrest⟩
    · rw [hc, follow?_inside (by simpa using hplain), Option.bind_some, ih]
    · have hskip : follow? ⟨.inside, depth⟩ ('\\' :: e :: rest) =
          follow? ⟨.inside, depth⟩ rest := rfl
      rw [hc, hskip, follow?_inside hrest, Option.bind_some, ih]

/-- A scan that takes the inside of a string for the outside stays outside. -/
theorem position_of_follow?_flatMap_escape {chars : List Char} {depth : Nat} {s : Scan}
    (h : follow? ⟨.outside, depth⟩ (chars.flatMap escape) = some s) : s.position = .outside := by
  induction chars generalizing depth with
  | nil =>
    cases h
    rfl
  | cons c chars ih =>
    rw [List.flatMap_cons] at h
    rcases escape_cases c with ⟨hc, hquote, -⟩ | ⟨e, rest, hc, -⟩
    · rw [hc, List.singleton_append, follow?, next?] at h
      simp only [if_neg hquote] at h
      obtain ⟨next, hnext, hrest⟩ := Option.bind_eq_some_iff.mp h
      obtain ⟨depth, -, rfl⟩ := Option.map_eq_some_iff.mp hnext
      exact ih hrest
    · -- No backslash stands outside a string.
      rw [hc] at h
      cases h

end Scan

theorem Passed.literal (s : String) : Passed (Literal.text s).render where
  outside := by
    intro depth
    rw [Literal.render, List.cons_append, Scan.follow?]
    show Scan.follow? ⟨.inside, depth⟩ _ = _
    rw [Scan.follow?_append, Scan.follow?_flatMap_escape]
    rfl
  inside := by
    intro depth t h
    rw [Literal.render, List.cons_append, Scan.follow?] at h
    have hrest : Scan.follow? ⟨.outside, depth⟩ (s.toList.flatMap escape ++ ['"']) = some t := h
    rw [Scan.follow?_append] at hrest
    obtain ⟨⟨position, middle⟩, hchars, hquote⟩ := Option.bind_eq_some_iff.mp hrest
    obtain rfl := Scan.position_of_follow?_flatMap_escape hchars
    cases hquote
    rfl

/-! ### Values -/

theorem Passed.commas {pieces : List (List Char)} (h : ∀ piece ∈ pieces, Passed piece) :
    Passed (commas pieces) := by
  fun_induction Json.commas pieces with
  | case1 => exact .nil
  | case2 piece => exact h piece List.mem_cons_self
  | case3 piece rest _ ih =>
    exact (h piece List.mem_cons_self).append
      ((Passed.singleton (by decide)).append (ih fun p hp => h p (List.mem_cons_of_mem piece hp)))

theorem Passed.decimal (n : Nat) : Passed (decimal n) := by
  refine .of_forall fun c hc => ?_
  have hdigit := isDigit_of_mem_decimal hc
  intro hmark
  simp only [List.mem_cons, List.not_mem_nil, or_false] at hmark
  rcases hmark with rfl | rfl | rfl | rfl | rfl | rfl <;> exact absurd hdigit (by decide)

theorem Passed.fields {fields : List (String × Json)} (h : ∀ f ∈ fields, Passed f.2.render) :
    Passed (Json.commas (fields.map renderField)) := by
  refine .commas fun piece hpiece => ?_
  obtain ⟨f, hf, rfl⟩ := List.mem_map.mp hpiece
  exact (Passed.literal f.1).append ((Passed.singleton (by decide)).append (h f hf))

/-- The text of a value leaves a scan where it was. -/
theorem Written.passed {v : Json} (h : Written v) : Passed v.render := by
  induction h with
  | null => exact .of_forall (by simp [render])
  | bool b => cases b <;> exact .of_forall (by simp [render])
  | whole n =>
    rw [render, Numeral.render_ofNat]
    exact .decimal n
  | text s => exact .literal s
  | @array items _ ih =>
    rw [render_array]
    refine .brackets (.inl rfl) (.inl rfl) (.commas fun piece hpiece => ?_)
    obtain ⟨v, hv, rfl⟩ := List.mem_map.mp hpiece
    exact ih v hv
  | @object fields _ ih =>
    rw [render_ofFields]
    exact .brackets (.inr rfl) (.inr rfl) (.fields ih)

variable {fields : List (String × Json)}

/-- Behind a part of an object's text a bracket is open. -/
theorem exists_scan_of_render_ofFields_eq_append (h : ∀ f ∈ fields, Written f.2)
    {front back : List Char} (heq : render (ofFields fields) = front ++ back) (hfront : front ≠ [])
    (hback : back ≠ []) : ∃ s, Scan.follow? ⟨.outside, 0⟩ front = some s ∧ 0 < s.depth := by
  obtain ⟨o, front, rfl⟩ := List.exists_cons_of_ne_nil hfront
  obtain ⟨back, c, rfl⟩ := (List.eq_nil_or_concat back).resolve_left hback
  rw [render_ofFields, List.cons_append, List.cons_append, List.cons.injEq,
    List.concat_eq_append, ← List.append_assoc] at heq
  obtain ⟨rfl, hbody⟩ := heq
  obtain ⟨hbody, -⟩ := List.append_inj' hbody rfl
  -- The part behind the first bracket belongs to what stands between the brackets.
  have hpassed := (Passed.fields fun f hf => (h f hf).passed).outside 0
  rw [hbody, Scan.follow?_append] at hpassed
  obtain ⟨s, hs, -⟩ := Option.bind_eq_some_iff.mp hpassed
  exact ⟨s.deeper, Scan.follow?_deeper hs, Nat.succ_pos _⟩

/-- **An object's text ends with the text of an object only if it is that text.** -/
theorem eq_nil_of_render_ofFields_eq_append {others : List (String × Json)}
    (h : ∀ f ∈ fields, Written f.2) (ho : ∀ f ∈ others, Written f.2) {front : List Char}
    (heq : render (ofFields fields) = front ++ render (ofFields others)) : front = [] := by
  by_cases hfront : front = []
  · exact hfront
  exfalso
  have hother : Passed (render (ofFields others)) := (Written.object ho).passed
  have hne : render (ofFields others) ≠ [] := by
    rw [render_ofFields]
    exact List.cons_ne_nil _ _
  obtain ⟨⟨position, depth⟩, hs, hdepth⟩ :=
    exists_scan_of_render_ofFields_eq_append h heq hfront hne
  have hend := (Written.object h).passed.outside 0
  rw [heq, Scan.follow?_append, hs, Option.bind_some] at hend
  cases position with
  | outside =>
    rw [hother.outside] at hend
    cases hend
    exact absurd hdepth (Nat.lt_irrefl 0)
  | inside =>
    have hinside := hother.inside depth _ hend
    cases hinside
  | escaped =>
    -- Behind a backslash the first bracket is a character like any other inside the string.
    have hsame : Scan.follow? ⟨.escaped, depth⟩ (render (ofFields others)) =
        Scan.follow? ⟨.inside, depth⟩ (render (ofFields others)) := by
      rw [render_ofFields]
      rfl
    have hinside := hother.inside depth _ (hsame ▸ hend)
    cases hinside

end Portcullis.Json
