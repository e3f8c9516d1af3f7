import Mathlib.Data.List.Induction
import Portcullis.Proofs.Policy.Parting
import Portcullis.Proofs.Policy.Strictness

/-! How far a literal goes.

Three scanners keep an account of literals on their way to something else: comments, the end of a
scope, commas. The reader of a literal's value keeps none; it takes escapes two characters at a
time. For all four a literal is the same text. The three accounts are kept alike: a quote takes a
scanner into a literal, and from there on each character moves it as `Quoting.step` says and does
nothing else (`FollowsLiterals`). So **a scanner stands in a literal up to the quote that closes it
for its reader, and outside behind it** (`literal_extents_agree`); where the reader finds no such
quote it stands in the literal to the end of the text. -/
namespace Portcullis.Policy
open Text

/-- Where an account of literals stands after one more character. -/
def Quoting.step (q : Quoting) (c : Char) : Quoting :=
  match q with
  | .outside => if c = '"' then .inside else .outside
  | .inside => if c = '\\' then .escaped else if c = '"' then .outside else .inside
  | .escaped => .inside

/-- Where it stands behind a text. -/
def Quoting.through (q : Quoting) (text : List Char) : Quoting := text.foldl Quoting.step q

namespace Quoting

@[simp] theorem through_nil (q : Quoting) : q.through [] = q := rfl

@[simp] theorem through_cons (q : Quoting) (c : Char) (text : List Char) :
    q.through (c :: text) = (q.step c).through text := rfl

@[simp] theorem through_append (q : Quoting) (a b : List Char) :
    q.through (a ++ b) = (q.through a).through b :=
  List.foldl_append

end Quoting

/-! ### The reader of values -/

/-- Text that leaves a literal open wherever it is cut off. -/
def Quoting.Unclosed (q : Quoting) (text : List Char) : Prop :=
  ∀ part, part <+: text → q.through part ≠ .outside

theorem Quoting.unclosed_nil {q : Quoting} : q.Unclosed [] ↔ q ≠ .outside := by
  constructor
  · exact fun h => h [] List.prefix_rfl
  · intro hq part hpart
    rw [List.prefix_nil.mp hpart]
    exact hq

theorem Quoting.unclosed_cons {q : Quoting} {c : Char} {text : List Char} :
    q.Unclosed (c :: text) ↔ q ≠ .outside ∧ (q.step c).Unclosed text := by
  constructor
  · exact fun h => ⟨h [] List.nil_prefix, fun part hpart =>
      h (c :: part) (List.cons_prefix_cons.mpr ⟨rfl, hpart⟩)⟩
  · rintro ⟨hq, htext⟩ part hpart
    cases part with
    | nil => exact hq
    | cons d part =>
      obtain ⟨rfl, hrest⟩ := List.cons_prefix_cons.mp hpart
      exact htext part hrest

theorem Quoting.Unclosed.front {q : Quoting} {text part : List Char} (h : q.Unclosed text)
    (hpart : part <+: text) : q.Unclosed part :=
  fun other hother => h other (hother.trans hpart)

theorem Quoting.step_plain {c : Char} (hq : c ≠ '"') (hb : c ≠ '\\') :
    Quoting.inside.step c = .inside := by
  rw [Quoting.step, if_neg hb, if_neg hq]

/-- The text between two quotes leaves the literal open, and at its end no escape is begun. -/
theorem Spells.unclosed {value body : List Char} (h : Spells value body) :
    Quoting.inside.Unclosed body ∧ Quoting.inside.through body = .inside := by
  induction h with
  | nil => exact ⟨Quoting.unclosed_nil.mpr (by decide), rfl⟩
  | plain hq hb _ ih =>
    rw [Quoting.unclosed_cons, Quoting.through_cons, Quoting.step_plain hq hb]
    exact ⟨⟨by decide, ih.1⟩, ih.2⟩
  | escaped _ ih =>
    rw [Quoting.unclosed_cons, Quoting.unclosed_cons]
    exact ⟨⟨by decide, by decide, ih.1⟩, ih.2⟩

/-- Where no value is read, no quote closes the literal. -/
theorem unclosed_of_literalBody? {text : List Char} (h : literalBody? text = none) :
    Quoting.inside.Unclosed text := by
  fun_induction literalBody? text with
  | case1 => exact Quoting.unclosed_nil.mpr (by decide)
  | case2 => cases h
  | case3 c rest ih =>
    rw [Quoting.unclosed_cons, Quoting.unclosed_cons]
    exact ⟨by decide, by decide, ih (Option.map_eq_none_iff.mp h)⟩
  | case4 => exact Quoting.unclosed_cons.mpr ⟨by decide, Quoting.unclosed_nil.mpr (by decide)⟩
  | case5 c rest hquote hescape hend ih =>
    -- A backslash here would have nothing behind it or be read as an escape.
    have hslash : c ≠ '\\' := by
      rintro rfl
      cases rest with
      | nil => exact hend rfl rfl
      | cons d rest => exact hescape d rest rfl rfl
    rw [Quoting.unclosed_cons, Quoting.step_plain hquote hslash]
    exact ⟨by decide, ih (Option.map_eq_none_iff.mp h)⟩

/-! ### Scanners at a literal -/

/-- What a scanner does behind a position. `stands passed q` says that it has passed this text
from there, reacting to nothing, and that its account stands at `q`. -/
structure FollowsLiterals (stands : List Char → Quoting → Prop) : Prop where
  opens : stands [] .outside → stands ['"'] .inside
  inside : ∀ {passed q}, stands passed q → q ≠ .outside → ∀ c, stands (passed ++ [c]) (q.step c)
  unique : ∀ {passed q q'}, stands passed q → stands passed q' → q = q'

/-- A scanner takes for a literal what is read as one, behind a quote that this text follows. -/
structure TakesLiteral (stands : List Char → Quoting → Prop) (text : List Char) : Prop where
  /-- It leaves the literal with the quote that closes it, and there only. -/
  leaves : ∀ after, (∃ value, literal? ('"' :: text) = some (value, after)) ↔
    ∃ body, text = body ++ '"' :: after ∧
      (∀ part, part <+: body → ∃ q, q ≠ .outside ∧ stands ('"' :: part) q) ∧
      stands ('"' :: (body ++ ['"'])) .outside
  /-- It never leaves a literal that no quote closes. -/
  stays : literal? ('"' :: text) = none ↔
    ∀ part, part <+: text → ∃ q, q ≠ .outside ∧ stands ('"' :: part) q
  /-- It stands at one place at a time. -/
  unique : ∀ passed q q', stands passed q → stands passed q' → q = q'

section
variable {stands : List Char → Quoting → Prop}

theorem FollowsLiterals.unclosed (h : FollowsLiterals stands) (hs : stands [] .outside)
    {text : List Char} (htext : Quoting.inside.Unclosed text) :
    stands ('"' :: text) (Quoting.inside.through text) := by
  induction text using List.reverseRecOn with
  | nil => exact h.opens hs
  | append_singleton text c ih =>
    have hfront : text <+: text ++ [c] := List.prefix_append ..
    rw [Quoting.through_append]
    exact h.inside (ih (htext.front hfront)) (htext text hfront) c

/-- In front of a quote that closes the literal a scanner stands in it, wherever one looks. -/
theorem FollowsLiterals.quoted (h : FollowsLiterals stands) (hs : stands [] .outside)
    {text : List Char} (htext : Quoting.inside.Unclosed text) :
    ∀ part, part <+: text → ∃ q, q ≠ .outside ∧ stands ('"' :: part) q :=
  fun part hpart => ⟨_, htext part hpart, h.unclosed hs (htext.front hpart)⟩

theorem FollowsLiterals.closes (h : FollowsLiterals stands) (hs : stands [] .outside)
    {value body : List Char} (hbody : Spells value body) :
    stands ('"' :: (body ++ ['"'])) .outside := by
  have hstands := h.unclosed hs hbody.unclosed.1
  rw [hbody.unclosed.2] at hstands
  exact h.inside hstands (by decide) '"'

/-- A scanner stands in a literal and outside it at no place. -/
theorem FollowsLiterals.not_both (h : FollowsLiterals stands) {part text : List Char}
    (hpart : part <+: text)
    (hin : ∀ part, part <+: text → ∃ q, q ≠ .outside ∧ stands ('"' :: part) q) :
    ¬stands ('"' :: part) .outside := by
  intro hout
  obtain ⟨q, hq, hstands⟩ := hin part hpart
  exact hq (h.unique hstands hout)

/-- **What follows literals takes them as they are read.** -/
theorem FollowsLiterals.takesLiteral (h : FollowsLiterals stands) (hs : stands [] .outside)
    (text : List Char) : TakesLiteral stands text where
  leaves after := by
    constructor
    · rintro ⟨value, hvalue⟩
      obtain ⟨body, hbody, rfl⟩ := exists_of_literalBody? hvalue
      exact ⟨body, rfl, h.quoted hs hbody.unclosed.1, h.closes hs hbody⟩
    · rintro ⟨body, rfl, hin, hout⟩
      have hclosing : body ++ ['"'] <+: body ++ '"' :: after := ⟨after, by simp⟩
      cases hread : literalBody? (body ++ '"' :: after) with
      | none =>
        exact absurd hout
          (h.not_both hclosing (h.quoted hs (unclosed_of_literalBody? hread)))
      | some found =>
        obtain ⟨value, after'⟩ := found
        obtain ⟨body', hbody', hsplit⟩ := exists_of_literalBody? hread
        -- The quote of one side stands in the text in front of the other's, or they are the same.
        rcases List.append_eq_append_iff.mp hsplit with ⟨t, hfront, hback⟩ | ⟨t, hfront, hback⟩
        · cases t with
          | nil => exact ⟨value, by rw [literal?, hread, (List.cons.inj hback).2]⟩
          | cons c t =>
            obtain ⟨rfl, -⟩ := List.cons.inj hback
            have hpart : body ++ ['"'] <+: body' := ⟨t, by rw [hfront]; simp⟩
            exact absurd hout (h.not_both hpart (h.quoted hs hbody'.unclosed.1))
        · cases t with
          | nil => exact ⟨value, by rw [literal?, hread, (List.cons.inj hback).2]⟩
          | cons c t =>
            obtain ⟨rfl, -⟩ := List.cons.inj hback
            have hpart : body' ++ ['"'] <+: body := ⟨t, by rw [hfront]; simp⟩
            exact absurd (h.closes hs hbody') (h.not_both hpart hin)
  stays := by
    constructor
    · exact fun hnone => h.quoted hs (unclosed_of_literalBody? hnone)
    · intro hin
      cases hread : literalBody? text with
      | none => exact hread
      | some found =>
        obtain ⟨value, after⟩ := found
        obtain ⟨body, hbody, rfl⟩ := exists_of_literalBody? hread
        have hpart : body ++ ['"'] <+: body ++ '"' :: after := ⟨after, by simp⟩
        exact absurd (h.closes hs hbody) (h.not_both hpart hin)
  unique _ _ _ := h.unique

end

/-! ### Comments -/

/-- The scan for comments has passed `passed` behind `front` and cut nothing. Outside a literal and
behind a slash what follows must not start with another slash: the two would be a comment. -/
def CommentsAt (front passed : List Char) (q : Quoting) : Prop :=
  ∀ back, (q = .outside → (front ++ passed).getLast? = some '/' → back.head? ≠ some '/') →
    withoutComment (front ++ passed ++ back) = front ++ passed ++ withoutCommentFrom q back

theorem withoutCommentFrom_inside {q : Quoting} (h : q ≠ .outside) (c : Char) (rest : List Char) :
    withoutCommentFrom q (c :: rest) = c :: withoutCommentFrom (q.step c) rest := by
  cases q with
  | outside => exact absurd rfl h
  | inside => rfl
  | escaped => rfl

theorem withoutCommentFrom_outside {c : Char} {rest : List Char}
    (h : ¬(c = '/' ∧ rest.head? = some '/')) :
    withoutCommentFrom .outside (c :: rest) =
      c :: withoutCommentFrom (Quoting.outside.step c) rest := by
  rw [withoutCommentFrom]
  · rfl
  · rintro others rfl rfl
    exact h ⟨rfl, rfl⟩

/-- No comment starts at the last character of a text either, if what follows is not its second
slash. -/
theorem not_cut_append {c : Char} {rest back : List Char}
    (hslash : ∀ others, c = '/' → rest = '/' :: others → False)
    (hend : rest = [] → c = '/' → back.head? ≠ some '/') :
    ¬(c = '/' ∧ (rest ++ back).head? = some '/') := by
  rintro ⟨hc, hhead⟩
  cases rest with
  | nil => exact hend rfl hc hhead
  | cons d rest =>
    obtain rfl : d = '/' := by simpa using hhead
    exact hslash rest hc rfl

/-- A scan that has cut nothing stands where its account of literals does. -/
theorem withoutCommentFrom_through {q : Quoting} {front : List Char}
    (h : withoutCommentFrom q front = front) {back : List Char}
    (hback : q.through front = .outside → front.getLast? = some '/' → back.head? ≠ some '/') :
    withoutCommentFrom q (front ++ back) = front ++ withoutCommentFrom (q.through front) back := by
  have hlast : ∀ (c : Char) {rest : List Char}, rest.getLast? = some '/' →
      (c :: rest).getLast? = some '/' := by
    intro c rest hrest
    rw [List.getLast?_cons, hrest]
    rfl
  fun_induction withoutCommentFrom q front with
  | case1 => rfl
  | case2 c rest ih =>
    exact congrArg (c :: ·) (ih (List.cons.inj h).2 fun hq hrest => hback hq (hlast c hrest))
  | case3 c rest ih =>
    exact congrArg (c :: ·) (ih (List.cons.inj h).2 fun hq hrest => hback hq (hlast c hrest))
  | case4 => cases h
  | case5 c rest hslash ih =>
    have hcut : ¬(c = '/' ∧ (rest ++ back).head? = some '/') := by
      refine not_cut_append hslash ?_
      rintro rfl rfl
      exact hback rfl rfl
    rw [List.cons_append, withoutCommentFrom_outside hcut]
    exact congrArg (c :: ·) (ih (List.cons.inj h).2 fun hq hrest => hback hq (hlast c hrest))

/-- The scan stands somewhere behind every text that it does not cut. -/
theorem commentsAt_through {front : List Char} (h : withoutComment front = front) :
    CommentsAt front [] (Quoting.outside.through front) := by
  intro back hback
  rw [List.append_nil] at hback ⊢
  exact withoutCommentFrom_through h hback

theorem commentsAt_follows (front : List Char) : FollowsLiterals (CommentsAt front) where
  opens h back _ := by
    have hquote := h ('"' :: back) fun _ _ => by simp
    simpa [withoutCommentFrom] using hquote
  inside h hq c back _ := by
    have hnext := h (c :: back) fun hout => absurd hout hq
    rw [withoutCommentFrom_inside hq] at hnext
    simpa using hnext
  unique {passed q q'} h h' := by
    -- Text that outside a literal is cut, and text that a quote in front of it would let be cut.
    have hplain := (h ['a', '/', '/'] (by simp)).symm.trans (h' ['a', '/', '/'] (by simp))
    have hquote := (h ['"', '/', '/'] (by simp)).symm.trans (h' ['"', '/', '/'] (by simp))
    rw [List.append_cancel_left_eq] at hplain hquote
    revert hplain hquote
    cases q <;> cases q' <;> decide

/-! ### Scopes -/

/-- The scope scan has passed `passed` behind `front`, and this is open there. -/
def ScopeAt (n : Nesting) (front : List Char) (brackets parens : Nat) (passed : List Char)
    (q : Quoting) : Prop :=
  scanScope n (front ++ passed) = .running (front ++ passed) ⟨q, brackets, parens⟩

theorem ScopeAt.next {n : Nesting} {front passed : List Char} {brackets parens : Nat}
    {q q' : Quoting} {c : Char} (h : ScopeAt n front brackets parens passed q)
    (hc : scanScope ⟨q, brackets, parens⟩ [c] = .running [c] ⟨q', brackets, parens⟩) :
    ScopeAt n front brackets parens (passed ++ [c]) q' := by
  rw [ScopeAt, ← List.append_assoc, scanScope_append, h]
  simp only [hc, behind_running]

theorem scopeAt_follows (n : Nesting) (front : List Char) (brackets parens : Nat) :
    FollowsLiterals (ScopeAt n front brackets parens) where
  opens h := h.next (by simp [scanScope, Nesting.after, ScopeScan.cons])
  inside {passed q} h hq c := by
    refine h.next ?_
    cases q with
    | outside => exact absurd rfl hq
    | inside => rfl
    | escaped => rfl
  unique h h' := by
    have hleft := (ScopeScan.running.inj (h.symm.trans h')).2
    exact (Nesting.mk.inj hleft).1

/-! ### Commas -/

/-- The scan for commas has passed `passed` behind `front`: it is in the same piece as there and at
the same depth. -/
def CommasAt (front : List Char) (done : List (List Char)) (last : List Char) (depth : Nat)
    (passed : List Char) (q : Quoting) : Prop :=
  ∀ back, splitFrom .outside 0 (front ++ passed ++ back) =
    done ++ inFront (last ++ passed) (splitFrom q depth back)

theorem splitFrom_ne_nil (q : Quoting) (depth : Nat) (text : List Char) :
    splitFrom q depth text ≠ [] := by
  have hcons : ∀ (c : Char) pieces, consFirst c pieces ≠ [] := by
    intro c pieces
    cases pieces <;> simp [consFirst]
  cases text with
  | nil => simp [splitFrom]
  | cons c rest =>
    cases q with
    | outside =>
      rw [splitFrom]
      split
      · exact List.cons_ne_nil _ _
      · exact hcons _ _
    | inside => exact hcons _ _
    | escaped => exact hcons _ _

/-- What follows does not part what is in front of it. -/
theorem inFront_inj {text : List Char} {a b : List (List Char)} (ha : a ≠ []) (hb : b ≠ [])
    (h : inFront text a = inFront text b) : a = b := by
  cases a with
  | nil => exact absurd rfl ha
  | cons piece a =>
    cases b with
    | nil => exact absurd rfl hb
    | cons piece' b =>
      rw [inFront_piece, inFront_piece] at h
      obtain ⟨hpiece, hrest⟩ := List.cons.inj h
      rw [List.append_cancel_left hpiece, hrest]

theorem splitFrom_inside {q : Quoting} (h : q ≠ .outside) (depth : Nat) (c : Char)
    (rest : List Char) :
    splitFrom q depth (c :: rest) = consFirst c (splitFrom (q.step c) depth rest) := by
  cases q with
  | outside => exact absurd rfl h
  | inside => rfl
  | escaped => rfl

theorem splitFrom_outside (depth : Nat) (c : Char) (rest : List Char) :
    splitFrom .outside depth (c :: rest) =
      if c = ',' ∧ depth = 0 then [] :: splitFrom .outside 0 rest
      else consFirst c (splitFrom (Quoting.outside.step c) (depthAfter depth c) rest) := rfl

/-- The scan stands somewhere behind every text. -/
theorem exists_splitFrom_through (q : Quoting) (depth : Nat) (front : List Char) :
    ∃ done last depth', ∀ back, splitFrom q depth (front ++ back) =
      done ++ inFront last (splitFrom (q.through front) depth' back) := by
  induction front generalizing q depth with
  | nil => exact ⟨[], [], depth, fun back => rfl⟩
  | cons c front ih =>
    have hcons : ∀ depth', ∃ done last depth'', ∀ back,
        consFirst c (splitFrom (q.step c) depth' (front ++ back)) =
          done ++ inFront last (splitFrom (q.through (c :: front)) depth'' back) := by
      intro depth'
      obtain ⟨done, last, depth'', hrest⟩ := ih (q.step c) depth'
      obtain ⟨done', last', -, hfirst⟩ := consFirst_append c done last
      exact ⟨done', last', depth'', fun back => by rw [hrest, hfirst, Quoting.through_cons]⟩
    cases q with
    | outside =>
      simp only [List.cons_append, splitFrom_outside]
      split
      · rename_i hcomma
        obtain ⟨done, last, depth', hrest⟩ := ih .outside 0
        refine ⟨[] :: done, last, depth', fun back => ?_⟩
        rw [hrest, Quoting.through_cons, hcomma.1]
        rfl
      · exact hcons _
    | inside => exact hcons depth
    | escaped => exact hcons depth

theorem exists_commasAt (front : List Char) :
    ∃ done last depth, CommasAt front done last depth [] (Quoting.outside.through front) := by
  obtain ⟨done, last, depth, h⟩ := exists_splitFrom_through .outside 0 front
  exact ⟨done, last, depth, fun back => by rw [List.append_nil, List.append_nil, h]⟩

theorem length_splitFrom_consFirst (c : Char) (q : Quoting) (depth : Nat) (text : List Char) :
    (consFirst c (splitFrom q depth text)).length = (splitFrom q depth text).length := by
  cases h : splitFrom q depth text with
  | nil => exact absurd h (splitFrom_ne_nil q depth text)
  | cons piece pieces => rfl

/-- Text that is parted where the scan stands outside a literal at this depth. -/
def parting (depth : Nat) : List Char := List.replicate depth ']' ++ [',']

theorem parting_succ (depth : Nat) : parting (depth + 1) = ']' :: parting depth := rfl

theorem length_splitFrom_outside (depth : Nat) :
    (splitFrom .outside depth (parting depth)).length = 2 := by
  induction depth with
  | zero => rfl
  | succ depth ih =>
    rw [parting_succ, splitFrom_outside, if_neg (by simp), length_splitFrom_consFirst]
    exact ih

/-- Inside a literal it is not parted, at whatever depth the scan stands. -/
theorem length_splitFrom_inside {q : Quoting} (h : q ≠ .outside) (depth k : Nat) :
    (splitFrom q depth (parting k)).length = 1 := by
  induction k generalizing q with
  | zero =>
    have hparting : parting 0 = [','] := rfl
    rw [hparting, splitFrom_inside h, length_splitFrom_consFirst]
    rfl
  | succ k ih =>
    have hstep : q.step ']' = .inside := by
      cases q with
      | outside => exact absurd rfl h
      | inside => rfl
      | escaped => rfl
    rw [parting_succ, splitFrom_inside h, length_splitFrom_consFirst, hstep]
    exact ih (by decide)

/-- How many pieces there are tells where the scan stands. -/
theorem eq_of_splitFrom_eq {q q' : Quoting} {depth : Nat}
    (h : ∀ back, splitFrom q depth back = splitFrom q' depth back) : q = q' := by
  have hplain := congrArg List.length (h (parting depth))
  by_cases hq : q = .outside
  · by_cases hq' : q' = .outside
    · rw [hq, hq']
    · rw [hq, length_splitFrom_outside, length_splitFrom_inside hq'] at hplain
      cases hplain
  · by_cases hq' : q' = .outside
    · rw [hq', length_splitFrom_outside, length_splitFrom_inside hq] at hplain
      cases hplain
    · -- A quote takes one of the two out of the literal, if they differ.
      have hquote := congrArg List.length (h ('"' :: parting depth))
      rw [splitFrom_inside hq, splitFrom_inside hq', length_splitFrom_consFirst,
        length_splitFrom_consFirst] at hquote
      have hout := length_splitFrom_outside depth
      have hin := @length_splitFrom_inside .inside (by decide) depth depth
      cases q with
      | outside => exact absurd rfl hq
      | inside =>
        cases q' with
        | outside => exact absurd rfl hq'
        | inside => rfl
        | escaped =>
          have htwo : 2 = 1 := (hout.symm.trans hquote).trans hin
          cases htwo
      | escaped =>
        cases q' with
        | outside => exact absurd rfl hq'
        | inside =>
          have htwo : 1 = 2 := (hin.symm.trans hquote).trans hout
          cases htwo
        | escaped => rfl

theorem commasAt_follows (front : List Char) (done : List (List Char)) (last : List Char)
    (depth : Nat) : FollowsLiterals (CommasAt front done last depth) where
  opens h back := by
    have hquote := h ('"' :: back)
    have hstep : Quoting.outside.step '"' = .inside := rfl
    rw [splitFrom_outside, if_neg (by simp), hstep] at hquote
    simpa [inFront_append, depthAfter] using hquote
  inside {passed q} h hq c back := by
    have hnext := h (c :: back)
    rw [splitFrom_inside hq] at hnext
    simpa [inFront_append] using hnext
  unique h h' := eq_of_splitFrom_eq fun back =>
    inFront_inj (splitFrom_ne_nil _ _ _) (splitFrom_ne_nil _ _ _)
      (List.append_cancel_left ((h back).symm.trans (h' back)))

/-! ### Four scanners -/

/-- **For all scanners a literal is the same text.** Behind every text that it does not cut the
scan for comments stands somewhere, and so does the scan for commas behind every text. At a quote
at which one of the three scanners stands outside a literal, it takes for a literal what is read as
one: up to the quote that closes it, or to the end of the text where there is none, it passes all
characters and reacts to nothing. -/
theorem literal_extents_agree (front text : List Char) :
    (withoutComment front = front → ∃ q, CommentsAt front [] q) ∧
    (CommentsAt front [] .outside → TakesLiteral (CommentsAt front) text) ∧
    (∀ n brackets parens, ScopeAt n front brackets parens [] .outside →
      TakesLiteral (ScopeAt n front brackets parens) text) ∧
    (∃ done last depth q, CommasAt front done last depth [] q) ∧
    ∀ done last depth, CommasAt front done last depth [] .outside →
      TakesLiteral (CommasAt front done last depth) text := by
  refine ⟨fun h => ⟨_, commentsAt_through h⟩, ?_, ?_, ?_, ?_⟩
  · exact fun hs => (commentsAt_follows front).takesLiteral hs text
  · exact fun n brackets parens hs => (scopeAt_follows n front brackets parens).takesLiteral hs text
  · obtain ⟨done, last, depth, h⟩ := exists_commasAt front
    exact ⟨done, last, depth, _, h⟩
  · exact fun done last depth hs => (commasAt_follows front done last depth).takesLiteral hs text

/-- In a list, a literal that holds an escaped quote, a comment, and what would close the scope and
part it: the three scanners stand in it up to its last quote. -/
theorem literal_extents_agree_escaped :
    let front := ['i', 'n', ' ', '[', 'A', ':', ':']
    let inner := ['a', '\\', '"', '/', '/', ')', ',']
    let literal := '"' :: (inner ++ ['"'])
    CommentsAt front [] .outside ∧ ScopeAt .none front 1 0 [] .outside ∧
      CommasAt front [] front 1 [] .outside ∧
      CommentsAt front literal .outside ∧ ScopeAt .none front 1 0 literal .outside ∧
      CommasAt front [] front 1 literal .outside ∧
      ¬CommasAt front [] front 1 ('"' :: inner) .outside := by
  intro front inner literal
  have hcomments : CommentsAt front [] .outside := @commentsAt_through front (by decide)
  have hscope : ScopeAt .none front 1 0 [] .outside := rfl
  have hcommas : CommasAt front [] front 1 [] .outside := fun _ => rfl
  obtain ⟨-, hcomment, hparen, -, hcomma⟩ :=
    literal_extents_agree front (inner ++ '"' :: [']', ')'])
  have hread : ∃ value, literal? ('"' :: (inner ++ '"' :: [']', ')'])) = some (value, [']', ')']) :=
    ⟨['a', '"', '/', '/', ')', ','], by decide⟩
  have hends : ∀ {stands}, TakesLiteral stands (inner ++ '"' :: [']', ')']) →
      stands literal .outside ∧ ¬stands ('"' :: inner) .outside := by
    intro stands h
    obtain ⟨body, hsplit, hin, hout⟩ := (h.leaves _).mp hread
    obtain rfl := List.append_cancel_right hsplit
    obtain ⟨q, hq, hstands⟩ := hin inner List.prefix_rfl
    exact ⟨hout, fun hclosed => hq (h.unique _ _ _ hstands hclosed)⟩
  exact ⟨hcomments, hscope, hcommas, (hends (hcomment hcomments)).1,
    (hends (hparen _ _ _ hscope)).1, hends (hcomma _ _ _ hcommas)⟩

end Portcullis.Policy
