import Portcullis.Proofs.Policy.Reading
import Portcullis.Proofs.Policy.Scanning

/-! Where the statements of a document stand.

Only the lines count on which something stands that is no comment (`visibleLines`). Most open
nothing. Where one starts with an opener, or goes on with one behind the end of a statement,
a statement opens, and its text runs on from the parenthesis over as many lines as it takes
to come to an end (`Ending`): its own parenthesis and semicolon, the opener of another
statement, the end of the document, or a line `);` that finds something left open in its
scope. `Laid` says this without a reader, and there is one way only to lay a document out
(`Laid.unique`). -/
namespace Portcullis.Policy
open Text

/-! ### Lines -/

/-- A line, or what is left of it. -/
structure Line where
  /-- The number of the line, counted from one. -/
  place : Nat
  text : List Char
  deriving DecidableEq, Repr

/-- The lines that are seen, the first of them all having this number: those that are not
blank without their comments. -/
def visibleFrom (place : Nat) : List (List Char) → List Line
  | [] => []
  | raw :: rest =>
    if allBlank (withoutComment raw) then visibleFrom (place + 1) rest
    else ⟨place, withoutComment raw⟩ :: visibleFrom (place + 1) rest

def visibleLines (document : String) : List Line := visibleFrom 1 (lines document.toList)

/-! ### Text behind an opening parenthesis -/

/-- Whether a line of a scope ends inside a literal. -/
def Nesting.breaks (n : Nesting) : List Char → Bool
  | [] => false
  | c :: rest => if c = '\n' ∧ n.quoting ≠ .outside then true else (n.step c).breaks rest

/-- The text of a scope up to the parenthesis that closes it. -/
structure Whole (scope : List Char) : Prop where
  goesOn : Nesting.none.GoesOn scope
  closed : Nesting.none.through scope = .none

/-- Text of a statement whose parenthesis and semicolon have not both been found. -/
inductive Unfinished : List Char → Prop where
  | scope {text} : Nesting.none.GoesOn text → Unfinished text
  | trailer {scope trailer} : Whole scope → ';' ∉ trailer → Unfinished (scope ++ ')' :: trailer)

/-- Text of a scope that has something left open: a literal at the end of a line, a list or
a parenthesis. -/
structure Unbalanced (text : List Char) : Prop where
  goesOn : Nesting.none.GoesOn text
  left : Nesting.none.breaks text = true ∨ Nesting.none.through text ≠ .none

theorem Nesting.breaks_append (n : Nesting) (a b : List Char) :
    n.breaks (a ++ b) = (n.breaks a || (n.through a).breaks b) := by
  induction a generalizing n with
  | nil => rfl
  | cons c a ih =>
    rw [List.cons_append, Nesting.breaks, Nesting.breaks, Nesting.through_cons, ih]
    split <;> rfl

theorem Nesting.breaks_of_notMem {text : List Char} (h : '\n' ∉ text) (n : Nesting) :
    n.breaks text = false := by
  induction text generalizing n with
  | nil => rfl
  | cons c text ih =>
    rw [List.mem_cons, not_or] at h
    rw [Nesting.breaks, if_neg fun hc => h.1 hc.1.symm, ih h.2]

theorem Nesting.breaks_cons {n : Nesting} {c : Char} {text : List Char} :
    n.breaks (c :: text) = false ↔
      (c = '\n' → n.quoting = .outside) ∧ (n.step c).breaks text = false := by
  rw [Nesting.breaks]
  split
  · rename_i hc
    exact ⟨fun h => absurd h (by decide), fun h => absurd (h.1 hc.1) hc.2⟩
  · rename_i hc
    have hquoting : c = '\n' → n.quoting = .outside :=
      fun hline => Decidable.not_not.mp fun hq => hc ⟨hline, hq⟩
    exact ⟨fun h => ⟨hquoting, h⟩, fun h => h.2⟩

/-- A line break is a character like any other for a scan that is in no literal. -/
theorem Nesting.step_newline {n : Nesting} (h : n.quoting = .outside) : n.step '\n' = n := by
  obtain ⟨quoting, brackets, parens⟩ := n
  obtain rfl : quoting = .outside := h
  rfl

/-- A scope scan goes on through a text just if the scope does, and has behind it what the text
leaves open. -/
theorem scanScope_running_iff {n left : Nesting} {text more : List Char}
    (hbreaks : n.breaks text = false) :
    scanScope n text = .running more left ↔
      more = text ∧ left = n.through text ∧ n.GoesOn text := by
  induction text generalizing n more with
  | nil =>
    constructor
    · intro h
      cases h
      exact ⟨rfl, rfl, Nesting.goesOn_nil _⟩
    · rintro ⟨rfl, rfl, -⟩
      rfl
  | cons c text ih =>
    obtain ⟨hline, hbreaks⟩ := Nesting.breaks_cons.mp hbreaks
    have hstep : scanScope n (c :: text) =
        if c = ')' ∧ n = .none then .closed [] text else (scanScope (n.step c) text).cons c := by
      by_cases hnewline : c = '\n'
      · subst hnewline
        have hquoting := hline rfl
        have hnone : ¬('\n' = ')' ∧ n = .none) := fun hc => absurd hc.1 (by decide)
        rw [scanScope, hquoting, Nesting.step_newline hquoting, if_neg hnone,
          ← Nesting.after_plain (c := '\n') (by decide) n]
        exact if_neg fun hc => absurd hc.1 (by decide)
      · exact scanScope_cons hnewline n text
    rw [hstep, Nesting.goesOn_cons]
    split
    · rename_i hc
      exact ⟨fun h => (by cases h), fun h => absurd hc h.2.2.1⟩
    · rename_i hc
      constructor
      · intro h
        cases hs : scanScope (n.step c) text with
        | closed body rest => rw [hs] at h; cases h
        | running body m =>
          rw [hs] at h
          cases h
          obtain ⟨rfl, hleft, hgoes⟩ := (ih hbreaks).mp hs
          exact ⟨rfl, hleft, hc, hgoes⟩
      · rintro ⟨rfl, rfl, -, hgoes⟩
        rw [(ih hbreaks).mpr ⟨rfl, rfl, hgoes⟩]
        rfl

/-- The parenthesis that closes a scope is where it is, whatever follows. -/
theorem Whole.unique {a b rest rest' : List Char} (ha : Whole a) (hb : Whole b)
    (h : a ++ ')' :: rest = b ++ ')' :: rest') : a = b ∧ rest = rest' := by
  have hfront : ∀ {a b rest rest' t : List Char}, Whole a → Whole b → b = a ++ t →
      ')' :: rest = t ++ ')' :: rest' → a = b ∧ rest = rest' := by
    intro a b rest rest' t ha hb hbt ht
    cases t with
    | nil => exact ⟨by rw [hbt, List.append_nil], (List.cons.inj ht).2⟩
    | cons c t =>
      obtain ⟨rfl, -⟩ := List.cons.inj ht
      exact absurd ha.closed (hb.goesOn a t hbt)
  rcases List.append_eq_append_iff.mp h with ⟨t, hbt, ht⟩ | ⟨t, hat, ht⟩
  · exact hfront ha hb hbt ht
  · obtain ⟨rfl, rfl⟩ := hfront hb ha hat ht
    exact ⟨rfl, rfl⟩

theorem Whole.not_goesOn {scope : List Char} (h : Whole scope) (rest : List Char) :
    ¬Nesting.none.GoesOn (scope ++ ')' :: rest) :=
  fun hgoes => hgoes scope rest rfl h.closed

theorem Unfinished.not_delimited {scope trailer rest : List Char} (hw : Whole scope)
    (h : Unfinished (scope ++ ')' :: (trailer ++ ';' :: rest))) : False := by
  generalize htext : scope ++ ')' :: (trailer ++ ';' :: rest) = text at h
  cases h with
  | scope hgoes =>
    rw [← htext] at hgoes
    exact hw.not_goesOn _ hgoes
  | trailer hw' hsemi =>
    obtain ⟨-, rfl⟩ := hw.unique hw' htext
    exact hsemi (List.mem_append_right trailer List.mem_cons_self)

/-! ### Statements -/

/-- How a statement comes to its end. -/
inductive Ending where
  /-- The scope, and the text between the parenthesis that closes it and the semicolon. -/
  | delimited (scope trailer : List Char)
  /-- A line opens another statement first, or the document ends. -/
  | interrupted
  /-- The line `);` finds something left open in the scope. -/
  | givenUp
  deriving DecidableEq, Repr

/-- A name that a line gives. -/
structure Annotation where
  place : Nat
  name : List Char
  deriving DecidableEq, Repr

/-- A statement where it stands. -/
structure Statement where
  /-- The line on which it opens. -/
  place : Nat
  effect : Effect
  /-- What names it, unless its place among the rules does. -/
  annotation : Option Annotation
  ending : Ending
  deriving DecidableEq, Repr

/-- What the lines have ready to name a statement, once the rest of a line is passed. -/
def Line.leaves (cur : Line) (ready : Option Annotation) : Option Annotation :=
  match annotation? (trimStart cur.text) with
  | some name => some ⟨cur.place, name⟩
  | none => ready

/-- **From a line on, a statement comes to its end.** Its text so far is given, then the rest
of the line and the lines below; the end, what it leaves of its line and the lines below
that. -/
inductive Stretch : List Char → Line → List Line → Ending → Line → List Line → Prop where
  | delimited {sofar cur later scope trailer rest} :
      sofar ++ cur.text = scope ++ ')' :: (trailer ++ ';' :: rest) → Whole scope → ';' ∉ trailer →
      Stretch sofar cur later (.delimited scope trailer) ⟨cur.place, rest⟩ later
  | more {sofar cur next later ending last below} :
      Unfinished (sofar ++ cur.text ++ ['\n']) → opener? (trimStart next.text) = none →
      ¬(trim next.text = [')', ';'] ∧ Unbalanced (sofar ++ cur.text ++ ['\n'])) →
      Stretch (sofar ++ cur.text ++ ['\n']) next later ending last below →
      Stretch sofar cur (next :: later) ending last below
  | interrupted {sofar cur later} :
      Unfinished (sofar ++ cur.text ++ ['\n']) →
      (∀ next ∈ later.head?, (opener? (trimStart next.text)).isSome = true) →
      Stretch sofar cur later .interrupted ⟨cur.place, []⟩ later
  | givenUp {sofar cur next later} :
      Unbalanced (sofar ++ cur.text ++ ['\n']) → trim next.text = [')', ';'] →
      Stretch sofar cur (next :: later) .givenUp ⟨next.place, []⟩ later

/-- **The statements from a line on**, with what is ready to name the first of them, the rest
of the line and the lines below. -/
inductive Laid : Option Annotation → Line → List Line → List Statement → Prop where
  | last {ready cur} : opener? (trimStart cur.text) = none → Laid ready cur [] []
  | line {ready cur next later statements} : opener? (trimStart cur.text) = none →
      Laid (cur.leaves ready) next later statements → Laid ready cur (next :: later) statements
  | statement {ready cur later effect rest ending last below statements} :
      opener? (trimStart cur.text) = some (effect, rest) →
      Stretch [] ⟨cur.place, rest⟩ later ending last below →
      Laid none last below statements →
      Laid ready cur later (⟨cur.place, effect, ready, ending⟩ :: statements)

/-- The statements of a document. -/
def Layout (document : String) (statements : List Statement) : Prop :=
  Laid none ⟨0, []⟩ (visibleLines document) statements

/-! ### One layout -/

theorem Unbalanced.unfinished {text : List Char} (h : Unbalanced text) : Unfinished text :=
  .scope h.goesOn

theorem Stretch.unique {sofar : List Char} {cur last last' : Line}
    {later below below' : List Line} {ending ending' : Ending}
    (h : Stretch sofar cur later ending last below)
    (h' : Stretch sofar cur later ending' last' below') :
    ending = ending' ∧ last = last' ∧ below = below' := by
  -- A statement that is delimited on the line is not unfinished behind it.
  have hends : ∀ {sofar scope trailer rest : List Char} {cur : Line},
      sofar ++ cur.text = scope ++ ')' :: (trailer ++ ';' :: rest) → Whole scope →
      ¬Unfinished (sofar ++ cur.text ++ ['\n']) := by
    intro sofar scope trailer rest cur htext hw hu
    rw [htext, List.append_assoc, List.cons_append, List.append_assoc, List.cons_append] at hu
    exact hu.not_delimited hw
  have hopener : ∀ {text : List Char}, trim text = [')', ';'] →
      ¬(opener? (trimStart text)).isSome = true := by
    intro text hc ho
    rw [closer_opens_nothing hc] at ho
    cases ho
  induction h with
  | @delimited _ _ _ _ _ rest htext hw hs =>
    cases h' with
    | delimited htext' hw' hs' =>
      obtain ⟨rfl, htrailer⟩ := hw.unique hw' (htext.symm.trans htext')
      have hsemi := atSemicolon?_append hs rest
      rw [htrailer, atSemicolon?_append hs'] at hsemi
      cases hsemi
      exact ⟨rfl, rfl, rfl⟩
    | more hu _ _ _ => exact absurd hu (hends htext hw)
    | interrupted hu _ => exact absurd hu (hends htext hw)
    | givenUp hu _ => exact absurd hu.unfinished (hends htext hw)
  | more hu ho hc _ ih =>
    cases h' with
    | delimited htext hw _ => exact absurd hu (hends htext hw)
    | more _ _ _ hrest => exact ih hrest
    | interrupted _ hnext =>
      have hopens := hnext _ rfl
      rw [ho] at hopens
      cases hopens
    | givenUp hb htrim => exact absurd ⟨htrim, hb⟩ hc
  | interrupted hu hnext =>
    cases h' with
    | delimited htext hw _ => exact absurd hu (hends htext hw)
    | more _ ho _ _ =>
      have hopens := hnext _ rfl
      rw [ho] at hopens
      cases hopens
    | interrupted => exact ⟨rfl, rfl, rfl⟩
    | givenUp _ htrim => exact absurd (hnext _ rfl) (hopener htrim)
  | givenUp hb htrim =>
    cases h' with
    | delimited htext hw _ => exact absurd hb.unfinished (hends htext hw)
    | more _ _ hc _ => exact absurd ⟨htrim, hb⟩ hc
    | interrupted _ hnext => exact absurd (hnext _ rfl) (hopener htrim)
    | givenUp => exact ⟨rfl, rfl, rfl⟩

/-- **A document is laid out in one way only.** -/
theorem Laid.unique {ready : Option Annotation} {cur : Line} {later : List Line}
    {statements statements' : List Statement} (h : Laid ready cur later statements)
    (h' : Laid ready cur later statements') : statements = statements' := by
  induction h generalizing statements' with
  | last ho =>
    cases h' with
    | last => rfl
    | statement ho' => rw [ho] at ho'; cases ho'
  | line ho _ ih =>
    cases h' with
    | line _ hrest => exact ih hrest
    | statement ho' => rw [ho] at ho'; cases ho'
  | statement ho hs _ ih =>
    cases h' with
    | last ho' => rw [ho] at ho'; cases ho'
    | line ho' => rw [ho] at ho'; cases ho'
    | statement ho' hs' hrest =>
      rw [ho] at ho'
      cases ho'
      obtain ⟨rfl, rfl, rfl⟩ := hs.unique hs'
      rw [ih hrest]

end Portcullis.Policy
