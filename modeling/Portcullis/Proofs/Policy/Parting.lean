import Portcullis.Proofs.Policy.Layout

/-! Which commas part a scope.

The text of a scope is scanned twice, and both scans count what is open. The one that looks for
the closing parenthesis counts lists and parentheses apart; the one that parts the text at commas
counts them together. What closes when nothing of its own kind is open, but something of the other
kind, counts for the second scan only: it crosses (`Nesting.Crosses`). In front of the first
crossing the two agree on which commas are at the top (`commas_part`). Behind it the second may
find itself at the top of the scope while the first is in a list, and the items of the list
become clauses (`list_parted`). -/
namespace Portcullis.Policy
open Text

/-! ### Both scans -/

/-- Text of a scope that a reader collects line by line until the scope is closed, from where `n`
is open. No line ends inside a literal. -/
inductive Collected : Nesting → List Char → Prop where
  | closed {n line body rest} : '\n' ∉ line → scanScope n line = .closed body rest →
      Collected n body
  | more {n line body left scope} : '\n' ∉ line → scanScope n line = .running body left →
      left.quoting = .outside → Collected left scope → Collected n (body ++ '\n' :: scope)

/-- The comma between two texts parts them: the pieces are those of the one and then those of
the other. -/
def Parts (before after : List Char) : Prop :=
  splitFrom .outside 0 (before ++ ',' :: after) =
    splitFrom .outside 0 before ++ splitFrom .outside 0 after

/-- A character that closes nothing of its own kind, where something of the other kind is
open. -/
def Nesting.Crosses (n : Nesting) (c : Char) : Prop :=
  n.quoting = .outside ∧
    (c = ']' ∧ n.brackets = 0 ∧ 0 < n.parens ∨ c = ')' ∧ n.parens = 0 ∧ 0 < n.brackets)

/-- Some character of a text crosses. -/
def Nesting.Crossed (n : Nesting) (text : List Char) : Prop :=
  ∃ front c back, text = front ++ c :: back ∧ (n.through front).Crosses c

/-- What the scan for commas counts after one more character, if it takes literals as `n`
does. -/
def Nesting.depthStep (n : Nesting) (depth : Nat) (c : Char) : Nat :=
  if n.quoting = .outside then depthAfter depth c else depth

/-- What it counts behind a text. -/
def Nesting.depthThrough (n : Nesting) (depth : Nat) : List Char → Nat
  | [] => depth
  | c :: rest => (n.step c).depthThrough (n.depthStep depth c) rest

/-- Collected text goes on to its end, and no literal is open at a line break of it. -/
theorem Collected.goesOn {n : Nesting} {scope : List Char} (h : Collected n scope) :
    n.GoesOn scope ∧ n.breaks scope = false := by
  induction h with
  | @closed n line body rest hline hscan =>
    obtain ⟨rfl, -, hgoes⟩ := goesOn_of_closed hline hscan
    rw [List.mem_append, not_or] at hline
    exact ⟨hgoes, Nesting.breaks_of_notMem hline.1 n⟩
  | @more n line body left scope hline hscan hquoting _ ih =>
    have hunbroken := Nesting.breaks_of_notMem hline n
    obtain ⟨rfl, rfl, hgoes⟩ := (scanScope_running_iff hunbroken).mp hscan
    rw [← Nesting.step_newline hquoting] at ih
    constructor
    · have hline : (n.through body).GoesOn ('\n' :: scope) :=
        Nesting.goesOn_cons.mpr ⟨fun hc => absurd hc.1 (by decide), ih.1⟩
      exact Nesting.goesOn_append.mpr ⟨hgoes, hline⟩
    · rw [Nesting.breaks_append, hunbroken, Bool.false_or]
      exact Nesting.breaks_cons.mpr ⟨fun _ => hquoting, ih.2⟩

/-! ### The scan for commas -/

theorem splitFrom_cons {n : Nesting} {c : Char} (hline : c = '\n' → n.quoting = .outside)
    (depth : Nat) (rest : List Char) :
    splitFrom n.quoting depth (c :: rest) =
      if c = ',' ∧ n.quoting = .outside ∧ depth = 0 then [] :: splitFrom .outside 0 rest
      else consFirst c (splitFrom (n.step c).quoting (n.depthStep depth c) rest) := by
  obtain ⟨quoting, brackets, parens⟩ := n
  by_cases hc : c = '\n'
  · obtain rfl : quoting = .outside := hline hc
    subst hc
    rfl
  · cases quoting with
    | outside =>
      have hafter : (Nesting.after ⟨.outside, brackets, parens⟩ c).quoting =
          if c = '"' then .inside else .outside := by
        grind [Nesting.after]
      simp [splitFrom, Nesting.step, Nesting.depthStep, hc, hafter]
    | inside => simp [splitFrom, Nesting.step, Nesting.depthStep, hc]
    | escaped => simp [splitFrom, Nesting.step, Nesting.depthStep, hc]

theorem consFirst_append (c : Char) (done : List (List Char)) (last : List Char) :
    ∃ done' last', consFirst c (done ++ [last]) = done' ++ [last'] ∧
      ∀ others, consFirst c (done ++ inFront last others) = done' ++ inFront last' others := by
  cases done with
  | nil => exact ⟨[], c :: last, rfl, fun others => rfl⟩
  | cons piece done => exact ⟨(c :: piece) :: done, last, rfl, fun others => rfl⟩

/-- The scan for commas has done some pieces behind a text and is in another one. It goes on
from what the text leaves open. -/
theorem splitFrom_through {n : Nesting} {before : List Char} (h : n.breaks before = false)
    (depth : Nat) :
    ∃ done last, splitFrom n.quoting depth before = done ++ [last] ∧
      ∀ rest, splitFrom n.quoting depth (before ++ rest) =
        done ++ inFront last
          (splitFrom (n.through before).quoting (n.depthThrough depth before) rest) := by
  induction before generalizing n depth with
  | nil => exact ⟨[], [], by rw [splitFrom]; rfl, fun rest => rfl⟩
  | cons c before ih =>
    obtain ⟨hline, hbreaks⟩ := Nesting.breaks_cons.mp h
    simp only [List.cons_append, splitFrom_cons hline]
    by_cases hc : c = ',' ∧ n.quoting = .outside ∧ depth = 0
    · obtain ⟨done, last, hfront, hrest⟩ := ih hbreaks 0
      obtain ⟨rfl, hquoting, rfl⟩ := hc
      have hstep : (n.step ',').quoting = .outside := by
        simp [Nesting.step, Nesting.after, hquoting]
      rw [hstep] at hfront hrest
      refine ⟨[] :: done, last, ?_, fun rest => ?_⟩
      · rw [if_pos ⟨rfl, hquoting, rfl⟩, hfront]
        rfl
      · rw [if_pos ⟨rfl, hquoting, rfl⟩, hrest, Nesting.depthThrough, Nesting.depthStep,
          if_pos hquoting]
        rfl
    · obtain ⟨done, last, hfront, hrest⟩ := ih hbreaks _
      obtain ⟨done', last', hfront', hrest'⟩ := consFirst_append c done last
      refine ⟨done', last', ?_, fun rest => ?_⟩
      · rw [if_neg hc, hfront, hfront']
      · rw [if_neg hc, hrest, hrest']
        rfl

/-- A comma that is not at the top is part of a piece like any other character. -/
theorem splitFrom_inner {quoting : Quoting} {depth : Nat}
    (h : ¬(quoting = .outside ∧ depth = 0)) (after : List Char) :
    ∃ piece others, splitFrom quoting depth (',' :: after) = (',' :: piece) :: others := by
  have hcons : ∀ pieces, ∃ piece others, consFirst ',' pieces = (',' :: piece) :: others := by
    intro pieces
    cases pieces with
    | nil => exact ⟨[], [], rfl⟩
    | cons piece others => exact ⟨piece, others, rfl⟩
  cases quoting with
  | escaped => exact hcons _
  | inside => exact hcons _
  | outside =>
    rw [splitFrom, if_neg fun hc => h ⟨rfl, hc.2⟩]
    exact hcons _

/-- **A comma parts a text just where the scan for commas is at the top.** -/
theorem parts_iff {before : List Char} (h : Nesting.none.breaks before = false)
    (after : List Char) :
    Parts before after ↔ (Nesting.none.through before).quoting = .outside ∧
      Nesting.none.depthThrough 0 before = 0 := by
  obtain ⟨done, last, hfront, hrest⟩ := splitFrom_through h 0
  have hquoting : Nesting.none.quoting = .outside := rfl
  rw [hquoting] at hfront hrest
  rw [Parts, hrest, hfront]
  constructor
  · intro hparts
    by_cases htop : (Nesting.none.through before).quoting = .outside ∧
        Nesting.none.depthThrough 0 before = 0
    · exact htop
    · -- The piece that the comma stands in is longer than the text in front of the comma.
      obtain ⟨piece, others, hinner⟩ := splitFrom_inner htop after
      rw [hinner, inFront_piece, List.append_assoc] at hparts
      have hlast := (List.cons.inj (List.append_cancel_left hparts)).1
      simp at hlast
  · rintro ⟨hout, hdepth⟩
    rw [hout, hdepth, splitFrom, if_pos ⟨rfl, rfl⟩, inFront_piece]
    simp

/-! ### The two counts -/

/-- What one character does to the two counts: that of the scan for commas stays below the other
one, and equal to it unless the character crosses. -/
theorem count_step {n : Nesting} {depth : Nat} (h : depth ≤ n.brackets + n.parens) (c : Char) :
    n.depthStep depth c ≤ (n.step c).brackets + (n.step c).parens ∧
      (depth = n.brackets + n.parens → ¬n.Crosses c →
        n.depthStep depth c = (n.step c).brackets + (n.step c).parens) := by
  obtain ⟨quoting, brackets, parens⟩ := n
  cases quoting with
  | outside =>
    by_cases hopen : c = '[' ∨ c = '('
    · rcases hopen with rfl | rfl <;>
        simp [Nesting.depthStep, depthAfter, Nesting.step, Nesting.after] at h ⊢ <;> omega
    · by_cases hclose : c = ']' ∨ c = ')'
      · rcases hclose with rfl | rfl <;>
          simp [Nesting.depthStep, depthAfter, Nesting.step, Nesting.after, Nesting.Crosses]
            at h ⊢ <;> omega
      · rw [not_or] at hopen hclose
        have hcount : (Nesting.step ⟨.outside, brackets, parens⟩ c).brackets = brackets ∧
            (Nesting.step ⟨.outside, brackets, parens⟩ c).parens = parens := by
          grind [Nesting.step, Nesting.after]
        have hdepth : depthAfter depth c = depth := by simp [depthAfter, hopen, hclose]
        rw [Nesting.depthStep, if_pos rfl, hdepth, hcount.1, hcount.2]
        exact ⟨h, fun heq _ => heq⟩
  | inside => grind [Nesting.step, Nesting.depthStep]
  | escaped => grind [Nesting.step, Nesting.depthStep]

theorem Nesting.crossed_cons {n : Nesting} {c : Char} {text : List Char} :
    n.Crossed (c :: text) ↔ n.Crosses c ∨ (n.step c).Crossed text := by
  constructor
  · rintro ⟨front, d, back, htext, hcross⟩
    cases front with
    | nil =>
      obtain ⟨rfl, -⟩ := List.cons.inj htext
      exact .inl hcross
    | cons _ front =>
      obtain ⟨rfl, hrest⟩ := List.cons.inj htext
      exact .inr ⟨front, d, back, hrest, hcross⟩
  · rintro (hcross | ⟨front, d, back, rfl, hcross⟩)
    · exact ⟨[], c, text, rfl, hcross⟩
    · exact ⟨c :: front, d, back, rfl, hcross⟩

/-- The count of the scan for commas stays below the other one, and equal to it until something
crosses. -/
theorem count_through {n : Nesting} {depth : Nat} (h : depth ≤ n.brackets + n.parens)
    (text : List Char) :
    n.depthThrough depth text ≤ (n.through text).brackets + (n.through text).parens ∧
      (depth = n.brackets + n.parens → ¬n.Crossed text →
        n.depthThrough depth text = (n.through text).brackets + (n.through text).parens) := by
  induction text generalizing n depth with
  | nil => exact ⟨h, fun heq _ => heq⟩
  | cons c text ih =>
    obtain ⟨hle, heq⟩ := count_step h c
    obtain ⟨ihle, iheq⟩ := ih hle
    refine ⟨ihle, fun hdepth hcrossed => ?_⟩
    rw [Nesting.crossed_cons, not_or] at hcrossed
    exact iheq (heq hdepth hcrossed.1) hcrossed.2

/-! ### Commas of a scope -/

/-- **Which commas part a scope.** At each comma of it the scope scan finds something open or
nothing. A comma in a literal never parts the scope, one where nothing is open always does, and
as long as nothing crosses in front of it a comma parts the scope only there. -/
theorem commas_part {scope before after : List Char} (h : Collected .none scope)
    (hcomma : scope = before ++ ',' :: after) :
    ∃ left, scanScope .none before = .running before left ∧
      (Parts before after → left.quoting = .outside) ∧
      (left = .none → Parts before after) ∧
      (¬Nesting.none.Crossed before → (Parts before after ↔ left = .none)) := by
  obtain ⟨hgoes, hbreaks⟩ := h.goesOn
  rw [hcomma] at hgoes hbreaks
  rw [Nesting.breaks_append, Bool.or_eq_false_iff] at hbreaks
  obtain ⟨hle, heq⟩ := count_through (n := .none) (Nat.le_refl 0) before
  have hscan := (scanScope_running_iff hbreaks.1).mpr ⟨rfl, rfl, (Nesting.goesOn_append.mp hgoes).1⟩
  refine ⟨_, hscan, ?_⟩
  rw [parts_iff hbreaks.1]
  generalize Nesting.none.through before = left at hle heq
  obtain ⟨quoting, brackets, parens⟩ := left
  refine ⟨fun hparts => hparts.1, ?_, ?_⟩
  · intro hnone
    cases hnone
    exact ⟨rfl, Nat.le_zero.mp hle⟩
  · intro hcrossed
    rw [heq rfl hcrossed]
    simp [Nesting.none]

/-! ### A list that is parted -/

/-- The front of a scope, up to a comma in a list of resources. -/
def listFront : List Char := "principal in NS::Client::\"ops\", resource in [NS::R::\"a\")".toList

def listBack : List Char := " principal, resource in NS::R::\"b\"]".toList

theorem list_collected : Collected .none (listFront ++ ',' :: listBack) := by
  have hscan : scanScope .none (listFront ++ ',' :: (listBack ++ [')'])) =
      .closed (listFront ++ ',' :: listBack) [] := by decide +kernel
  exact .closed (by decide +kernel) hscan

theorem list_open :
    scanScope .none listFront = .running listFront ⟨.outside, 1, 0⟩ := by
  decide +kernel

theorem list_parts : Parts listFront listBack := by
  unfold Parts
  decide +kernel

/-- The comma parts the scope, although it stands in the list: something has crossed. -/
theorem commas_part_list :
    Collected .none (listFront ++ ',' :: listBack) ∧ Parts listFront listBack ∧
      Nesting.none.Crossed listFront := by
  refine ⟨list_collected, list_parts, ?_⟩
  obtain ⟨left, hscan, -, -, hagree⟩ := commas_part list_collected rfl
  obtain rfl : left = ⟨.outside, 1, 0⟩ :=
    (ScopeScan.running.inj (hscan.symm.trans list_open)).2
  by_cases hcrossed : Nesting.none.Crossed listFront
  · exact hcrossed
  · exact absurd ((hagree hcrossed).mp list_parts) (by decide)

/-- **The items of a list become clauses.** For the scope scan the comma stands in a list, and
the statement is about one principal. Parted there, it says a second time which principals it is
about, namely all. -/
theorem list_parted :
    Collected .none (listFront ++ ',' :: listBack) ∧
      scanScope .none listFront = .running listFront ⟨.outside, 1, 0⟩ ∧
      Parts listFront listBack ∧
      report (String.ofList (Effect.permit.word ++
          '(' :: (listFront ++ ',' :: (listBack ++ [')', ';'])))) =
        ⟨[⟨"policy0", .permit, .unconstrained, .unconstrained, 1⟩], []⟩ := by
  refine ⟨list_collected, list_open, list_parts, ?_⟩
  decide +kernel

end Portcullis.Policy
