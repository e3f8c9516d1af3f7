import Portcullis.Proofs.Policy.Layout

/-! The lines on which statements stand.

A stretch goes down the lines and leaves the rest of the one on which it ends (`Passes`). By
induction over the layout the statements come in the order of their lines (`Laid.ordered`),
no line that starts with an opener is left out (`Laid.covers`), none has more statements than
openers (`Laid.countP_le`), and no annotation names two (`Laid.annotations`). The numbers of
the lines are those of the document's lines, blank ones counted (`mem_visibleFrom_iff`). -/
namespace Portcullis.Policy
open Text

/-! ### Openers on a line -/

/-- How often a statement could open in a text, comments and literals included. -/
def openerCount : List Char → Nat
  | [] => 0
  | c :: rest => openerCount rest + if (opener? (c :: rest)).isSome then 1 else 0

theorem containsOpener_iff (text : List Char) :
    containsOpener text = true ↔ 0 < openerCount text := by
  induction text with
  | nil => simp [containsOpener, openerCount]
  | cons c text ih =>
    rw [containsOpener, Bool.or_eq_true, ih, openerCount]
    cases (opener? (c :: text)).isSome <;> simp

theorem openerCount_le_append (front text : List Char) :
    openerCount text ≤ openerCount (front ++ text) := by
  induction front with
  | nil => exact Nat.le_refl _
  | cons c front ih => exact Nat.le_trans ih (Nat.le_add_right _ _)

/-- Opening a statement uses up an opener. -/
theorem openerCount_lt {text rest : List Char} {effect : Effect}
    (h : opener? (trimStart text) = some (effect, rest)) : openerCount rest < openerCount text := by
  obtain ⟨lead, gap, -, hg, rfl⟩ := opens_iff.mp h
  have hopens := opener?_word hg effect rest
  have hword : ∃ c word, effect.word = c :: word := by cases effect <;> exact ⟨_, _, rfl⟩
  obtain ⟨c, word, hword⟩ := hword
  rw [hword, List.cons_append] at hopens ⊢
  calc openerCount rest
      ≤ openerCount (word ++ (gap ++ '(' :: rest)) := by
        simpa using openerCount_le_append (word ++ (gap ++ ['('])) rest
    _ < openerCount (c :: (word ++ (gap ++ '(' :: rest))) := by
        rw [openerCount, hopens]
        exact Nat.lt_succ_self _
    _ ≤ _ := openerCount_le_append lead _

/-- The openers on the lines with this number. -/
def openersOn (place : Nat) : List Line → Nat
  | [] => 0
  | l :: ls => (if l.place = place then openerCount l.text else 0) + openersOn place ls

@[simp] theorem openersOn_nil (place : Nat) : openersOn place [] = 0 := rfl

@[simp] theorem openersOn_cons (place : Nat) (l : Line) (ls : List Line) :
    openersOn place (l :: ls) =
      (if l.place = place then openerCount l.text else 0) + openersOn place ls := rfl

/-! ### Down the lines -/

/-- From a line on, lines that open nothing lead to the rest of the last of them. -/
inductive Passes : Line → List Line → Line → List Line → Prop where
  | here {cur later last} : last.place = cur.place → last.text <:+ cur.text →
      Passes cur later last later
  | on {cur next later last below} : opener? (trimStart next.text) = none →
      Passes next later last below → Passes cur (next :: later) last below

theorem Unfinished.rest_of_delimited {sofar text scope trailer rest : List Char}
    (hu : Unfinished sofar) (hw : Whole scope)
    (h : sofar ++ text = scope ++ ')' :: (trailer ++ ';' :: rest)) : rest <:+ text := by
  have hsplit : sofar ++ text = (scope ++ ')' :: (trailer ++ [';'])) ++ rest := by
    rw [h]
    simp
  rcases List.append_eq_append_iff.mp hsplit with ⟨back, -, htext⟩ | ⟨back, hsofar, -⟩
  · exact ⟨back, htext.symm⟩
  · have hdelimited : sofar = scope ++ ')' :: (trailer ++ ';' :: back) := by
      rw [hsofar]
      simp
    rw [hdelimited] at hu
    exact absurd hu fun hu => hu.not_delimited hw

/-- A statement goes down the lines to its end. -/
theorem Stretch.passes {sofar : List Char} {cur last : Line} {later below : List Line}
    {ending : Ending} (h : Stretch sofar cur later ending last below) (hu : Unfinished sofar) :
    Passes cur later last below := by
  induction h with
  | delimited htext hw _ => exact .here rfl (hu.rest_of_delimited hw htext)
  | more hmore ho _ _ ih => exact .on ho (ih hmore)
  | interrupted => exact .here rfl List.nil_suffix
  | givenUp _ htrim => exact .on (closer_opens_nothing htrim) (.here rfl List.nil_suffix)

section
variable {cur last : Line} {later below : List Line}

theorem Passes.widen {place : Nat} {rest text : List Char}
    (h : Passes ⟨place, rest⟩ later last below) (hrest : rest <:+ text) :
    Passes ⟨place, text⟩ later last below := by
  cases h with
  | here hplace htext => exact .here hplace (htext.trans hrest)
  | on ho hrest => exact .on ho hrest

/-- From the line on which it opens a statement goes down the lines to its end. -/
theorem Stretch.passes_opened {effect : Effect} {rest : List Char} {ending : Ending}
    (h : Stretch [] ⟨cur.place, rest⟩ later ending last below)
    (ho : opener? (trimStart cur.text) = some (effect, rest)) : Passes cur later last below := by
  have hpasses : Passes ⟨cur.place, rest⟩ later last below :=
    h.passes (.scope (Nesting.goesOn_nil _))
  exact hpasses.widen (opens_suffix ho)

/-- No line that starts with an opener is passed. -/
theorem Passes.covers (h : Passes cur later last below) {line : Line} (hline : line ∈ later)
    (ho : (opener? (trimStart line.text)).isSome = true) : line ∈ below := by
  induction h with
  | here => exact hline
  | on hnone _ ih =>
    rcases List.mem_cons.mp hline with rfl | hline
    · rw [hnone] at ho
      cases ho
    · exact ih hline

/-- What is behind comes from lines in front, or from the back of one. -/
theorem Passes.exists_line (h : Passes cur later last below) {line : Line}
    (hline : line ∈ last :: below) :
    ∃ whole ∈ cur :: later, line.place = whole.place ∧ line.text <:+ whole.text := by
  induction h with
  | @here cur later last hplace htext =>
    rcases List.mem_cons.mp hline with rfl | hline
    · exact ⟨cur, List.mem_cons_self, hplace, htext⟩
    · exact ⟨line, List.mem_cons_of_mem _ hline, rfl, List.suffix_refl _⟩
  | on _ _ ih =>
    obtain ⟨whole, hwhole, hrest⟩ := ih hline
    exact ⟨whole, List.mem_cons_of_mem _ hwhole, hrest⟩

theorem Passes.openersOn_le (h : Passes cur later last below) (place : Nat) :
    openersOn place (last :: below) ≤ openersOn place (cur :: later) := by
  induction h with
  | @here cur later last hplace htext =>
    obtain ⟨front, hfront⟩ := htext
    have hcount := openerCount_le_append front last.text
    rw [hfront] at hcount
    rw [openersOn_cons, openersOn_cons, hplace]
    split <;> omega
  | on _ _ ih =>
    rw [openersOn_cons _ _ (_ :: _)]
    omega

/-- The lines stay in order, and do not go back. -/
theorem Passes.sorted (h : Passes cur later last below)
    (hs : (cur :: later).Pairwise fun a b => a.place < b.place) :
    ((last :: below).Pairwise fun a b => a.place < b.place) ∧ cur.place ≤ last.place := by
  induction h with
  | here hplace _ =>
    rw [List.pairwise_cons] at hs ⊢
    exact ⟨⟨fun line hline => hplace ▸ hs.1 line hline, hs.2⟩, Nat.le_of_eq hplace.symm⟩
  | on _ _ ih =>
    obtain ⟨hcur, hs⟩ := List.pairwise_cons.mp hs
    obtain ⟨hlast, hle⟩ := ih hs
    exact ⟨hlast, Nat.le_trans (Nat.le_of_lt (hcur _ List.mem_cons_self)) hle⟩

end

/-! ### Over the layout -/

section
variable {ready : Option Annotation} {cur : Line} {later : List Line} {statements : List Statement}

/-- **A line that starts with an opener has a statement.** -/
theorem Laid.covers (h : Laid ready cur later statements) {line : Line}
    (hline : line ∈ cur :: later) (ho : (opener? (trimStart line.text)).isSome = true) :
    ∃ s ∈ statements, s.place = line.place := by
  induction h with
  | last hnone =>
    obtain rfl := List.mem_singleton.mp hline
    rw [hnone] at ho
    cases ho
  | line hnone _ ih =>
    rcases List.mem_cons.mp hline with rfl | hline
    · rw [hnone] at ho
      cases ho
    · exact ih hline
  | statement hopens hstretch _ ih =>
    rcases List.mem_cons.mp hline with rfl | hline
    · exact ⟨_, List.mem_cons_self, rfl⟩
    · have hbelow := (hstretch.passes_opened hopens).covers hline ho
      obtain ⟨s, hs, hplace⟩ := ih (List.mem_cons_of_mem _ hbelow)
      exact ⟨s, List.mem_cons_of_mem _ hs, hplace⟩

/-- **A line has no more statements than openers.** -/
theorem Laid.countP_le (h : Laid ready cur later statements) (place : Nat) :
    (statements.countP fun s => s.place = place) ≤ openersOn place (cur :: later) := by
  induction h with
  | last => exact Nat.zero_le _
  | line _ _ ih =>
    rw [openersOn_cons]
    omega
  | @statement _ cur later effect rest _ last below _ hopens hstretch _ ih =>
    have hpasses := (hstretch.passes (.scope (Nesting.goesOn_nil _))).openersOn_le place
    have hcount := openerCount_lt hopens
    simp only [openersOn_cons, List.countP_cons, decide_eq_true_eq] at ih hpasses ⊢
    split <;> simp_all <;> omega

/-- **Statements come in the order of their lines.** -/
theorem Laid.ordered (h : Laid ready cur later statements)
    (hs : (cur :: later).Pairwise fun a b => a.place < b.place) :
    (statements.Pairwise fun s t => s.place ≤ t.place) ∧ ∀ s ∈ statements, cur.place ≤ s.place := by
  induction h with
  | last => exact ⟨.nil, fun s hmem => by cases hmem⟩
  | line _ _ ih =>
    obtain ⟨hcur, hs⟩ := List.pairwise_cons.mp hs
    obtain ⟨hordered, hle⟩ := ih hs
    exact ⟨hordered, fun s hmem =>
      Nat.le_trans (Nat.le_of_lt (hcur _ List.mem_cons_self)) (hle s hmem)⟩
  | @statement _ cur _ _ _ _ _ _ others hopens hstretch _ ih =>
    obtain ⟨hbelow, hplace⟩ := (hstretch.passes_opened hopens).sorted hs
    obtain ⟨hordered, hle⟩ := ih hbelow
    have hcur : ∀ s ∈ others, cur.place ≤ s.place := fun s hmem => Nat.le_trans hplace (hle s hmem)
    refine ⟨List.pairwise_cons.mpr ⟨hcur, hordered⟩, fun s hmem => ?_⟩
    rcases List.mem_cons.mp hmem with rfl | hmem
    · exact Nat.le_refl _
    · exact hcur s hmem

/-- The line ends in an annotation that gives this name. -/
def Annotation.On (a : Annotation) (line : Line) : Prop :=
  line.place = a.place ∧ ∃ text, text <:+ line.text ∧ annotation? text = some a.name

theorem Line.of_leaves {a : Annotation} (h : cur.leaves ready = some a) :
    ready = some a ∨ a.On cur := by
  rw [Line.leaves] at h
  split at h
  · rename_i name hname
    cases h
    exact .inr ⟨rfl, _, List.dropWhile_suffix _, hname⟩
  · exact .inl h

/-- **What names a statement stands on a line.** -/
theorem Laid.named (h : Laid ready cur later statements) {s : Statement} (hs : s ∈ statements)
    {a : Annotation} (ha : s.annotation = some a) :
    ready = some a ∨ ∃ line ∈ cur :: later, a.On line := by
  induction h with
  | last => cases hs
  | line _ _ ih =>
    rcases ih hs with hleaves | ⟨line, hline, hon⟩
    · rcases Line.of_leaves hleaves with hready | hon
      · exact .inl hready
      · exact .inr ⟨_, List.mem_cons_self, hon⟩
    · exact .inr ⟨line, List.mem_cons_of_mem _ hline, hon⟩
  | statement hopens hstretch _ ih =>
    rcases List.mem_cons.mp hs with rfl | hs
    · exact .inl ha
    · rcases ih hs with hnone | ⟨line, hline, hplace, text, htext, hname⟩
      · cases hnone
      · obtain ⟨whole, hwhole, heq, hback⟩ := (hstretch.passes_opened hopens).exists_line hline
        exact .inr ⟨whole, hwhole, heq ▸ hplace, text, htext.trans hback, hname⟩

/-- **Annotations that name statements come in order**, so none of them names two. -/
theorem Laid.annotations (h : Laid ready cur later statements)
    (hs : (cur :: later).Pairwise fun a b => a.place < b.place)
    (hready : ∀ a, ready = some a → a.place < cur.place) :
    ((statements.filterMap Statement.annotation).Pairwise fun a b => a.place < b.place) ∧
      ∀ a ∈ statements.filterMap Statement.annotation, ready = some a ∨ cur.place ≤ a.place := by
  induction h with
  | last => exact ⟨.nil, fun a hmem => by cases hmem⟩
  | @line ready cur next _ _ _ _ ih =>
    obtain ⟨hcur, hs⟩ := List.pairwise_cons.mp hs
    have hnext := hcur next List.mem_cons_self
    have hleaves : ∀ a, cur.leaves ready = some a → ready = some a ∨ a.place = cur.place := by
      intro a ha
      rcases Line.of_leaves ha with ha | ⟨hplace, -⟩
      · exact .inl ha
      · exact .inr hplace.symm
    -- The line leaves what was ready, from further up, or a name of its own.
    obtain ⟨hordered, hfrom⟩ := ih hs fun a ha => by
      rcases hleaves a ha with ha | ha
      · exact Nat.lt_trans (hready a ha) hnext
      · exact ha ▸ hnext
    refine ⟨hordered, fun a hmem => ?_⟩
    rcases hfrom a hmem with ha | hle
    · rcases hleaves a ha with ha | ha
      · exact .inl ha
      · exact .inr (Nat.le_of_eq ha.symm)
    · exact .inr (Nat.le_trans (Nat.le_of_lt hnext) hle)
  | @statement ready cur _ effect _ ending _ _ others hopens hstretch _ ih =>
    obtain ⟨hbelow, hplace⟩ := (hstretch.passes_opened hopens).sorted hs
    obtain ⟨hordered, hfrom⟩ := ih hbelow fun a ha => by cases ha
    have hcur : ∀ a ∈ others.filterMap Statement.annotation, cur.place ≤ a.place := by
      intro a hmem
      rcases hfrom a hmem with ha | hle
      · cases ha
      · exact Nat.le_trans hplace hle
    cases ready with
    | none => exact ⟨hordered, fun a hmem => .inr (hcur a hmem)⟩
    | some a =>
      have hnamed : (⟨cur.place, effect, some a, ending⟩ :: others).filterMap
          Statement.annotation = a :: others.filterMap Statement.annotation := rfl
      rw [hnamed]
      have hlt := hready a rfl
      refine ⟨List.pairwise_cons.mpr ⟨fun b hmem => Nat.lt_of_lt_of_le hlt (hcur b hmem),
        hordered⟩, fun b hmem => ?_⟩
      rcases List.mem_cons.mp hmem with rfl | hmem
      · exact .inl rfl
      · exact .inr (hcur b hmem)

end

/-! ### The lines of a document -/

/-- The lines that are seen, by their numbers. -/
theorem mem_visibleFrom_iff {place : Nat} {raws : List (List Char)} {l : Line} :
    l ∈ visibleFrom place raws ↔
      ∃ i raw, raws[i]? = some raw ∧ ¬allBlank (withoutComment raw) = true ∧
        l = ⟨place + i, withoutComment raw⟩ := by
  induction raws generalizing place with
  | nil => simp [visibleFrom]
  | cons raw raws ih =>
    -- The first line has index zero, the others are found by the induction.
    have hsplit : (∃ i r, (raw :: raws)[i]? = some r ∧ ¬allBlank (withoutComment r) = true ∧
          l = ⟨place + i, withoutComment r⟩) ↔
        (¬allBlank (withoutComment raw) = true ∧ l = ⟨place, withoutComment raw⟩) ∨
          l ∈ visibleFrom (place + 1) raws := by
      rw [ih]
      constructor
      · rintro ⟨i, r, hr, hb, rfl⟩
        cases i with
        | zero =>
          cases hr
          exact .inl ⟨hb, rfl⟩
        | succ i => exact .inr ⟨i, r, hr, hb, by rw [Nat.add_right_comm, Nat.add_assoc]⟩
      · rintro (⟨hb, rfl⟩ | ⟨i, r, hr, hb, rfl⟩)
        · exact ⟨0, raw, rfl, hb, rfl⟩
        · exact ⟨i + 1, r, hr, hb, by rw [Nat.add_right_comm, Nat.add_assoc]⟩
    rw [hsplit, visibleFrom]
    split
    · rename_i hb
      exact ⟨.inr, fun h => h.resolve_left fun hl => hl.1 hb⟩
    · rename_i hb
      rw [List.mem_cons]
      exact ⟨fun h => h.imp_left fun hl => ⟨hb, hl⟩, fun h => h.imp_left fun hl => hl.2⟩

theorem visibleFrom_sorted (place : Nat) (raws : List (List Char)) :
    (visibleFrom place raws).Pairwise fun a b => a.place < b.place := by
  induction raws generalizing place with
  | nil => exact .nil
  | cons raw raws ih =>
    rw [visibleFrom]
    split
    · exact ih (place + 1)
    · refine List.pairwise_cons.mpr ⟨fun l hl => ?_, ih (place + 1)⟩
      obtain ⟨i, r, -, -, rfl⟩ := mem_visibleFrom_iff.mp hl
      exact Nat.lt_of_lt_of_le (Nat.lt_succ_self place) (Nat.le_add_right _ i)

/-- In front of the first line nothing stands. -/
theorem sorted_from_start (document : String) :
    ((⟨0, []⟩ : Line) :: visibleLines document).Pairwise fun a b => a.place < b.place := by
  refine List.pairwise_cons.mpr ⟨fun l hl => ?_, visibleFrom_sorted 1 _⟩
  obtain ⟨i, r, -, -, rfl⟩ := mem_visibleFrom_iff.mp hl
  exact Nat.lt_of_lt_of_le Nat.zero_lt_one (Nat.le_add_right 1 i)

/-- Only a line with this number has openers on it. -/
theorem openersOn_eq_zero {place : Nat} {ls : List Line} (h : ∀ l ∈ ls, l.place ≠ place) :
    openersOn place ls = 0 := by
  induction ls with
  | nil => rfl
  | cons l ls ih =>
    obtain ⟨hl, hls⟩ := List.forall_mem_cons.mp h
    rw [openersOn_cons, if_neg hl, ih hls]

/-- Among lines with different numbers the openers are those of one line. -/
theorem openersOn_of_mem {ls : List Line} (hs : ls.Pairwise fun a b => a.place < b.place)
    {l : Line} (hl : l ∈ ls) : openersOn l.place ls = openerCount l.text := by
  induction ls with
  | nil => cases hl
  | cons first ls ih =>
    obtain ⟨hfirst, hs⟩ := List.pairwise_cons.mp hs
    rcases List.mem_cons.mp hl with rfl | hl
    · rw [openersOn_cons, if_pos rfl, openersOn_eq_zero fun l hl => Nat.ne_of_gt (hfirst l hl)]
      rfl
    · rw [openersOn_cons, if_neg (Nat.ne_of_lt (hfirst l hl)), ih hs hl, Nat.zero_add]

section
variable {document : String} {statements : List Statement}

theorem Layout.covers (h : Layout document statements) {n : Nat} {raw : List Char}
    (hraw : (lines document.toList)[n]? = some raw)
    (ho : (opener? (trimStart (withoutComment raw))).isSome = true) :
    ∃ s ∈ statements, s.place = n + 1 := by
  have hvisible : ¬allBlank (withoutComment raw) = true := by
    intro hb
    rw [trimStart_eq_nil_iff.mpr hb] at ho
    cases ho
  have hline : (⟨1 + n, withoutComment raw⟩ : Line) ∈ visibleLines document :=
    mem_visibleFrom_iff.mpr ⟨n, raw, hraw, hvisible, rfl⟩
  obtain ⟨s, hs, hplace⟩ := Laid.covers h (List.mem_cons_of_mem _ hline) ho
  exact ⟨s, hs, by rw [hplace, Nat.add_comm]⟩

theorem Layout.countP_le (h : Layout document statements) {n : Nat} {raw : List Char}
    (hraw : (lines document.toList)[n]? = some raw) :
    (statements.countP fun s => s.place = n + 1) ≤ openerCount (withoutComment raw) := by
  refine Nat.le_trans (Laid.countP_le h (n + 1)) ?_
  by_cases hb : allBlank (withoutComment raw) = true
  · rw [openersOn_eq_zero]
    · exact Nat.zero_le _
    · intro l hl hplace
      rcases List.mem_cons.mp hl with rfl | hl
      · cases hplace
      · obtain ⟨i, r, hr, hvisible, rfl⟩ := mem_visibleFrom_iff.mp hl
        have hplace : 1 + i = n + 1 := hplace
        obtain rfl : i = n := by omega
        rw [hraw] at hr
        cases hr
        exact hvisible hb
  · have hline : (⟨1 + n, withoutComment raw⟩ : Line) ∈ visibleLines document :=
      mem_visibleFrom_iff.mpr ⟨n, raw, hraw, hb, rfl⟩
    rw [Nat.add_comm n 1]
    exact Nat.le_of_eq
      (openersOn_of_mem (sorted_from_start document) (List.mem_cons_of_mem _ hline))

/-- Statements open on the lines of the document. -/
theorem Layout.within (h : Layout document statements) {s : Statement} (hs : s ∈ statements) :
    1 ≤ s.place ∧ s.place ≤ (lines document.toList).length := by
  have hpos : 0 < openersOn s.place (⟨0, []⟩ :: visibleLines document) :=
    Nat.lt_of_lt_of_le (List.countP_pos_iff.mpr ⟨s, hs, by simp⟩) (Laid.countP_le h s.place)
  have hfirst : 1 ≤ s.place := by
    rcases Nat.eq_zero_or_pos s.place with hzero | hplace
    · have hstart := openersOn_of_mem (sorted_from_start document) List.mem_cons_self
      rw [hzero, hstart] at hpos
      cases hpos
    · exact hplace
  refine ⟨hfirst, Nat.le_of_not_lt fun hbeyond => ?_⟩
  rw [openersOn_eq_zero] at hpos
  · cases hpos
  · intro l hl hplace
    rcases List.mem_cons.mp hl with rfl | hl
    · exact absurd hplace (Nat.ne_of_lt hfirst)
    · obtain ⟨i, r, hr, -, rfl⟩ := mem_visibleFrom_iff.mp hl
      have hi := (List.getElem?_eq_some_iff.mp hr).1
      have hplace : 1 + i = s.place := hplace
      omega

theorem Layout.ordered (h : Layout document statements) :
    statements.Pairwise fun s t => s.place ≤ t.place :=
  (Laid.ordered h (sorted_from_start document)).1

/-- Where lines can be counted in machine words, the words come in order too. -/
theorem Layout.words_ordered (h : Layout document statements)
    (hsize : (lines document.toList).length < UInt64.size) (keep : Statement → Bool) :
    ((statements.filter keep).map fun s => UInt64.ofNat s.place).Pairwise (· ≤ ·) := by
  rw [List.pairwise_map]
  refine (h.ordered.filter keep).imp_of_mem fun {s t} hs ht hle => ?_
  have hs' := (h.within (List.mem_filter.mp hs).1).2
  have ht' := (h.within (List.mem_filter.mp ht).1).2
  rw [UInt64.le_iff_toNat_le, UInt64.toNat_ofNat_of_lt' (by omega),
    UInt64.toNat_ofNat_of_lt' (by omega)]
  exact hle

/-- Then the word for a line stands for that line only. -/
theorem Layout.countP_word (h : Layout document statements)
    (hsize : (lines document.toList).length < UInt64.size) {n : Nat} {raw : List Char}
    (hraw : (lines document.toList)[n]? = some raw) (keep : Statement → Bool) :
    ((statements.filter keep).map fun s => UInt64.ofNat s.place).count (UInt64.ofNat (n + 1)) =
      (statements.filter keep).countP fun s => s.place = n + 1 := by
  rw [List.count, List.countP_map]
  refine List.countP_congr fun s hs => ?_
  have hs' := (h.within (List.mem_filter.mp hs).1).2
  have hn := (List.getElem?_eq_some_iff.mp hraw).1
  simp only [Function.comp_apply, beq_iff_eq, decide_eq_true_eq]
  refine ⟨fun heq => ?_, fun heq => by rw [heq]⟩
  have hword := congrArg UInt64.toNat heq
  rwa [UInt64.toNat_ofNat_of_lt' (by omega), UInt64.toNat_ofNat_of_lt' (by omega)] at hword

theorem Layout.named (h : Layout document statements) {s : Statement} (hs : s ∈ statements)
    {a : Annotation} (ha : s.annotation = some a) : ∃ line ∈ visibleLines document, a.On line := by
  rcases Laid.named h hs ha with hnone | ⟨line, hline, hon⟩
  · cases hnone
  · rcases List.mem_cons.mp hline with rfl | hline
    · -- In front of the first line no name is given.
      obtain ⟨-, text, htext, hname⟩ := hon
      obtain rfl := List.suffix_nil.mp htext
      cases hname
    · exact ⟨line, hline, hon⟩

theorem Layout.annotations (h : Layout document statements) :
    (statements.filterMap Statement.annotation).Pairwise fun a b => a.place < b.place :=
  (Laid.annotations h (sorted_from_start document) fun a ha => by cases ha).1

end

end Portcullis.Policy
