import Portcullis.Proofs.Policy.Places
import Portcullis.Proofs.Policy.Tracing

/-! Every statement that opens has one entry, on its line.

A report has an entry for each statement of the layout: a rule or a discarded statement
(`report_of_passages`). It carries the line on which the statement opens, and a rule the name
of its statement (`lines_rules`, `lines_discarded`, `id_of_rule`). So what the entries say of
the lines is read off the layout (`layout_accounts`). -/
namespace Portcullis.Policy
open Text

/-! ### One entry a statement -/

/-- Whether a statement becomes a rule. If not, it is discarded. -/
def Statement.isRule (s : Statement) : Bool := s.reading.draft?.isSome

theorem Statement.discarded_isSome (s : Statement) :
    s.reading.discarded?.isSome = !s.isRule := by
  rw [Statement.isRule]
  cases s.reading <;> rfl

/-- A reading of a statement that opened so. -/
def Reading.Of (o : Opening) : Reading → Prop
  | .accepted opening _ _ => opening = o
  | .discarded block => block.line = o.line

theorem close_of (o : Opening) (body : List Char) (broken : Bool) (trailer : List Char) :
    (o.close body broken trailer).Of o := by
  rw [Opening.close]
  split
  · rfl
  · split
    · rfl
    · split <;> rfl

/-- A statement is read as what opened, on the line on which it opened. -/
theorem Statement.reading_of (s : Statement) : s.reading.Of s.opening := by
  rw [Statement.reading]
  cases s.ending with
  | delimited scope trailer => exact close_of _ _ _ _
  | interrupted => rfl
  | givenUp => rfl

theorem Statement.draft_opening {s : Statement} {d : Draft} (h : s.reading.draft? = some d) :
    d.opening = s.opening := by
  have hof := s.reading_of
  cases hr : s.reading with
  | accepted opening principal action =>
    rw [hr] at h hof
    cases h
    exact hof
  | discarded block => rw [hr] at h; cases h

theorem Statement.discarded_line {s : Statement} {block : Discarded}
    (h : s.reading.discarded? = some block) : block.line = UInt64.ofNat s.place := by
  have hof := s.reading_of
  cases hr : s.reading with
  | accepted opening principal action => rw [hr] at h; cases h
  | discarded block' =>
    rw [hr] at h hof
    cases h
    exact hof

theorem numbered_getElem? (place : Nat) (ds : List Draft) (i : Nat) :
    (numbered place ds)[i]? = ds[i]?.map fun d => d.rule (place + i) := by
  induction ds generalizing place i with
  | nil => rfl
  | cons d ds ih =>
    cases i with
    | zero => rfl
    | succ i =>
      rw [numbered, List.getElem?_cons_succ, List.getElem?_cons_succ, ih, Nat.add_right_comm,
        Nat.add_assoc]

theorem map_line_numbered (place : Nat) (ds : List Draft) :
    (numbered place ds).map Rule.line = ds.map fun d => d.opening.line := by
  induction ds generalizing place with
  | nil => rfl
  | cons d ds ih => exact congrArg (_ :: ·) (ih (place + 1))

theorem map_filterMap_eq {α β γ : Type} {keep : α → Option β} {of : β → γ} {as : α → γ}
    (h : ∀ a b, keep a = some b → of b = as a) (l : List α) :
    (l.filterMap keep).map of = (l.filter fun a => (keep a).isSome).map as := by
  induction l with
  | nil => rfl
  | cons a l ih =>
    cases hk : keep a with
    | none => simp [hk, ih]
    | some b => simp [hk, ih, h a b hk]

theorem countP_filter_add {α : Type} (keep p : α → Bool) (l : List α) :
    (l.filter keep).countP p + (l.filter fun a => !keep a).countP p = l.countP p := by
  induction l with
  | nil => rfl
  | cons a l ih => cases hk : keep a <;> cases hp : p a <;> simp [hk, hp] <;> omega

section
variable {document : String} {statements : List Statement}

theorem lines_rules (h : ofStatements (passages document) = statements.flatMap Statement.passages) :
    (report document).rules.map Rule.line =
      (statements.filter fun s => s.isRule).map fun s => UInt64.ofNat s.place := by
  rw [report_of_passages h, map_line_numbered]
  exact map_filterMap_eq (fun s d hd => by rw [Statement.draft_opening hd]; rfl) statements

theorem lines_discarded
    (h : ofStatements (passages document) = statements.flatMap Statement.passages) :
    (report document).discarded.map Discarded.line =
      (statements.filter fun s => !s.isRule).map fun s => UInt64.ofNat s.place := by
  simp only [← Statement.discarded_isSome]
  rw [report_of_passages h]
  exact map_filterMap_eq (fun s block => Statement.discarded_line) statements

/-- A rule is named by the annotation of its statement or by its place among the rules. -/
theorem id_of_rule (h : ofStatements (passages document) = statements.flatMap Statement.passages)
    {i : Nat} {r : Rule} (hr : (report document).rules[i]? = some r) :
    ∃ s, (statements.filter fun s => s.isRule)[i]? = some s ∧
      r.id = (s.annotation.map Annotation.id).getD (placeName i) := by
  rw [report_of_passages h, numbered_getElem?, Nat.zero_add, Option.map_eq_some_iff] at hr
  obtain ⟨d, hd, rfl⟩ := hr
  have hids : (statements.filterMap fun s => s.reading.draft?).map (fun d => d.opening.id) =
      (statements.filter fun s => s.isRule).map fun s => s.annotation.map Annotation.id :=
    map_filterMap_eq (fun s d hd => by rw [Statement.draft_opening hd]; rfl) statements
  have hid := congrArg (fun ids => ids[i]?) hids
  simp only [List.getElem?_map, hd, Option.map_some] at hid
  obtain ⟨s, hs, hname⟩ := Option.map_eq_some_iff.mp hid.symm
  exact ⟨s, hs, by rw [Draft.rule, ← hname]⟩

end

/-- The statements of a document account for its report. -/
structure Accounts (statements : List Statement) (document : String) : Prop where
  /-- Each entry is a statement's, and each statement has one entry, on the line on which it
  opens. -/
  rules : (report document).rules.map Rule.line =
    (statements.filter fun s => s.isRule).map fun s => UInt64.ofNat s.place
  discarded : (report document).discarded.map Discarded.line =
    (statements.filter fun s => !s.isRule).map fun s => UInt64.ofNat s.place
  /-- A line that starts with an opener has a statement. -/
  covers : ∀ n raw, (lines document.toList)[n]? = some raw →
    (opener? (trimStart (withoutComment raw))).isSome = true → ∃ s ∈ statements, s.place = n + 1
  within : ∀ s ∈ statements, 1 ≤ s.place ∧ s.place ≤ (lines document.toList).length
  /-- A line has no more statements than openers. -/
  bounded : ∀ n raw, (lines document.toList)[n]? = some raw →
    (statements.countP fun s => s.place = n + 1) ≤ openerCount (withoutComment raw)
  ordered : statements.Pairwise fun s t => s.place ≤ t.place
  /-- The same of the entries, where lines can be counted in machine words. -/
  words : (lines document.toList).length < UInt64.size →
    ((report document).rules.map Rule.line).Pairwise (· ≤ ·) ∧
    ((report document).discarded.map Discarded.line).Pairwise (· ≤ ·) ∧
    ∀ n raw, (lines document.toList)[n]? = some raw →
      ((report document).rules.map Rule.line).count (UInt64.ofNat (n + 1)) +
        ((report document).discarded.map Discarded.line).count (UInt64.ofNat (n + 1)) ≤
          openerCount (withoutComment raw)
  /-- A rule is named by the annotation of its statement, or by its place among the rules. -/
  ids : ∀ i r, (report document).rules[i]? = some r →
    ∃ s, (statements.filter fun s => s.isRule)[i]? = some s ∧
      ((∃ a, s.annotation = some a ∧ r.id = a.id) ∨ s.annotation = none ∧ r.id = placeName i)
  /-- An annotation that names a statement stands on a line of the document. -/
  named : ∀ s ∈ statements, ∀ a, s.annotation = some a →
    ∃ line ∈ visibleLines document, a.On line
  /-- No annotation names two statements. -/
  annotations : (statements.filterMap Statement.annotation).Pairwise fun a b => a.place < b.place

/-- **No statement that opens is lost, doubled or misplaced**, in any document. -/
theorem layout_accounts (document : String) :
    ∃ statements, Layout document statements ∧ Accounts statements document := by
  obtain ⟨statements, hlayout, hps⟩ := passages_layout document
  refine ⟨statements, hlayout, ?_⟩
  exact
    { rules := lines_rules hps
      discarded := lines_discarded hps
      covers := fun n raw => hlayout.covers
      within := fun s => hlayout.within
      bounded := fun n raw => hlayout.countP_le
      ordered := hlayout.ordered
      words := by
        intro hsize
        rw [lines_rules hps, lines_discarded hps]
        refine ⟨hlayout.words_ordered hsize _, hlayout.words_ordered hsize _, fun n raw hraw => ?_⟩
        rw [hlayout.countP_word hsize hraw, hlayout.countP_word hsize hraw, countP_filter_add]
        exact hlayout.countP_le hraw
      ids := by
        intro i r hr
        obtain ⟨s, hs, hid⟩ := id_of_rule hps hr
        refine ⟨s, hs, ?_⟩
        cases ha : s.annotation with
        | some a => exact .inl ⟨a, rfl, by rw [hid, ha]; rfl⟩
        | none => exact .inr ⟨rfl, by rw [hid, ha]; rfl⟩
      named := fun s hs a => hlayout.named hs
      annotations := hlayout.annotations }

end Portcullis.Policy
