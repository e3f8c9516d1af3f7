import Portcullis.Proofs.Policy.Writing

/-! Reading what was written.

A document that lists rules, two lines for each, is read as those rules and nothing else.
Between two rules the reader is outside with no name ready, which is the invariant of the
induction over the rules. -/
namespace Portcullis.Policy
open Text

/-- The two lines of a rule: its name, then what it states. -/
def Rule.lines (principals actions : Path) (r : Rule) : List (List Char) :=
  [r.annotation, r.statement principals actions]

/-- The document that lists rules, their principals under one path, their actions under
another. -/
def written (principals actions : Path) (rules : List Rule) : String :=
  String.ofList (unlines (rules.flatMap (Rule.lines principals actions)))

/-- The draft that a rule is read as when it is named on the given line. -/
def Rule.draft (line : UInt64) (r : Rule) : Draft :=
  ⟨⟨r.effect, line + 1, some r.id⟩, r.principal, r.action⟩

/-- The drafts of rules that start on the given line. -/
def draftsFrom (line : UInt64) : List Rule → List Draft
  | [] => []
  | r :: rest => r.draft line :: draftsFrom (line + 2) rest

/-- What a reader passes in the lines of rules. -/
theorem readLines_written (principals actions : Path) (rules : List Rule) (line : UInt64) :
    Reader.start.readLines line (rules.flatMap (Rule.lines principals actions)) =
      (draftsFrom line rules).flatMap fun d =>
        [.opened d.opening, .ended (.accepted d.opening d.principal d.action)] := by
  induction rules generalizing line with
  | nil => rfl
  | cons r rest ih =>
    have hline : line + 1 + 1 = line + 2 := by rw [UInt64.add_assoc]; rfl
    rw [List.flatMap_cons, Rule.lines, List.cons_append, List.cons_append, List.nil_append,
      readLines_cons, Reader.start, r.annotationLine.readLine, String.ofList_toList, readLines_cons,
      (r.statementLine principals actions).readLine, ← Reader.start, hline, ih]
    rfl

theorem passages_written (principals actions : Path) (rules : List Rule) :
    passages (written principals actions rules) =
      (draftsFrom 1 rules).flatMap fun d =>
        [.opened d.opening, .ended (.accepted d.opening d.principal d.action)] := by
  have hlines : ∀ text ∈ rules.flatMap (Rule.lines principals actions), OneLine text := by
    intro text htext
    obtain ⟨r, -, hr⟩ := List.mem_flatMap.mp htext
    rw [Rule.lines, List.mem_cons, List.mem_singleton] at hr
    rcases hr with rfl | rfl
    · exact r.annotationLine.oneLine
    · exact (r.statementLine principals actions).oneLine
  rw [passages, written, String.toList_ofList, lines_unlines hlines, readLines_written]

/-- Every draft becomes its rule again, with its name and on its line. -/
theorem numbered_draftsFrom (place n : Nat) (rules : List Rule) :
    numbered place (draftsFrom (UInt64.ofNat (n + 1)) rules) =
      rules.mapIdx fun i r => {r with line := UInt64.ofNat (2 * i + n + 2)} := by
  induction rules generalizing place n with
  | nil => rfl
  | cons r rest ih =>
    have hfirst : UInt64.ofNat (n + 1) + 1 = UInt64.ofNat (2 * 0 + n + 2) := by
      rw [Nat.mul_zero, Nat.zero_add]
      exact (UInt64.ofNat_add (n + 1) 1).symm
    have hnext : UInt64.ofNat (n + 1) + 2 = UInt64.ofNat (n + 2 + 1) :=
      (UInt64.ofNat_add (n + 1) 2).symm
    have hplace : ∀ i, 2 * i + (n + 2) + 2 = 2 * (i + 1) + n + 2 := by omega
    rw [draftsFrom, numbered, hnext, ih, List.mapIdx_cons, ← hfirst]
    simp only [hplace]
    rfl

theorem filterMap_draft?_statements (ds : List Draft) :
    (ds.flatMap fun d => [Passage.opened d.opening,
      .ended (.accepted d.opening d.principal d.action)]).filterMap Passage.draft? = ds := by
  induction ds with
  | nil => rfl
  | cons d rest ih => exact congrArg _ ih

theorem filterMap_discarded?_statements (ds : List Draft) :
    (ds.flatMap fun d => [Passage.opened d.opening,
      .ended (.accepted d.opening d.principal d.action)]).filterMap Passage.discarded? = [] := by
  induction ds with
  | nil => rfl
  | cons d rest ih => exact ih

/-- **Reading inverts writing.** Whatever the names hold, a written document is read as its
rules in their order, each on its own line, and nothing in it is discarded. -/
theorem report_written (principals actions : Path) (rules : List Rule) :
    report (written principals actions rules) =
      ⟨rules.mapIdx fun i r => {r with line := UInt64.ofNat (2 * i + 2)}, []⟩ := by
  rw [report_eq, drafts, passages_written, filterMap_draft?_statements,
    filterMap_discarded?_statements]
  exact congrArg (Report.mk · []) (numbered_draftsFrom 0 0 rules)

/-- How a rule with a quote in its name is written. -/
example :
    let bank : Path := .word ['B', 'a', 'n', 'k'] (.of_all (by decide) (by decide))
    written bank bank
        [⟨"the \"vault\"", .forbid, .category "guest", .oneOf (NameSet.ofList ["open", "look"]), 2⟩] =
      "@id(\"the \\\"vault\\\"\")\n" ++ "forbid(principal in Bank::\"guest\", " ++
        "action in [Bank::\"look\", Bank::\"open\"], resource);\n" := by
  decide

end Portcullis.Policy
