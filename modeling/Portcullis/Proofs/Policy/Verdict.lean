import Portcullis.Proofs.Policy.Tracing

/-! Which statements become rules.

What is wrong with a delimited statement can be listed (`faults`), and a statement becomes a
rule when nothing is (`WellFormed`). Reading it finds the first of its faults or accepts it
with the constraints of its last clauses (`close_eq`); a statement that is not delimited is
never accepted. Since a document is laid out in one way, this says which rules it has
(`rules_of_wellFormed`). -/
namespace Portcullis.Policy
open Text

/-! ### Clauses -/

def Clause.principal? : Clause → Option PrincipalConstraint
  | .principal c => some c
  | _ => none

def Clause.action? : Clause → Option ActionConstraint
  | .action c => some c
  | _ => none

/-- The clauses of a scope, in order. -/
def clausesOf (scope : List Char) : List Clause := (pieces scope).filterMap clause?

/-- The constraint of the last clause about the principal. -/
def principalOf (scope : List Char) : PrincipalConstraint :=
  ((clausesOf scope).filterMap Clause.principal?).getLast?.getD .unconstrained

/-- The constraint of the last clause about the action. -/
def actionOf (scope : List Char) : ActionConstraint :=
  ((clausesOf scope).filterMap Clause.action?).getLast?.getD .unconstrained

/-- A delimited statement that can be a rule. -/
structure WellFormed (scope trailer : List Char) : Prop where
  /-- No line ends inside a literal. -/
  unbroken : Nesting.none.breaks scope = false
  /-- There is nothing between the closing parenthesis and the semicolon. -/
  bare : allBlank trailer = true
  clauses : ∀ piece ∈ pieces scope, (clause? piece).isSome = true
  /-- Some clause is about the principal or the action. -/
  constrained : ∃ clause ∈ clausesOf scope, clause ≠ .resource

/-- The reasons to discard a delimited statement, the first of them first. -/
def faults (scope trailer : List Char) : List DiscardReason :=
  (if Nesting.none.breaks scope then [.unbalanced] else []) ++
    (if allBlank trailer then [] else [.unsupportedConditions (String.ofList (trim trailer))]) ++
    ((pieces scope).filter fun piece => (clause? piece).isNone).map
      (fun piece => .malformedClause (String.ofList piece)) ++
    (if (clausesOf scope).all (· = .resource) then [.noConstraints] else [])

/-- A statement can be a rule when there is no reason to discard it. -/
theorem faults_eq_nil_iff {scope trailer : List Char} :
    faults scope trailer = [] ↔ WellFormed scope trailer := by
  have hclauses : (pieces scope).filter (fun piece => (clause? piece).isNone) = [] ↔
      ∀ piece ∈ pieces scope, (clause? piece).isSome = true := by
    simp [List.filter_eq_nil_iff, Option.isSome_iff_ne_none]
  have hconstrained : ¬(clausesOf scope).all (· = .resource) = true ↔
      ∃ clause ∈ clausesOf scope, clause ≠ .resource := by
    simp [List.all_eq_true]
  simp only [faults, List.append_eq_nil_iff, List.map_eq_nil_iff, hclauses, ite_eq_right_iff,
    List.cons_ne_nil, imp_false, ite_eq_left_iff, hconstrained]
  constructor
  · rintro ⟨⟨⟨hb, ht⟩, hc⟩, hsaid⟩
    exact ⟨by simpa using hb, by simpa using ht, hc, hsaid⟩
  · rintro ⟨hb, ht, hc, hsaid⟩
    exact ⟨⟨⟨by simp [hb], by simp [ht]⟩, hc⟩, hsaid⟩

/-! ### Reading the pieces -/

/-- Pieces are read to the first that is no clause, or to the end. -/
theorem read_eq (c : Constraints) (texts : List (List Char)) :
    c.read texts =
      match (texts.filter fun piece => (clause? piece).isNone).head? with
      | some piece => .error piece
      | none => .ok ((texts.filterMap clause?).foldl Constraints.add c) := by
  induction texts generalizing c with
  | nil => rfl
  | cons piece texts ih =>
    cases hc : clause? piece with
    | none => simp [Constraints.read, hc]
    | some clause => simp [Constraints.read, hc, ih]

/-- What each step may replace is in the end what the last one put there. -/
theorem foldl_last {α β σ : Type} (step : σ → α → σ) (view : σ → Option β) (write : α → Option β)
    (h : ∀ s a, view (step s a) = (write a).or (view s)) (as : List α) (s : σ) :
    view (as.foldl step s) = (as.filterMap write).getLast?.or (view s) := by
  induction as generalizing s with
  | nil => rfl
  | cons a as ih =>
    rw [List.foldl_cons, ih, h]
    cases hw : write a with
    | none => simp [hw]
    | some b =>
      rw [List.filterMap_cons_some hw, List.getLast?_cons]
      cases (as.filterMap write).getLast? <;> rfl

/-- Of the clauses about the principal the last one counts. -/
theorem constraintsOf_principal (clauses : List Clause) :
    (constraintsOf clauses).principal = (clauses.filterMap Clause.principal?).getLast? :=
  (foldl_last Constraints.add Constraints.principal Clause.principal?
    (fun c clause => by cases clause <;> rfl) clauses .none).trans Option.or_none

/-- Of the clauses about the action the last one counts. -/
theorem constraintsOf_action (clauses : List Clause) :
    (constraintsOf clauses).action = (clauses.filterMap Clause.action?).getLast? :=
  (foldl_last Constraints.add Constraints.action Clause.action?
    (fun c clause => by cases clause <;> rfl) clauses .none).trans Option.or_none

/-- Clauses constrain nothing when all of them are about the resource. -/
theorem constraintsOf_eq_none_iff (clauses : List Clause) :
    constraintsOf clauses = .none ↔ clauses.all (· = .resource) = true := by
  have hparts : constraintsOf clauses = .none ↔
      (clauses.filterMap Clause.principal?).getLast? = none ∧
        (clauses.filterMap Clause.action?).getLast? = none := by
    rw [← constraintsOf_principal, ← constraintsOf_action, ← Constraints.mk.injEq]
    rfl
  rw [hparts, List.getLast?_eq_none_iff, List.getLast?_eq_none_iff, List.filterMap_eq_nil_iff,
    List.filterMap_eq_nil_iff, List.all_eq_true]
  constructor
  · rintro ⟨hp, ha⟩ clause hmem
    cases clause with
    | principal p => cases hp _ hmem
    | action a => cases ha _ hmem
    | resource => rfl
  · intro h
    refine ⟨fun clause hmem => ?_, fun clause hmem => ?_⟩ <;>
    · obtain rfl : clause = .resource := by simpa using h clause hmem
      rfl

/-! ### Reading a delimited statement -/

/-- What is made of a scope in which every piece is a clause. -/
theorem close_clauses {scope trailer : List Char} (hb : Nesting.none.breaks scope = false)
    (ht : allBlank trailer = true)
    (hc : (pieces scope).filter (fun piece => (clause? piece).isNone) = []) (o : Opening) :
    o.close scope (Nesting.none.breaks scope) trailer =
      if (clausesOf scope).all (· = .resource) then .discarded ⟨o.line, .noConstraints⟩
      else .accepted o (principalOf scope) (actionOf scope) := by
  have hread : Constraints.none.read (pieces scope) = .ok (constraintsOf (clausesOf scope)) := by
    rw [read_eq, hc]
    rfl
  rw [Opening.close, hb, if_neg Bool.false_ne_true, trim_eq_nil_iff.mpr ht, hread, principalOf,
    actionOf, ← constraintsOf_principal, ← constraintsOf_action]
  have hnone := constraintsOf_eq_none_iff (clausesOf scope)
  cases hcs : constraintsOf (clausesOf scope) with
  | mk p a =>
    rw [hcs] at hnone
    cases p with
    | some p => rw [if_neg (mt hnone.mpr (by simp [Constraints.none]))]
    | none =>
      cases a with
      | some a => rw [if_neg (mt hnone.mpr (by simp [Constraints.none]))]
      | none => rw [if_pos (hnone.mp rfl)]

/-- **Reading a delimited statement finds the first of its faults**, or accepts it with the
constraints of its last clauses. -/
theorem close_eq (o : Opening) (scope trailer : List Char) :
    o.close scope (Nesting.none.breaks scope) trailer =
      match (faults scope trailer).head? with
      | some fault => .discarded ⟨o.line, fault⟩
      | none => .accepted o (principalOf scope) (actionOf scope) := by
  cases hb : Nesting.none.breaks scope with
  | true => simp [Opening.close, faults, hb]
  | false =>
    cases ht : trim trailer with
    | cons c conditions =>
      have hblank : ¬allBlank trailer = true := by
        rw [← trim_eq_nil_iff, ht]
        exact List.cons_ne_nil c conditions
      simp [Opening.close, faults, hb, ht, hblank]
    | nil =>
      have hblank := trim_eq_nil_iff.mp ht
      cases hc : (pieces scope).filter fun piece => (clause? piece).isNone with
      | cons piece others => simp [Opening.close, faults, hb, ht, hblank, hc, read_eq]
      | nil =>
        rw [← hb, close_clauses hb hblank hc, faults, hb, hblank, hc]
        cases (clausesOf scope).all (· = .resource) <;> rfl

example : faults "action, princpal".toList " when".toList =
    [.unsupportedConditions "when", .malformedClause "princpal"] := by decide +kernel

/-! ### The statements of a document -/

/-- A statement is read for what it is, and on the line on which it opens. -/
structure Statement.Judged (s : Statement) : Prop where
  rule_iff : s.reading.draft?.isSome = true ↔
    ∃ scope trailer, s.ending = .delimited scope trailer ∧ WellFormed scope trailer
  accepted : ∀ scope trailer, s.ending = .delimited scope trailer → WellFormed scope trailer →
    s.reading = .accepted s.opening (principalOf scope) (actionOf scope)
  faulty : ∀ scope trailer, s.ending = .delimited scope trailer → ¬WellFormed scope trailer →
    ∃ fault, (faults scope trailer).head? = some fault ∧
      s.reading = .discarded ⟨UInt64.ofNat s.place, fault⟩
  interrupted : s.ending = .interrupted →
    s.reading = .discarded ⟨UInt64.ofNat s.place, .unterminated⟩
  givenUp : s.ending = .givenUp → s.reading = .discarded ⟨UInt64.ofNat s.place, .unbalanced⟩

theorem Statement.reading_delimited {s : Statement} {scope trailer : List Char}
    (hs : s.ending = .delimited scope trailer) :
    s.reading =
      match (faults scope trailer).head? with
      | some fault => .discarded ⟨UInt64.ofNat s.place, fault⟩
      | none => .accepted s.opening (principalOf scope) (actionOf scope) := by
  rw [Statement.reading, hs, Opening.outcome, close_eq]
  rfl

theorem Statement.judged (s : Statement) : s.Judged where
  rule_iff := by
    constructor
    · intro hrule
      cases hs : s.ending with
      | delimited scope trailer =>
        refine ⟨scope, trailer, rfl, faults_eq_nil_iff.mp ?_⟩
        rw [reading_delimited hs] at hrule
        cases hf : faults scope trailer with
        | nil => rfl
        | cons fault others => rw [hf] at hrule; cases hrule
      | interrupted => rw [Statement.reading, hs] at hrule; cases hrule
      | givenUp => rw [Statement.reading, hs] at hrule; cases hrule
    · rintro ⟨scope, trailer, hs, hw⟩
      rw [reading_delimited hs, faults_eq_nil_iff.mpr hw]
      rfl
  accepted scope trailer hs hw := by
    rw [reading_delimited hs, faults_eq_nil_iff.mpr hw]
    rfl
  faulty scope trailer hs hw := by
    cases hf : faults scope trailer with
    | nil => exact absurd (faults_eq_nil_iff.mp hf) hw
    | cons fault others => exact ⟨fault, rfl, by rw [reading_delimited hs, hf]; rfl⟩
  interrupted hs := by
    rw [Statement.reading, hs]
    rfl
  givenUp hs := by
    rw [Statement.reading, hs]
    rfl

/-- **Rules come from the well-formed statements of a document and from no others.** A
document has one layout; what is passed in it are the openings and endings of the statements
laid out, and the report keeps one entry of each, a rule or a discarded statement, which
depends on that statement alone. -/
theorem rules_of_wellFormed (document : String) :
    ∃ statements, Layout document statements ∧
      (∀ others, Layout document others → others = statements) ∧
      ofStatements (passages document) = statements.flatMap Statement.passages ∧
      report document =
        ⟨numbered 0 (statements.filterMap fun s => s.reading.draft?),
          statements.filterMap fun s => s.reading.discarded?⟩ ∧
      ∀ s ∈ statements, s.Judged := by
  obtain ⟨statements, hlayout, hps⟩ := passages_layout document
  exact ⟨statements, hlayout, fun _ hothers => Laid.unique hothers hlayout, hps,
    report_of_passages hps, fun s _ => s.judged⟩

end Portcullis.Policy
