import Portcullis.Proofs.Gatehouse.History
import Portcullis.Proofs.Gatehouse.Submitting

/-! What a poisoned lock changes.

A sink may break off while a registration holds the lock, and poisoned the lock stays
(`poisoned_run_iff`). But the registry is written in one go, so a poisoned lock holds a registry
that is whole, and everybody goes on with it: **whatever is asked is answered and leaves what it
would if nobody had broken off** (`perform_poisoned`, `history_poisoned`, `run_poisoned`). -/
namespace Portcullis

variable {σ : Type}

namespace Gatehouse

/-- The gatehouse after somebody broke off while writing. -/
def poisoned (g : Gatehouse σ) : Gatehouse σ := {g with policies := g.policies.poison}

/-- The gatehouse with a lock that nobody broke off under. -/
def relocked (g : Gatehouse σ) : Gatehouse σ := {g with policies := .new g.registry}

theorem registry_poisoned (g : Gatehouse σ) : g.poisoned.registry = g.registry :=
  registry_poison g.policies g.sink g.sink

/-- A gatehouse differs from one with a new lock by poison at most. -/
theorem eq_relocked_or_poisoned (g : Gatehouse σ) :
    g = g.relocked ∨ g = g.relocked.poisoned := by
  obtain ⟨⟨registry, broke⟩, sink⟩ := g
  cases broke
  · exact .inl rfl
  · exact .inr rfl

end Gatehouse

/-- The step that leaves the lock poisoned besides. -/
def Step.poisoned {α : Type} (s : Step σ α) : Step σ α := {s with after := s.after.poisoned}

def Happening.poisoned (h : Happening σ) : Happening σ :=
  {h with before := h.before.poisoned, after := h.after.poisoned}

variable (S : Audit.Sink σ) (g : Gatehouse σ) (now : Moments)

/-! ### Poison changes no answer -/

namespace Gatehouse

theorem register_poisoned (s : Submission) :
    g.poisoned.register S now s = (g.register S now s).poisoned := by
  unfold register
  rw [registry_poisoned]
  split
  · dsimp only [poisoned]
    generalize S.record g.sink _ = answer
    obtain ⟨receipt, sink⟩ := answer
    cases receipt <;> rfl
  · rfl

theorem explain_poisoned (agentId : String) (q : Request) :
    g.poisoned.explain S now agentId q = (g.explain S now agentId q).poisoned := by
  unfold explain decisionNotices
  rw [registry_poisoned]
  dsimp only [poisoned]
  generalize S.record g.sink _ = answer
  obtain ⟨receipt, sink⟩ := answer
  cases receipt <;> rfl

end Gatehouse

theorem Generator.fail_poisoned (agentId reason : String) :
    fail S g.poisoned now agentId reason = (fail S g now agentId reason).poisoned := by
  unfold fail
  dsimp only [Gatehouse.poisoned]
  generalize S.record g.sink _ = answer
  obtain ⟨receipt, sink⟩ := answer
  cases receipt <;> rfl

theorem Generator.provide_poisoned (G : Generator) (agentId : String) (context : SourceContext) :
    G.provide S g.poisoned now agentId context = (G.provide S g now agentId context).poisoned := by
  unfold provide
  split
  · exact fail_poisoned S g now agentId _
  · rename_i policy _
    dsimp only
    rw [Gatehouse.register_poisoned]
    rfl

/-- **A poisoned lock changes no answer**, and nothing that is left but the lock itself. -/
theorem Operation.perform_poisoned (op : Operation) :
    op.perform S g.poisoned now = (op.perform S g now).poisoned := by
  cases op with
  | put agentId text context => exact congrArg (Step.map Answer.record) (g.register_poisoned S now _)
  | putGenerated agentId policy context =>
    exact congrArg (Step.map Answer.record) (g.register_poisoned S now _)
  | requestPolicy G agentId context =>
    exact congrArg (Step.map Answer.record) (G.provide_poisoned S g now agentId context)
  | explain agentId q =>
    exact congrArg (Step.map Answer.evaluation) (g.explain_poisoned S now agentId q)
  | evaluate agentId q => exact congrArg (Step.map _) (g.explain_poisoned S now agentId q)
  | get | agentIds | size | isEmpty =>
    rw [perform, g.registry_poisoned]
    rfl

namespace Gatehouse

theorem run_poisoned (ops : List (Moments × Operation)) :
    g.poisoned.run S ops = (g.run S ops).poisoned := by
  induction ops generalizing g with
  | nil => rfl
  | cons asked rest ih =>
    obtain ⟨now, op⟩ := asked
    rw [run, op.perform_poisoned S g now]
    exact ih _

theorem history_poisoned (ops : List (Moments × Operation)) :
    g.poisoned.history S ops = (g.history S ops).map Happening.poisoned := by
  induction ops generalizing g with
  | nil => rfl
  | cons asked rest ih =>
    obtain ⟨now, op⟩ := asked
    have hstep := op.perform_poisoned S g now
    have hhappening : op.happening S g.poisoned now = (op.happening S g now).poisoned := by
      rw [Operation.happening, hstep]
      rfl
    have hrest : (op.perform S g.poisoned now).after.history S rest =
        ((op.perform S g now).after.history S rest).map Happening.poisoned := by
      rw [hstep]
      exact ih _
    rw [history, history, List.map_cons, hhappening, hrest]

/-- **Whoever broke off before, a gatehouse goes on as with a new lock**: with the same outcomes,
the same registry and the same sink. -/
theorem run_relocked (ops : List (Moments × Operation)) :
    (g.history S ops).map Happening.outcome = (g.relocked.history S ops).map Happening.outcome ∧
      (g.run S ops).registry = (g.relocked.run S ops).registry ∧
      (g.run S ops).sink = (g.relocked.run S ops).sink := by
  have hpoisoned : ∀ g : Gatehouse σ,
      (g.poisoned.history S ops).map Happening.outcome = (g.history S ops).map Happening.outcome ∧
        (g.poisoned.run S ops).registry = (g.run S ops).registry ∧
        (g.poisoned.run S ops).sink = (g.run S ops).sink := by
    intro g
    rw [history_poisoned, run_poisoned, registry_poisoned, List.map_map]
    exact ⟨rfl, rfl, rfl⟩
  rcases g.eq_relocked_or_poisoned with hsame | hsame
  · rw [← hsame]
    exact ⟨rfl, rfl, rfl⟩
  · have hgoes := hpoisoned g.relocked
    rwa [← hsame] at hgoes

end Gatehouse

/-! ### What poisons the lock -/

namespace Gatehouse

theorem register_poisons (s : Submission) :
    (g.register S now s).after.policies.poisoned = true ↔
      g.policies.poisoned = true ∨ (g.register S now s).outcome = .broke := by
  unfold register
  split
  · dsimp only
    split
    · simp [Lock.write]
    · simp
    · simp [Lock.poison]
  · simp

theorem explain_policies (agentId : String) (q : Request) :
    (g.explain S now agentId q).after.policies = g.policies := by
  unfold explain
  dsimp only
  split <;> rfl

end Gatehouse

theorem Generator.fail_policies (agentId reason : String) :
    (fail S g now agentId reason).after.policies = g.policies := by
  unfold fail
  dsimp only
  split <;> rfl

theorem Outcome.map_eq_broke_iff {α β : Type} {f : α → β} {outcome : Outcome α} :
    outcome.map f = .broke ↔ outcome = .broke := by
  cases outcome <;> simp [map]

namespace Operation
variable {op : Operation}

/-- What an operation hands in it registers. -/
theorem Submits.perform_eq {s : Submission} (h : op.Submits s) :
    (op.perform S g now).outcome = (g.register S now s).outcome.map .record ∧
      (op.perform S g now).after = (g.register S now s).after := by
  cases h with
  | put | putGenerated => exact ⟨rfl, rfl⟩
  | @requestPolicy G agentId task text rationale level roles tier hdelivers =>
    have hwithin : (G.answer (G.request agentId ⟨task, level, roles⟩)).within G.timeout =
        .ok ⟨text, rationale, tier⟩ := Delivery.within_of_delivers hdelivers
    rw [perform, Generator.provide, hwithin]
    exact ⟨rfl, rfl⟩

/-- An operation that hands nothing in leaves the registry and its lock alone. -/
theorem perform_policies (h : ∀ s, ¬op.Submits s) :
    (op.perform S g now).after.policies = g.policies := by
  cases op with
  | put agentId text context => exact absurd (.put agentId text context) (h _)
  | putGenerated agentId policy context =>
    exact absurd (.putGenerated agentId policy.policy policy.rationale policy.riskTier context)
      (h _)
  | requestPolicy G agentId context =>
    rcases (G.answer (G.request agentId context)).fails_or_delivers G.timeout with
      ⟨reason, hfails⟩ | ⟨policy, hdelivers⟩
    · rw [perform, Generator.provide, Delivery.within_of_fails hfails]
      exact Generator.fail_policies S g now agentId reason
    · exact absurd (.requestPolicy hdelivers) (h _)
  | explain agentId q | evaluate agentId q => exact g.explain_policies S now agentId q
  | get | agentIds | size | isEmpty => rfl

/-- An operation poisons the lock just if it hands in a policy and breaks off. -/
theorem perform_poisons (op : Operation) :
    (op.perform S g now).after.policies.poisoned = true ↔
      g.policies.poisoned = true ∨
        (op.perform S g now).outcome = .broke ∧ ∃ s, op.Submits s := by
  by_cases hsubmits : ∃ s, op.Submits s
  · obtain ⟨s, hs⟩ := hsubmits
    obtain ⟨houtcome, hafter⟩ := hs.perform_eq S g now
    rw [hafter, houtcome, g.register_poisons S now s, Outcome.map_eq_broke_iff,
      and_iff_left ⟨s, hs⟩]
  · rw [perform_policies S g now (not_exists.mp hsubmits)]
    simp only [hsubmits, and_false, or_false]

end Operation

/-- The lock of a gatehouse is poisoned just if a registration broke off. -/
theorem Gatehouse.poisoned_run_iff (start : σ) (ops : List (Moments × Operation)) :
    ((opening start).run S ops).policies.poisoned = true ↔
      ∃ h ∈ (opening start).history S ops, h.outcome = .broke ∧ ∃ s, h.operation.Submits s := by
  refine run_induction S
    (P := fun past g => g.policies.poisoned = true ↔
      ∃ h ∈ past, h.outcome = .broke ∧ ∃ s, h.operation.Submits s) ?_ ?_ ops
  · simp [opening, Lock.new]
  · intro past g now op hpast
    rw [op.perform_poisons S g now, hpast]
    simp [Operation.happening, or_and_right, exists_or]

end Portcullis
