import Portcullis.Proofs.Gatehouse.Proceeding

/-! Histories: what a gatehouse goes through.

A run performs operations one after the other. Its history keeps of each what was asked, where
it began, how it ended and what it left. What holds at the start and is kept by every operation
holds after every run (`run_induction`), and what stands in a history happened after the run of
the operations before it (`exists_run_of_history`). -/
namespace Portcullis

variable {σ : Type}

/-- An operation as it happened. -/
structure Happening (σ : Type) where
  now : Moments
  operation : Operation
  before : Gatehouse σ
  outcome : Outcome Answer
  after : Gatehouse σ

/-- An operation as it happens to a gatehouse. -/
def Operation.happening (S : Audit.Sink σ) (g : Gatehouse σ) (now : Moments) (op : Operation) :
    Happening σ where
  now := now
  operation := op
  before := g
  outcome := (op.perform S g now).outcome
  after := (op.perform S g now).after

/-- What happened proceeded as an operation may. -/
def Happening.Proceeded (S : Audit.Sink σ) (h : Happening σ) : Prop :=
  Proceeds S h.now h.before.active h.before.sink h.operation h.outcome h.after.active h.after.sink

theorem Operation.happening_proceeded (S : Audit.Sink σ) (g : Gatehouse σ) (now : Moments)
    (op : Operation) : (op.happening S g now).Proceeded S :=
  op.proceeds S g now

namespace Gatehouse
variable (S : Audit.Sink σ)

/-- The gatehouse that operations leave. -/
def run (g : Gatehouse σ) : List (Moments × Operation) → Gatehouse σ
  | [] => g
  | (now, op) :: rest => (op.perform S g now).after.run rest

/-- Operations as they happen, the first one first. -/
def history (g : Gatehouse σ) : List (Moments × Operation) → List (Happening σ)
  | [] => []
  | (now, op) :: rest => op.happening S g now :: (op.perform S g now).after.history rest

/-- **What every operation keeps holds after every run**, of the history and of what is left. -/
theorem run_induction {P : List (Happening σ) → Gatehouse σ → Prop} {g : Gatehouse σ}
    (start : P [] g)
    (step : ∀ past g now op, P past g →
      P (past ++ [Operation.happening S g now op]) (op.perform S g now).after)
    (ops : List (Moments × Operation)) : P (g.history S ops) (g.run S ops) := by
  -- The history so far is generalized: it grows at its end, operations are taken from the front.
  have hgo : ∀ ops past g, P past g → P (past ++ g.history S ops) (g.run S ops) := by
    intro ops
    induction ops with
    | nil =>
      intro past g h
      rw [history, List.append_nil]
      exact h
    | cons asked rest ih =>
      obtain ⟨now, op⟩ := asked
      intro past g h
      have hnext := ih _ _ (step past g now op h)
      rwa [List.append_assoc, List.singleton_append] at hnext
  exact hgo ops [] g start

/-- What stands in a history happened after the operations in front of it. -/
theorem exists_run_of_history {g : Gatehouse σ} {ops : List (Moments × Operation)}
    {earlier later : List (Happening σ)} {h : Happening σ}
    (hs : g.history S ops = earlier ++ h :: later) :
    ∃ first, earlier = g.history S first ∧ h = h.operation.happening S (g.run S first) h.now := by
  induction ops generalizing g earlier with
  | nil => simp [history] at hs
  | cons asked rest ih =>
    obtain ⟨now, op⟩ := asked
    cases earlier with
    | nil =>
      obtain ⟨rfl, -⟩ := List.cons.inj hs
      exact ⟨[], rfl, rfl⟩
    | cons e earlier =>
      obtain ⟨rfl, hrest⟩ := List.cons.inj hs
      obtain ⟨first, rfl, hh⟩ := ih hrest
      exact ⟨(now, op) :: first, rfl, hh⟩

theorem exists_run_of_mem_history {g : Gatehouse σ} {ops : List (Moments × Operation)}
    {h : Happening σ} (hm : h ∈ g.history S ops) :
    ∃ first, h = h.operation.happening S (g.run S first) h.now := by
  obtain ⟨earlier, later, hs⟩ := List.append_of_mem hm
  obtain ⟨first, -, hh⟩ := exists_run_of_history S hs
  exact ⟨first, hh⟩

theorem proceeded_of_mem_history {g : Gatehouse σ} {ops : List (Moments × Operation)}
    {h : Happening σ} (hm : h ∈ g.history S ops) : h.Proceeded S := by
  obtain ⟨first, hh⟩ := exists_run_of_mem_history S hm
  rw [hh]
  exact Operation.happening_proceeded S _ _ _

end Gatehouse

end Portcullis
