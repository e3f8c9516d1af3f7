import Portcullis.Proofs.Gatehouse.History

/-! A journal beside a sink.

Whatever a sink does with entries, a journal beside it can list those that it keeps, in order, and a
tally all that it is offered. Either is only written: a gatehouse in front of a sink with a list
beside it does what it does in front of the sink alone (`perform_beside`, `run_journaled`). So what
a journal or a tally says holds of every sink. -/
namespace Portcullis

namespace Audit

variable {σ : Type}

/-- A sink with a journal of the entries it keeps. -/
def Sink.journaled (S : Sink σ) : Sink (σ × List Entry) where
  record x entry :=
    let (receipt, sink) := S.record x.1 entry
    (receipt, sink, if receipt = .kept then x.2 ++ [entry] else x.2)
  remarks x entry := S.remarks x.1 entry

/-- A sink with a tally of the entries it is offered, whatever it does with them. -/
def Sink.tallied (S : Sink σ) : Sink (σ × List Entry) where
  record x entry := ((S.record x.1 entry).1, (S.record x.1 entry).2, x.2 ++ [entry])
  remarks x entry := S.remarks x.1 entry

/-- A sink with a list beside it answers as the sink alone and leaves it as it would be alone. -/
def Sink.Beside (T : Sink (σ × List Entry)) (S : Sink σ) : Prop :=
  ∀ x entry, S.record x.1 entry = ((T.record x entry).1, (T.record x entry).2.1)

theorem Sink.journaled_beside (S : Sink σ) : S.journaled.Beside S := fun _ _ => rfl

theorem Sink.tallied_beside (S : Sink σ) : S.tallied.Beside S := fun _ _ => rfl

theorem Sink.record_journaled (S : Sink σ) (x : σ × List Entry) (entry : Entry) :
    S.journaled.record x entry =
      ((S.record x.1 entry).1, (S.record x.1 entry).2,
        if (S.record x.1 entry).1 = .kept then x.2 ++ [entry] else x.2) := rfl

/-- What a journal says of an entry: the sink's answer, its state, and the entry if it is kept. -/
theorem Sink.of_record_journaled {S : Sink σ} {x x' : σ × List Entry} {entry : Entry}
    {receipt : Receipt} (h : S.journaled.record x entry = (receipt, x')) :
    S.record x.1 entry = (receipt, x'.1) ∧
      x'.2 = if receipt = .kept then x.2 ++ [entry] else x.2 := by
  rw [record_journaled] at h
  cases h
  exact ⟨rfl, rfl⟩

end Audit

variable {σ : Type}

namespace Gatehouse

/-- The gatehouse in front of the sink alone. -/
def withoutJournal (g : Gatehouse (σ × List Audit.Entry)) : Gatehouse σ := ⟨g.policies, g.sink.1⟩

/-- Two steps, one of them with a list beside its sink, that come to the same. -/
structure SameBut {α : Type} (listed : Step (σ × List Audit.Entry) α) (plain : Step σ α) :
    Prop where
  outcome : listed.outcome = plain.outcome
  after : listed.after.withoutJournal = plain.after

theorem SameBut.map {α β : Type} {listed : Step (σ × List Audit.Entry) α} {plain : Step σ α}
    (h : SameBut listed plain) (f : α → β) : SameBut (listed.map f) (plain.map f) where
  outcome := congrArg (Outcome.map f) h.outcome
  after := h.after

section
variable {T : Audit.Sink (σ × List Audit.Entry)} {S : Audit.Sink σ} (h : T.Beside S)
  (g : Gatehouse (σ × List Audit.Entry)) (now : Moments)
include h

theorem register_beside (s : Submission) :
    SameBut (g.register T now s) (g.withoutJournal.register S now s) := by
  unfold register
  split
  · dsimp only [withoutJournal, registry]
    rw [h g.sink]
    generalize T.record g.sink _ = answer
    obtain ⟨receipt, sink⟩ := answer
    cases receipt <;> exact ⟨rfl, rfl⟩
  · exact ⟨rfl, rfl⟩

theorem explain_beside (agentId : String) (q : Request) :
    SameBut (g.explain T now agentId q) (g.withoutJournal.explain S now agentId q) := by
  unfold explain
  dsimp only [withoutJournal, registry]
  rw [h g.sink]
  generalize T.record g.sink _ = answer
  obtain ⟨receipt, sink⟩ := answer
  cases receipt <;> exact ⟨rfl, rfl⟩

theorem fail_beside (agentId reason : String) :
    SameBut (Generator.fail T g now agentId reason)
      (Generator.fail S g.withoutJournal now agentId reason) := by
  unfold Generator.fail
  dsimp only [withoutJournal, registry]
  rw [h g.sink]
  generalize T.record g.sink _ = answer
  obtain ⟨receipt, sink⟩ := answer
  cases receipt <;> exact ⟨rfl, rfl⟩

theorem provide_beside (G : Generator) (agentId : String) (context : SourceContext) :
    SameBut (G.provide T g now agentId context)
      (G.provide S g.withoutJournal now agentId context) := by
  unfold Generator.provide
  split
  · exact fail_beside h g now agentId _
  · rename_i policy _
    have hput := register_beside h g now (policy.submission agentId context)
    exact ⟨hput.outcome, hput.after⟩

theorem perform_beside (op : Operation) :
    SameBut (op.perform T g now) (op.perform S g.withoutJournal now) := by
  cases op with
  | put agentId text context => exact (register_beside h g now _).map _
  | putGenerated agentId policy context => exact (register_beside h g now _).map _
  | requestPolicy G agentId context => exact (provide_beside h g now G agentId context).map _
  | explain agentId q => exact (explain_beside h g now agentId q).map _
  | evaluate agentId q => exact (explain_beside h g now agentId q).map _
  | get agentId => exact ⟨rfl, rfl⟩
  | agentIds => exact ⟨rfl, rfl⟩
  | size => exact ⟨rfl, rfl⟩
  | isEmpty => exact ⟨rfl, rfl⟩

end

variable (S : Audit.Sink σ) (g : Gatehouse (σ × List Audit.Entry)) (now : Moments)

theorem perform_journaled (op : Operation) :
    SameBut (op.perform S.journaled g now) (op.perform S g.withoutJournal now) :=
  perform_beside S.journaled_beside g now op

/-- **A journal changes nothing.** -/
theorem run_journaled (ops : List (Moments × Operation)) :
    (g.run S.journaled ops).withoutJournal = g.withoutJournal.run S ops := by
  induction ops generalizing g with
  | nil => rfl
  | cons asked rest ih =>
    obtain ⟨now, op⟩ := asked
    rw [run, run, ih, (perform_journaled S g now op).after]

end Gatehouse

end Portcullis
