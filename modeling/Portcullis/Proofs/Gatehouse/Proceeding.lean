import Portcullis.Operation
import Portcullis.Proofs.Gatehouse

/-! What an operation may come to.

To its callers a gatehouse is a map from agents to active policies. `Proceeds` tells what an
operation does to such a map and what it answers, one case for each way it may go, with
nothing said of how records are kept. **Every operation of a gatehouse proceeds that way**
(`Operation.proceeds`). -/
namespace Portcullis

/-- The active policies, by agent. -/
abbrev Active := String → Option PolicyRecord

/-- The map with a record at its agent's place. -/
def Active.insert (active : Active) (r : PolicyRecord) : Active :=
  fun agentId => if r.agentId = agentId then some r else active agentId

/-- The agents with an active policy, in strictly increasing order. -/
structure Active.Lists (active : Active) (ids : List String) : Prop where
  ordered : ids.Pairwise (· < ·)
  mem_iff : ∀ agentId, agentId ∈ ids ↔ (active agentId).isSome

/-- Decide a request under an agent's policy; without one it is denied. -/
def Active.explain (active : Active) (agentId : String) (q : Request) : Policy.Evaluation :=
  match active agentId with
  | some r => Policy.explain r.rules q
  | none => .denial

namespace Submission

/-- The entry that a submission is audited with. -/
def entry (s : Submission) (now : Instant) : Audit.Entry :=
  ⟨.policyRegistered s.agentId (.ofNat (Policy.rules s.text).length) s.provenance, now⟩

/-- Why a text that opens no statement is not registered. -/
def rejection (s : Submission) : Failure :=
  .invalidPolicy ("policy for agent '" ++ s.agentId ++ "' contains no permit( or forbid( statement")

end Submission

/-- The entry that a decision is audited with. -/
def Policy.Evaluation.entry (e : Policy.Evaluation) (agentId : String) (q : Request)
    (now : Instant) : Audit.Entry :=
  ⟨.evaluated agentId q e.decision e.determiningRule, now⟩

variable {σ : Type}

/-- The ways an operation may go where these policies are active and the sink is in this state:
its outcome, the active policies after it and the state of the sink after it. -/
inductive Proceeds (S : Audit.Sink σ) (now : Moments) (active : Active) (sink : σ)
    (op : Operation) : Outcome Answer → Active → σ → Prop where
  | gets {agentId : String} (h : op = .get agentId) :
    Proceeds S now active sink op (.done (.active (active agentId))) active sink
  | lists {ids : List String} (h : op = .agentIds) (hids : active.Lists ids) :
    Proceeds S now active sink op (.done (.agentIds ids)) active sink
  | counts {ids : List String} (h : op = .size) (hids : active.Lists ids) :
    Proceeds S now active sink op (.done (.size ids.length)) active sink
  | asksEmpty {ids : List String} (h : op = .isEmpty) (hids : active.Lists ids) :
    Proceeds S now active sink op (.done (.isEmpty (ids.length = 0))) active sink
  | rejects {s : Submission} (h : op.errand = .register s)
      (ho : Policy.opensStatement s.text = false) :
    Proceeds S now active sink op (.failed s.rejection) active sink
  | registers {s : Submission} {sink' : σ} (h : op.errand = .register s)
      (ho : Policy.opensStatement s.text = true)
      (hr : S.record sink (s.entry now.entered) = (.kept, sink')) :
    Proceeds S now active sink op (.done (.record (s.toRecord now.made)))
      (active.insert (s.toRecord now.made)) sink'
  | refuses {s : Submission} {failure : Failure} {sink' : σ} (h : op.errand = .register s)
      (ho : Policy.opensStatement s.text = true)
      (hr : S.record sink (s.entry now.entered) = (.refused failure, sink')) :
    Proceeds S now active sink op (.failed failure) active sink'
  | registrationBreaks {s : Submission} {sink' : σ} (h : op.errand = .register s)
      (ho : Policy.opensStatement s.text = true)
      (hr : S.record sink (s.entry now.entered) = (.broke, sink')) :
    Proceeds S now active sink op .broke active sink'
  | decides {agentId : String} {q : Request} {shown : Policy.Evaluation → Answer} {sink' : σ}
      (h : op.errand = .decide agentId q shown)
      (hr : S.record sink ((active.explain agentId q).entry agentId q now.entered) =
        (.kept, sink')) :
    Proceeds S now active sink op (.done (shown (active.explain agentId q))) active sink'
  | denies {agentId : String} {q : Request} {shown : Policy.Evaluation → Answer}
      {failure : Failure} {sink' : σ} (h : op.errand = .decide agentId q shown)
      (hr : S.record sink ((active.explain agentId q).entry agentId q now.entered) =
        (.refused failure, sink')) :
    Proceeds S now active sink op (.done (shown .denial)) active sink'
  | decisionBreaks {agentId : String} {q : Request} {shown : Policy.Evaluation → Answer}
      {sink' : σ} (h : op.errand = .decide agentId q shown)
      (hr : S.record sink ((active.explain agentId q).entry agentId q now.entered) =
        (.broke, sink')) :
    Proceeds S now active sink op .broke active sink'
  | fails {agentId reason : String} {receipt : Audit.Receipt} {sink' : σ}
      (h : op.errand = .fail agentId reason)
      (hr : S.record sink ⟨.generationFailed agentId reason, now.entered⟩ = (receipt, sink'))
      (hb : receipt ≠ .broke) :
    Proceeds S now active sink op (.failed (.generationFailed reason)) active sink'
  | failureBreaks {agentId reason : String} {sink' : σ} (h : op.errand = .fail agentId reason)
      (hr : S.record sink ⟨.generationFailed agentId reason, now.entered⟩ = (.broke, sink')) :
    Proceeds S now active sink op .broke active sink'

/-- What a sink keeps about itself whatever entry it gets, an operation keeps. -/
theorem Proceeds.sink_keeps {S : Audit.Sink σ} {now : Moments} {active active' : Active}
    {sink sink' : σ} {op : Operation} {outcome : Outcome Answer} {P : σ → Prop}
    (h : Proceeds S now active sink op outcome active' sink')
    (hrecord : ∀ sink entry, P sink → P (S.record sink entry).2) (hp : P sink) : P sink' := by
  have hkeeps : ∀ {entry receipt}, S.record sink entry = (receipt, sink') → P sink' := by
    intro entry receipt hr
    have hnext := hrecord sink entry hp
    rwa [hr] at hnext
  cases h with
  | gets _ | lists _ _ | counts _ _ | asksEmpty _ _ | rejects _ _ => exact hp
  | registers _ _ hr | refuses _ _ hr | registrationBreaks _ _ hr | decides _ hr | denies _ hr
  | decisionBreaks _ hr | fails _ hr _ | failureBreaks _ hr => exact hkeeps hr

namespace Proceeds

section
variable {S : Audit.Sink σ} {now : Moments} {active active' : Active} {sink sink' : σ}
  {op : Operation} {outcome : Outcome Answer}

/-- What a submission comes to: without an opener it is rejected, and with one it is for the sink
to say. -/
theorem of_submission {s : Submission} (h : Proceeds S now active sink op outcome active' sink')
    (hs : op.errand = .register s) :
    (Policy.opensStatement s.text = false ∧ outcome = .failed s.rejection) ∨
    Policy.opensStatement s.text = true ∧
      (((S.record sink (s.entry now.entered)).1 = .kept ∧
          outcome = .done (.record (s.toRecord now.made)) ∧
          active' = active.insert (s.toRecord now.made)) ∨
        (∃ failure, (S.record sink (s.entry now.entered)).1 = .refused failure ∧
          outcome = .failed failure) ∨
        ((S.record sink (s.entry now.entered)).1 = .broke ∧ outcome = .broke)) := by
  cases h with
  | gets hop | lists hop _ | counts hop _ | asksEmpty hop _ => rw [hop] at hs; cases hs
  | rejects he ho =>
    rw [he] at hs
    cases hs
    exact .inl ⟨ho, rfl⟩
  | registers he ho hr =>
    rw [he] at hs
    cases hs
    exact .inr ⟨ho, .inl ⟨congrArg Prod.fst hr, rfl, rfl⟩⟩
  | refuses he ho hr =>
    rw [he] at hs
    cases hs
    exact .inr ⟨ho, .inr (.inl ⟨_, congrArg Prod.fst hr, rfl⟩)⟩
  | registrationBreaks he ho hr =>
    rw [he] at hs
    cases hs
    exact .inr ⟨ho, .inr (.inr ⟨congrArg Prod.fst hr, rfl⟩)⟩
  | decides he _ | denies he _ | decisionBreaks he _ | fails he _ _ | failureBreaks he _ =>
    rw [he] at hs
    cases hs

/-- A decision that the sink keeps is shown as it was made. -/
theorem of_decided {agentId : String} {q : Request} {shown : Policy.Evaluation → Answer}
    (h : Proceeds S now active sink op outcome active' sink')
    (hs : op.errand = .decide agentId q shown)
    (hkept :
      (S.record sink ((active.explain agentId q).entry agentId q now.entered)).1 = .kept) :
    outcome = .done (shown (active.explain agentId q)) := by
  cases h with
  | gets hop | lists hop _ | counts hop _ | asksEmpty hop _ => rw [hop] at hs; cases hs
  | decides he _ =>
    rw [he] at hs
    cases hs
    rfl
  | denies he hr | decisionBreaks he hr =>
    rw [he] at hs
    cases hs
    rw [hr] at hkept
    cases hkept
  | rejects he _ | registers he _ _ | refuses he _ _ | registrationBreaks he _ _ | fails he _ _
  | failureBreaks he _ =>
    rw [he] at hs
    cases hs

end

end Proceeds

/-! ### Gatehouses proceed -/

namespace Registry

theorem explain_eq (g : Registry) (agentId : String) (q : Request) :
    g.explain agentId q = Active.explain g.get? agentId q := rfl

theorem get?_insert_eq (r : PolicyRecord) (g : Registry) :
    (g.insert r).get? = Active.insert g.get? r := by
  funext agentId
  exact get?_insert r g agentId

theorem mem_agentIds {g : Registry} {agentId : String} :
    agentId ∈ g.agentIds ↔ (g.get? agentId).isSome := by
  simp [agentIds, get?]

theorem lists_agentIds (g : Registry) : Active.Lists g.get? g.agentIds where
  ordered := List.pairwise_map.mpr g.inOrder
  mem_iff := fun _ => mem_agentIds

theorem length_agentIds (g : Registry) : g.agentIds.length = g.size := List.length_map _

end Registry

namespace Gatehouse
variable (S : Audit.Sink σ) (g : Gatehouse σ) (now : Moments)

/-- The policies that a gatehouse has active. -/
def active : Active := g.registry.get?

theorem register_proceeds {op : Operation} {s : Submission} (h : op.errand = .register s) :
    Proceeds S now g.active g.sink op ((g.register S now s).outcome.map .record)
      (g.register S now s).after.active (g.register S now s).after.sink := by
  unfold register
  split
  · rename_i ho
    dsimp only
    split
    · rename_i sink' hr
      have hinsert :
          Gatehouse.active ⟨g.policies.write (g.registry.insert (s.toRecord now.made)), sink'⟩ =
            g.active.insert (s.toRecord now.made) := by
        rw [active, registry_write, Registry.get?_insert_eq]
        rfl
      rw [hinsert]
      exact .registers h ho hr
    · rename_i failure sink' hr
      exact .refuses h ho hr
    · rename_i sink' hr
      have hsame : Gatehouse.active ⟨g.policies.poison, sink'⟩ = g.active :=
        congrArg Registry.get? (registry_poison g.policies g.sink sink')
      rw [hsame]
      exact .registrationBreaks h ho hr
  · rename_i ho
    exact .rejects h (by simpa using ho)

theorem explain_proceeds {op : Operation} {agentId : String} {q : Request}
    {shown : Policy.Evaluation → Answer} (h : op.errand = .decide agentId q shown) :
    Proceeds S now g.active g.sink op ((g.explain S now agentId q).outcome.map shown)
      (g.explain S now agentId q).after.active (g.explain S now agentId q).after.sink := by
  unfold explain
  dsimp only
  split
  · rename_i sink' hr
    exact .decides h hr
  · rename_i failure sink' hr
    exact .denies h hr
  · rename_i sink' hr
    exact .decisionBreaks h hr

theorem fail_proceeds {op : Operation} {agentId reason : String}
    (h : op.errand = .fail agentId reason) :
    Proceeds S now g.active g.sink op
      ((Generator.fail S g now agentId reason).outcome.map .record)
      (Generator.fail S g now agentId reason).after.active
      (Generator.fail S g now agentId reason).after.sink := by
  unfold Generator.fail
  dsimp only
  split
  · rename_i sink' hr
    exact .fails h hr (by simp)
  · rename_i failure sink' hr
    exact .fails h hr (by simp)
  · rename_i sink' hr
    exact .failureBreaks h hr

end Gatehouse

/-- **Every operation of a gatehouse proceeds.** -/
theorem Operation.proceeds (S : Audit.Sink σ) (g : Gatehouse σ) (now : Moments)
    (op : Operation) :
    Proceeds S now g.active g.sink op (op.perform S g now).outcome (op.perform S g now).after.active
      (op.perform S g now).after.sink := by
  cases op with
  | put agentId text context => exact g.register_proceeds S now rfl
  | putGenerated agentId policy context => exact g.register_proceeds S now rfl
  | requestPolicy G agentId context =>
    cases hd : (G.answer (G.request agentId context)).within G.timeout with
    | ok policy =>
      have he : (Operation.requestPolicy G agentId context).errand =
          .register (policy.submission agentId context) := by
        rw [errand, hd]
        rfl
      have hp : ((Operation.requestPolicy G agentId context).perform S g now).outcome =
            (g.register S now (policy.submission agentId context)).outcome.map .record ∧
          ((Operation.requestPolicy G agentId context).perform S g now).after =
            (g.register S now (policy.submission agentId context)).after := by
        rw [perform, Generator.provide, hd]
        exact ⟨rfl, rfl⟩
      rw [hp.1, hp.2]
      exact g.register_proceeds S now he
    | error reason =>
      have he : (Operation.requestPolicy G agentId context).errand = .fail agentId reason := by
        rw [errand, hd]
      have hp : (Operation.requestPolicy G agentId context).perform S g now =
          (Generator.fail S g now agentId reason).map .record := by
        rw [perform, Generator.provide, hd]
      rw [hp]
      exact g.fail_proceeds S now he
  | explain agentId q => exact g.explain_proceeds S now rfl
  | evaluate agentId q => exact g.explain_proceeds S now rfl
  | get agentId => exact .gets rfl
  | agentIds => exact .lists rfl g.registry.lists_agentIds
  | size =>
    have hcounts : Proceeds S now g.active g.sink .size
        (.done (.size g.registry.agentIds.length)) g.active g.sink :=
      .counts rfl g.registry.lists_agentIds
    rwa [Registry.length_agentIds] at hcounts
  | isEmpty =>
    have hasks : Proceeds S now g.active g.sink .isEmpty
        (.done (.isEmpty (g.registry.agentIds.length = 0))) g.active g.sink :=
      .asksEmpty rfl g.registry.lists_agentIds
    rwa [Registry.length_agentIds] at hasks

end Portcullis
