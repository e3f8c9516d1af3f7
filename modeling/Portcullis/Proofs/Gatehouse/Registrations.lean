import Portcullis.Proofs.Gatehouse.Recovery

/-! Registrations: what a gatehouse has active is what was last registered.

A registration counts from the moment it is answered with its record. Nothing else that happens
touches a record, be it an operation that fails, one whose sink breaks off, or one that only
looks. So the active policies can be read off the history. -/
namespace Portcullis

variable {σ : Type}

/-- The record that an operation made an agent's active one: the record it was answered with, if
the policy it handed in was for that agent. -/
def Operation.registered? (op : Operation) (outcome : Outcome Answer) (agentId : String) :
    Option PolicyRecord :=
  match outcome, op.errand with
  | .done (.record r), .register s => if s.agentId = agentId then some r else none
  | _, _ => none

theorem Operation.registered?_eq_some {op : Operation} {outcome : Outcome Answer}
    {agentId : String} {r : PolicyRecord} (h : op.registered? outcome agentId = some r) :
    ∃ s, op.errand = .register s ∧ outcome = .done (.record r) ∧ s.agentId = agentId := by
  unfold registered? at h
  split at h
  · rename_i record s hs
    split at h
    · rename_i ha
      cases h
      exact ⟨s, hs, rfl, ha⟩
    · cases h
  · cases h

/-- Deciding registers nothing, whatever it shows. -/
theorem Operation.registered?_of_decide {op : Operation} {asked : String} {q : Request}
    {shown : Policy.Evaluation → Answer} (h : op.errand = .decide asked q shown)
    (outcome : Outcome Answer) (agentId : String) : op.registered? outcome agentId = none := by
  cases hr : op.registered? outcome agentId with
  | none => rfl
  | some r =>
    obtain ⟨s, hs, -, -⟩ := registered?_eq_some hr
    rw [h] at hs
    cases hs

def Happening.registered? (h : Happening σ) (agentId : String) : Option PolicyRecord :=
  h.operation.registered? h.outcome agentId

/-- The record that was last made an agent's active one. -/
def lastRegistered (past : List (Happening σ)) : Active := fun agentId =>
  (past.filterMap fun h => h.registered? agentId).getLast?

theorem lastRegistered_append (past : List (Happening σ)) (h : Happening σ) (agentId : String) :
    lastRegistered (past ++ [h]) agentId =
      (h.registered? agentId).or (lastRegistered past agentId) := by
  rw [lastRegistered, List.filterMap_append, List.getLast?_append, lastRegistered]
  congr 1
  cases hr : h.registered? agentId <;> simp [hr]

namespace Proceeds

variable {S : Audit.Sink σ} {now : Moments} {active active' : Active} {sink sink' : σ}
  {op : Operation} {outcome : Outcome Answer}

/-- What an operation registers replaces what was active, and nothing else does. -/
theorem active_eq (h : Proceeds S now active sink op outcome active' sink') (agentId : String) :
    active' agentId = (op.registered? outcome agentId).or (active agentId) := by
  cases h with
  | @registers s _ h _ _ =>
    have hr : (s.toRecord now.made).agentId = s.agentId := rfl
    by_cases ha : s.agentId = agentId <;> simp [Operation.registered?, h, Active.insert, hr, ha]
  | decides h _ | denies h _ => rw [Operation.registered?_of_decide h, Option.none_or]
  | _ => rfl

/-- An operation that is not answered with a record leaves every record as it was. -/
theorem active_of_not_record (h : Proceeds S now active sink op outcome active' sink')
    (hr : ∀ r, outcome ≠ .done (.record r)) : active' = active := by
  funext agentId
  rw [h.active_eq]
  cases ho : op.registered? outcome agentId with
  | none => rw [Option.none_or]
  | some r =>
    obtain ⟨s, -, hs, -⟩ := Operation.registered?_eq_some ho
    exact absurd hs (hr r)

/-- A record is the reading of the policy that was handed in. -/
theorem toRecord_of_record {s : Submission} {r : PolicyRecord}
    (h : Proceeds S now active sink op (.done (.record r)) active' sink')
    (hs : op.errand = .register s) :
    Policy.opensStatement s.text = true ∧ r = s.toRecord now.made := by
  generalize ho : Outcome.done (Answer.record r) = outcome at h
  cases h with
  | registers h hopens _ =>
    rw [h] at hs
    cases hs
    cases ho
    exact ⟨hopens, rfl⟩
  | gets h | lists h _ | counts h _ | asksEmpty h _ => cases ho
  | decides h _ | denies h _ => rw [h] at hs; cases hs
  | _ => cases ho

end Proceeds

namespace Gatehouse

/-- **What is active is what was last registered.** -/
theorem active_run (S : Audit.Sink σ) (start : σ) (ops : List (Moments × Operation)) :
    ((opening start).run S ops).active = lastRegistered ((opening start).history S ops) := by
  refine run_induction S (P := fun past g => g.active = lastRegistered past) rfl ?_ ops
  intro past g now op hpast
  funext agentId
  rw [lastRegistered_append, ← hpast]
  exact (op.proceeds S g now).active_eq agentId

/-- What is last registered was registered, and is the reading of what was handed in. -/
theorem submission_of_lastRegistered (S : Audit.Sink σ) {g : Gatehouse σ}
    {ops : List (Moments × Operation)} {agentId : String} {r : PolicyRecord}
    (hr : lastRegistered (g.history S ops) agentId = some r) :
    ∃ h ∈ g.history S ops, ∃ s, h.operation.errand = .register s ∧
      h.outcome = .done (.record r) ∧ s.agentId = agentId ∧
      Policy.opensStatement s.text = true ∧ r = s.toRecord h.now.made := by
  obtain ⟨h, hm, hh⟩ := List.mem_filterMap.mp (List.mem_of_getLast? hr)
  obtain ⟨s, hs, ho, ha⟩ := Operation.registered?_eq_some hh
  have hp := proceeded_of_mem_history S hm
  rw [Happening.Proceeded, ho] at hp
  obtain ⟨hopens, hrecord⟩ := hp.toRecord_of_record hs
  exact ⟨h, hm, s, hs, ho, ha, hopens, hrecord⟩

/-- **A gatehouse is the map of last successful registrations, and failures are atomic.** After
any operations, in front of any sink, an agent's active record is the one that the last
successful registration for it was answered with, and it is the agent's own: the text handed in,
which opens a statement, the rules read from it, and the context and provenance it came with. An
operation that is not answered with a record, failed or broken off, leaves all records as they
were. Its lock is poisoned if a registration broke off, and not otherwise, and this changes
nothing: whatever is asked next is answered as with a new lock, and goes as it may where these
records are active. -/
theorem active_last_registered (S : Audit.Sink σ) (start : σ) (ops : List (Moments × Operation)) :
    let past := (opening start).history S ops
    let g := (opening start).run S ops
    (∀ agentId, g.registry.get? agentId = lastRegistered past agentId) ∧
    (∀ agentId r, g.registry.get? agentId = some r → ∃ h ∈ past, ∃ s,
      h.operation.Submits s ∧ h.operation.errand = .register s ∧ h.outcome = .done (.record r) ∧
      s.agentId = agentId ∧ r.agentId = agentId ∧ r.rawText = s.text ∧
      Policy.opensStatement r.rawText = true ∧ r.rules = Policy.rules r.rawText ∧
      r.createdAt = h.now.made ∧ r.sourceContext = s.context ∧ r.provenance = s.provenance) ∧
    (∀ h ∈ past, (∀ r, h.outcome ≠ .done (.record r)) →
      ∀ agentId, h.after.registry.get? agentId = h.before.registry.get? agentId) ∧
    (g.policies.poisoned = true ↔ ∃ h ∈ past, h.outcome = .broke ∧ ∃ s, h.operation.Submits s) ∧
    (∀ more, (g.history S more).map Happening.outcome =
        (g.relocked.history S more).map Happening.outcome ∧
      (g.run S more).registry = (g.relocked.run S more).registry ∧
      (g.run S more).sink = (g.relocked.run S more).sink) ∧
    ∀ now op, Proceeds S now (lastRegistered past) g.sink op (op.perform S g now).outcome
      (op.perform S g now).after.registry.get? (op.perform S g now).after.sink := by
  intro past g
  have hactive : g.registry.get? = lastRegistered past := active_run S start ops
  refine ⟨fun agentId => congrFun hactive agentId, ?_, ?_, poisoned_run_iff S start ops,
    g.run_relocked S, ?_⟩
  · intro agentId r hr
    rw [hactive] at hr
    obtain ⟨h, hm, s, hs, ho, ha, hopens, rfl⟩ := submission_of_lastRegistered S hr
    exact ⟨h, hm, s, Operation.errand_eq_register_iff.mp hs, hs, ho, ha, ha, rfl, hopens, rfl, rfl,
      rfl, rfl⟩
  · intro h hm hr agentId
    exact congrFun ((proceeded_of_mem_history S hm).active_of_not_record hr) agentId
  · intro now op
    rw [← hactive]
    exact op.proceeds S g now

/-- A sink that breaks off at the entry in one place, counted from zero, and keeps all others. -/
def breakingAt (place : Nat) : Audit.Sink Nat where
  record count _ := (if count = place then .broke else .kept, count + 1)

/-- A clerk's policy that takes effect, one whose registration breaks off, a request and a policy
from a generator, one after the other. -/
def interrupted : List (Moments × Operation) :=
  let context : SourceContext := ⟨"serve", .basic, ["night"]⟩
  let reading := "permit(principal, action == Bank::\"read\", resource);"
  let paying := "permit(principal, action == Bank::\"pay\", resource);"
  let G : Generator :=
    ⟨fun _ => ⟨.ofSeconds 2, .ok ⟨paying, "pays", .high⟩⟩, .standard, .ofSeconds 30⟩
  [(.epoch, .put "clerk" reading context),
    (.epoch, .put "clerk" "forbid(principal, action, resource);" context),
    (.epoch, .evaluate "clerk" ⟨"read", "ana", "ledger", "clerk"⟩),
    (.epoch, .requestPolicy G "clerk" context)]

/-- A registration that breaks off poisons the lock and leaves the first policy in force. The
request behind it is permitted under that policy, and the generated policy takes its place. -/
theorem active_last_registered_interrupted :
    let S := breakingAt 1
    let past := (opening 0).history S interrupted
    let g := (opening 0).run S interrupted
    past[1]?.map Happening.outcome = some .broke ∧
      past[2]?.map Happening.outcome = some (.done (.decision .permit)) ∧
      g.policies.poisoned = true ∧
      ∃ r, g.registry.get? "clerk" = some r ∧
        r.rawText = "permit(principal, action == Bank::\"pay\", resource);" ∧
        r.provenance = .generated "pays" .high ∧ ∃ h ∈ past, ∃ s, h.operation.Submits s ∧
          h.outcome = .done (.record r) ∧ r.rawText = s.text ∧ r.provenance = s.provenance := by
  intro S past g
  obtain ⟨-, hrecord, -, hpoisoned, -⟩ := active_last_registered S 0 interrupted
  have hbroke : past[1]?.map Happening.outcome = some .broke := by decide +kernel
  obtain ⟨h, hh, houtcome⟩ := Option.map_eq_some_iff.mp hbroke
  have hasked : past[1]?.map Happening.operation = some (.put "clerk"
      "forbid(principal, action, resource);" ⟨"serve", .basic, ["night"]⟩) := rfl
  have hsubmits : ∃ s, h.operation.Submits s := by
    rw [hh] at hasked
    rw [Option.some.inj hasked]
    exact ⟨_, .put _ _ _⟩
  have hactive : (g.registry.get? "clerk").map (fun r => (r.rawText, r.provenance)) =
      some ("permit(principal, action == Bank::\"pay\", resource);", .generated "pays" .high) := by
    decide +kernel
  obtain ⟨r, hr, hparts⟩ := Option.map_eq_some_iff.mp hactive
  obtain ⟨htext, hprovenance⟩ := Prod.mk.inj hparts
  obtain ⟨x, hx, s, hs, -, ho, -, -, hst, -, -, -, -, hsp⟩ := hrecord "clerk" r hr
  exact ⟨hbroke, by decide +kernel,
    hpoisoned.mpr ⟨h, List.mem_of_getElem? hh, houtcome, hsubmits⟩, r, hr, htext, hprovenance, x, hx,
    s, hs, ho, hst, hsp⟩

end Gatehouse

end Portcullis
