import Mathlib.Data.List.Basic
import Portcullis.Proofs.Audit.Journal
import Portcullis.Proofs.Gatehouse.Registrations

/-! The account: the entries that a sink keeps tell the truth about a gatehouse.

Every operation leaves one entry at most among those kept (`Happening.kept?`): one if a policy
was registered, and one if the sink kept that a request was decided or that a generation failed.
So the kept entries can be read beside the history. The last registration of an agent among
them describes its active policy, and every decision among them is the one that the rules
registered before it give. -/
namespace Portcullis

namespace Audit

/-- Whether an occurrence is the registration of a policy for an agent. -/
def Occurrence.registers (o : Occurrence) (agentId : String) : Bool :=
  match o with
  | .policyRegistered registered _ _ => registered = agentId
  | _ => false

/-- The last registration of an agent among entries. -/
def lastRegistration? (agentId : String) (entries : List Entry) : Option Entry :=
  (entries.filter fun e => e.occurrence.registers agentId).getLast?

end Audit

/-- The entry that an active policy was audited with at a time. -/
def PolicyRecord.entry (r : PolicyRecord) (time : Instant) : Audit.Entry :=
  ⟨.policyRegistered r.agentId (.ofNat r.rules.length) r.provenance, time⟩

variable {σ : Type} (S : Audit.Sink σ)

namespace Operation

/-- No record is shown of a decision. -/
theorem shown_ne_record {op : Operation} {agentId : String} {q : Request}
    {shown : Policy.Evaluation → Answer} (h : op.errand = .decide agentId q shown)
    (e : Policy.Evaluation) (r : PolicyRecord) : shown e ≠ .record r := by
  cases op with
  | explain _ _ | evaluate _ _ =>
    cases h
    simp
  | requestPolicy G _ context =>
    simp only [errand] at h
    split at h <;> cases h
  | _ => cases h

/-- An entry, if a sink in this state keeps it. -/
def ifKept (sink : σ) (entry : Audit.Entry) : Option Audit.Entry :=
  if (S.record sink entry).1 = .kept then some entry else none

theorem ifKept_of_kept {sink sink' : σ} {entry : Audit.Entry}
    (h : S.record sink entry = (.kept, sink')) : ifKept S sink entry = some entry := by
  rw [ifKept, h, if_pos rfl]

theorem filter_ifKept {sink : σ} {entry : Audit.Entry} {p : Audit.Entry → Bool}
    (h : p entry = false) : (ifKept S sink entry).filter p = none := by
  unfold ifKept
  split <;> simp [h]

/-- The entry that an operation leaves among those kept, given where it began and how it ended. -/
def kept? (op : Operation) (now : Moments) (active : Active) (sink : σ)
    (outcome : Outcome Answer) : Option Audit.Entry :=
  match op.errand with
  | .look => none
  | .register s =>
    match outcome with
    | .done _ => some (s.entry now.entered)
    | _ => none
  | .decide agentId q _ => ifKept S sink ((active.explain agentId q).entry agentId q now.entered)
  | .fail agentId reason => ifKept S sink ⟨.generationFailed agentId reason, now.entered⟩

end Operation

/-- The entry that a happening leaves among those kept. -/
def Happening.kept? (h : Happening σ) : Option Audit.Entry :=
  h.operation.kept? S h.now h.before.active h.before.sink h.outcome

/-- The rules that a happening registered for an agent, if it left an entry that says so. -/
def Happening.rulesEntered? (h : Happening σ) (agentId : String) : Option (List Policy.Rule) :=
  match (h.kept? S).filter fun e => e.occurrence.registers agentId, h.operation.errand with
  | some _, .register s => some (Policy.rules s.text)
  | _, _ => none

/-- The rules that were registered with the last registration of an agent among the kept
entries, or none at all. -/
def rulesOnRecord (past : List (Happening σ)) (agentId : String) : List Policy.Rule :=
  (past.filterMap fun h => h.rulesEntered? S agentId).getLast?.getD []

/-! ### One operation -/

namespace Proceeds

variable {S} {now : Moments} {active active' : Active} {op : Operation}
  {outcome : Outcome Answer}

/-- A journal gets the one entry that the operation leaves. -/
theorem journal_eq {x x' : σ × List Audit.Entry}
    (h : Proceeds S.journaled now active x op outcome active' x') :
    x'.2 = x.2 ++ (op.kept? S now active x.1 outcome).toList := by
  cases h with
  | gets h | lists h _ | counts h _ | asksEmpty h _ =>
    subst h
    exact (List.append_nil _).symm
  | rejects h _ =>
    simp only [Operation.kept?, h, Option.toList_none, List.append_nil]
  | registers h _ hr =>
    obtain ⟨-, hj⟩ := Audit.Sink.of_record_journaled hr
    simp only [hj, Operation.kept?, h, if_pos, Option.toList_some]
  | refuses h _ hr | registrationBreaks h _ hr =>
    obtain ⟨-, hj⟩ := Audit.Sink.of_record_journaled hr
    simp [hj, Operation.kept?, h]
  | decides h hr | denies h hr | decisionBreaks h hr =>
    obtain ⟨hs, hj⟩ := Audit.Sink.of_record_journaled hr
    simp [hj, Operation.kept?, Operation.ifKept, h, hs]
  | fails h hr _ | failureBreaks h hr =>
    obtain ⟨hs, hj⟩ := Audit.Sink.of_record_journaled hr
    simp only [hj, Operation.kept?, Operation.ifKept, h, hs]
    split <;> simp

variable {sink sink' : σ}

/-- An entry that registers a policy for an agent is that of the record made active. -/
theorem kept?_registers (h : Proceeds S now active sink op outcome active' sink')
    (agentId : String) :
    ((op.kept? S now active sink outcome).filter fun e => e.occurrence.registers agentId) =
      (op.registered? outcome agentId).map fun r => r.entry now.entered := by
  cases h with
  | gets h | lists h _ | counts h _ | asksEmpty h _ =>
    subst h
    rfl
  | @registers s _ h _ _ =>
    have he : (s.toRecord now.made).entry now.entered = s.entry now.entered := rfl
    have hr : (s.entry now.entered).occurrence.registers agentId = decide (s.agentId = agentId) := rfl
    by_cases ha : s.agentId = agentId <;>
      simp [Operation.kept?, Operation.registered?, h, he, hr, ha, Option.filter]
  | decides h _ | denies h _ | decisionBreaks h _ =>
    rw [Operation.registered?_of_decide h]
    simp only [Operation.kept?, h]
    exact Operation.filter_ifKept S rfl
  | fails h _ _ | failureBreaks h _ =>
    simp only [Operation.kept?, h]
    exact Operation.filter_ifKept S rfl
  | rejects h _ | refuses h _ _ | registrationBreaks h _ _ =>
    simp only [Operation.kept?, h]
    rfl

/-- A registration leaves the entry of the record it is answered with. -/
theorem kept?_of_record {r : PolicyRecord}
    (h : Proceeds S now active sink op (.done (.record r)) active' sink')
    {s : Submission} (hs : op.errand = .register s) :
    op.kept? S now active sink (.done (.record r)) = some (r.entry now.entered) := by
  obtain ⟨-, rfl⟩ := h.toRecord_of_record hs
  simp only [Operation.kept?, hs]
  rfl

/-- Only a policy that was handed in is answered with a record. -/
theorem exists_submission_of_record {r : PolicyRecord}
    (h : Proceeds S now active sink op (.done (.record r)) active' sink') :
    ∃ s, op.errand = .register s := by
  generalize ho : Outcome.done (Answer.record r) = outcome at h
  cases h with
  | registers h _ _ => exact ⟨_, h⟩
  | decides h _ | denies h _ =>
    exact absurd (Outcome.done.inj ho).symm (Operation.shown_ne_record h _ _)
  | _ => cases ho

/-- A permit that is shown is on record: a sink that does not keep it takes it away. -/
theorem kept?_of_permit {agentId : String} {q : Request} {shown : Policy.Evaluation → Answer}
    (h : Proceeds S now active sink op outcome active' sink')
    (he : op.errand = .decide agentId q shown)
    (hd : ∃ e, outcome = .done (shown e))
    (hpermit : ∀ e, outcome = .done (shown e) → e.decision = .permit) :
    ∃ rule, op.kept? S now active sink outcome =
      some ⟨.evaluated agentId q .permit rule, now.entered⟩ := by
  obtain ⟨e, hd⟩ := hd
  cases h with
  | gets h | lists h _ | counts h _ | asksEmpty h _ =>
    subst h
    cases he
  | rejects h _ | registers h _ _ | refuses h _ _ | registrationBreaks h _ _ | fails h _ _
  | failureBreaks h _ =>
    rw [h] at he
    cases he
  | decides h hr =>
    rw [h] at he
    cases he
    have hdecision : (active.explain agentId q).decision = .permit := hpermit _ rfl
    refine ⟨(active.explain agentId q).determiningRule, ?_⟩
    simp only [Operation.kept?, h, Operation.ifKept_of_kept S hr]
    rw [Policy.Evaluation.entry, hdecision]
  | denies h _ =>
    rw [h] at he
    cases he
    cases hpermit _ rfl
  | decisionBreaks h _ => cases hd

end Proceeds

namespace Happening
variable {S} {h : Happening σ}

theorem kept?_registers (hp : h.Proceeded S) (agentId : String) :
    ((h.kept? S).filter fun e => e.occurrence.registers agentId) =
      (h.registered? agentId).map fun r => r.entry h.now.entered :=
  Proceeds.kept?_registers hp agentId

theorem rulesEntered?_eq (hp : h.Proceeded S) (agentId : String) :
    h.rulesEntered? S agentId = (h.registered? agentId).map PolicyRecord.rules := by
  rw [rulesEntered?, kept?_registers hp]
  cases hr : h.registered? agentId with
  | none => rfl
  | some r =>
    obtain ⟨s, hs, ho, -⟩ := Operation.registered?_eq_some hr
    rw [Happening.Proceeded, ho] at hp
    obtain ⟨-, rfl⟩ := hp.toRecord_of_record hs
    simp only [hs, Option.map_some]
    rfl

/-- A decision among the kept entries was asked for, and is the one under what was active. -/
theorem of_kept?_evaluated {agentId : String} {q : Request} {d : Decision}
    {rule : Option String} {time : Instant}
    (he : h.kept? S = some ⟨.evaluated agentId q d rule, time⟩) :
    (∃ shown, h.operation.errand = .decide agentId q shown) ∧
      d = (h.before.active.explain agentId q).decision ∧
      rule = (h.before.active.explain agentId q).determiningRule := by
  unfold kept? Operation.kept? at he
  split at he
  · cases he
  · split at he <;> cases he
  · rename_i asked question shown hs
    unfold Operation.ifKept at he
    split at he
    · cases he
      exact ⟨⟨shown, hs⟩, rfl, rfl⟩
    · cases he
  · unfold Operation.ifKept at he
    split at he <;> cases he

/-- A caller was told that a request is permitted under an agent's policy. -/
def Permitted (h : Happening σ) (agentId : String) (q : Request) : Prop :=
  (h.operation = .explain agentId q ∧
      ∃ e, h.outcome = .done (.evaluation e) ∧ e.decision = .permit) ∨
    h.operation = .evaluate agentId q ∧ h.outcome = .done (.decision .permit)

theorem kept?_of_record (hp : h.Proceeded S) {r : PolicyRecord}
    (ho : h.outcome = .done (.record r)) : h.kept? S = some (r.entry h.now.entered) := by
  rw [Happening.Proceeded, ho] at hp
  obtain ⟨s, hs⟩ := hp.exists_submission_of_record
  rw [kept?, ho]
  exact hp.kept?_of_record hs

/-- Who is told that a request is permitted is on record with it. -/
theorem kept?_of_permitted (hp : h.Proceeded S) {agentId : String} {q : Request}
    (ht : h.Permitted agentId q) :
    ∃ rule, h.kept? S = some ⟨.evaluated agentId q .permit rule, h.now.entered⟩ := by
  rcases ht with ⟨ho, e, hd, hpermit⟩ | ⟨ho, hd⟩
  · have he : h.operation.errand = .decide agentId q .evaluation := by
      rw [ho]
      rfl
    refine hp.kept?_of_permit he ⟨e, hd⟩ fun e' he' => ?_
    rw [hd] at he'
    cases he'
    exact hpermit
  · have he : h.operation.errand = .decide agentId q fun e => .decision e.decision := by
      rw [ho]
      rfl
    refine hp.kept?_of_permit he ⟨⟨.permit, none, []⟩, hd⟩ fun e' he' => ?_
    rw [hd] at he'
    exact (Answer.decision.inj (Outcome.done.inj he')).symm

end Happening

/-! ### Whole histories -/

theorem rulesOnRecord_eq {past : List (Happening σ)} (hp : ∀ h ∈ past, h.Proceeded S)
    (agentId : String) :
    rulesOnRecord S past agentId =
      ((lastRegistered past agentId).map PolicyRecord.rules).getD [] := by
  rw [rulesOnRecord, lastRegistered, ← List.getLast?_map, List.map_filterMap,
    List.filterMap_congr fun h hm => Happening.rulesEntered?_eq (hp h hm) agentId]

/-- The decision under what is active is that under the rules of the active record. -/
theorem Active.explain_eq (active : Active) (agentId : String) (q : Request) :
    active.explain agentId q =
      Policy.explain (((active agentId).map PolicyRecord.rules).getD []) q := by
  rw [Active.explain]
  cases active agentId <;> rfl

/-- The record that was last made an agent's active one, and the time of its entry. -/
def lastEntered? (past : List (Happening σ)) (agentId : String) : Option (PolicyRecord × Instant) :=
  (past.filterMap fun h => (h.registered? agentId).map fun r => (r, h.now.entered)).getLast?

theorem lastRegistered_eq (past : List (Happening σ)) (agentId : String) :
    lastRegistered past agentId = (lastEntered? past agentId).map Prod.fst := by
  rw [lastEntered?, lastRegistered, ← List.getLast?_map, List.map_filterMap]
  simp only [Option.map_map, Function.comp_def, Option.map_id']

theorem lastRegistration?_eq {past : List (Happening σ)} (hp : ∀ h ∈ past, h.Proceeded S)
    (agentId : String) :
    Audit.lastRegistration? agentId (past.filterMap (Happening.kept? S)) =
      (lastEntered? past agentId).map fun x => x.1.entry x.2 := by
  rw [Audit.lastRegistration?, lastEntered?, ← List.getLast?_map, List.map_filterMap,
    List.filter_filterMap,
    List.filterMap_congr fun h hm => Happening.kept?_registers (hp h hm) agentId]
  simp only [Option.map_map, Function.comp_def]

namespace Gatehouse

/-- The journal lists the entries that the happenings leave. -/
theorem journal_run (g : Gatehouse (σ × List Audit.Entry)) (ops : List (Moments × Operation)) :
    (g.run S.journaled ops).sink.2 =
      g.sink.2 ++ (g.withoutJournal.history S ops).filterMap (Happening.kept? S) := by
  induction ops generalizing g with
  | nil => exact (List.append_nil _).symm
  | cons asked rest ih =>
    obtain ⟨now, op⟩ := asked
    have hsame := perform_journaled S g now op
    have hstep : (op.perform S.journaled g now).after.sink.2 =
        g.sink.2 ++ ((op.happening S g.withoutJournal now).kept? S).toList := by
      rw [(op.proceeds S.journaled g now).journal_eq, hsame.outcome]
      rfl
    rw [run, ih, hsame.after, hstep, history, List.append_assoc, List.filterMap_cons]
    cases (op.happening S g.withoutJournal now).kept? S <;> rfl

/-- **The kept entries tell the truth.** Let a gatehouse open in front of any sink and do any
operations, and let `kept` be what a journal lists of the entries the sink keeps. Those are, in
order, the entries that the operations leave, one at most for each. An agent has an active policy
if and only if a registration for it is among them, and the last one counts its rules and names
its provenance. Each decision among them was asked for, of that agent and with that request, and
is the one under the rules last registered for the agent before it, or under no rules. Whoever
was told that a request is permitted is among them with that decision. A policy that was
registered has its one entry among them, with the time that the clock showed for it. -/
theorem kept_entries_true (start : σ) (ops : List (Moments × Operation)) :
    let past := (opening start).history S ops
    let g := (opening start).run S ops
    let journaled := (opening (start, [])).run S.journaled ops
    let kept := journaled.sink.2
    journaled.withoutJournal = g ∧
    kept = past.filterMap (Happening.kept? S) ∧
    (∀ agentId,
      ((g.registry.get? agentId).isSome ↔ ∃ e ∈ kept, e.occurrence.registers agentId = true) ∧
      ∀ r, g.registry.get? agentId = some r → ∃ time, Audit.lastRegistration? agentId kept =
        some ⟨.policyRegistered agentId (.ofNat r.rules.length) r.provenance, time⟩) ∧
    (∀ earlier h later, past = earlier ++ h :: later → ∀ agentId q d rule time,
      h.kept? S = some ⟨.evaluated agentId q d rule, time⟩ →
        (∃ shown, h.operation.errand = .decide agentId q shown) ∧
        d = (Policy.explain (rulesOnRecord S earlier agentId) q).decision ∧
        rule = (Policy.explain (rulesOnRecord S earlier agentId) q).determiningRule) ∧
    (∀ h ∈ past, ∀ agentId q, h.Permitted agentId q →
      ∃ rule, h.kept? S = some ⟨.evaluated agentId q .permit rule, h.now.entered⟩) ∧
    ∀ h ∈ past, ∀ r, h.outcome = .done (.record r) → h.kept? S = some (r.entry h.now.entered) := by
  intro past g journaled kept
  have hproceeded : ∀ h ∈ past, h.Proceeded S := fun h hm => proceeded_of_mem_history S hm
  have hactive : g.registry.get? = lastRegistered past := active_run S start ops
  have hkept : kept = past.filterMap (Happening.kept? S) :=
    (journal_run S (opening (start, [])) ops).trans (List.nil_append _)
  have hlast : ∀ agentId, Audit.lastRegistration? agentId kept =
      (lastEntered? past agentId).map fun x => x.1.entry x.2 := by
    intro agentId
    rw [hkept, lastRegistration?_eq S hproceeded]
  refine ⟨run_journaled S _ ops, hkept, fun agentId => ⟨?_, ?_⟩, ?_, ?_, ?_⟩
  · have hsome : (Audit.lastRegistration? agentId kept).isSome =
        (g.registry.get? agentId).isSome := by
      rw [hlast, hactive, lastRegistered_eq, Option.isSome_map, Option.isSome_map]
    rw [← hsome, Audit.lastRegistration?, List.getLast?_isSome, ne_eq, List.filter_eq_nil_iff]
    simp
  · intro r hr
    rw [hactive] at hr
    obtain ⟨_, _, s, -, -, rfl, -, rfl⟩ := submission_of_lastRegistered S hr
    rw [lastRegistered_eq] at hr
    obtain ⟨⟨r, time⟩, hentered, hrecord⟩ := Option.map_eq_some_iff.mp hr
    obtain rfl : r = s.toRecord _ := hrecord
    refine ⟨time, ?_⟩
    rw [hlast, hentered]
    rfl
  · intro earlier h later hsplit agentId q d rule time he
    obtain ⟨first, hearlier, hh⟩ := exists_run_of_history S hsplit
    obtain ⟨hasked, hd, hrule⟩ := Happening.of_kept?_evaluated he
    have hmem : ∀ x ∈ earlier, x.Proceeded S := fun x hx =>
      hproceeded x (by rw [hsplit]; exact List.mem_append_left _ hx)
    have hbefore : h.before.active = lastRegistered earlier := by
      rw [hh, hearlier]
      exact active_run S start first
    have hexplain : h.before.active.explain agentId q =
        Policy.explain (rulesOnRecord S earlier agentId) q := by
      rw [Active.explain_eq, hbefore, rulesOnRecord_eq S hmem]
    rw [hexplain] at hd hrule
    exact ⟨hasked, hd, hrule⟩
  · intro h hm agentId q ht
    exact Happening.kept?_of_permitted (hproceeded h hm) ht
  · intro h hm r hr
    exact Happening.kept?_of_record (hproceeded h hm) hr

end Gatehouse

end Portcullis
