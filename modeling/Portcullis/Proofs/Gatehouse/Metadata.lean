import Mathlib.Data.List.Forall2
import Portcullis.Proofs.Gatehouse.Registrations

/-! What decisions do not depend on.

Beside what decides, much travels along: the context and the provenance of a policy, the
resource of a request and the agent that it names itself. Two runs are compared that agree on
agents, policy texts, principals and actions and on nothing else (`Operation.Alike`), in front
of sinks that keep every entry. Each operation leaves every agent with the same rules on both
sides, and what is decided on the one side is decided on the other (`perform_alike`); so do
runs of any length (`metadata_decides_nothing`). -/
namespace Portcullis

/-! ### Requests -/

/-- Two requests that no rule can tell apart. -/
structure Request.Alike (q q' : Request) : Prop where
  principal : q.principal = q'.principal
  action : q.action = q'.action

namespace Policy

theorem Rule.applies_congr {q q' : Request} (h : q.Alike q') (r : Rule) :
    r.applies q = r.applies q' := by
  rw [applies, applies, h.principal, h.action]

theorem Evaluation.scan_congr {q q' : Request} (h : q.Alike q') (sofar : Evaluation)
    (rules : List Rule) : sofar.scan q rules = sofar.scan q' rules := by
  induction rules generalizing sofar with
  | nil => rfl
  | cons r rest ih =>
    rw [scan, scan, r.applies_congr h]
    cases r.effect <;> simp only [ih]

theorem explain_congr {q q' : Request} (h : q.Alike q') (rules : List Rule) :
    explain rules q = explain rules q' :=
  Evaluation.denial.scan_congr h rules

end Policy

/-! ### Active policies -/

/-- Every agent has the same active rules, or none on either side. -/
def Active.SameRules (active other : Active) : Prop :=
  ∀ agentId, (active agentId).map PolicyRecord.rules = (other agentId).map PolicyRecord.rules

theorem Active.SameRules.explain_eq {active other : Active} (h : active.SameRules other)
    {q q' : Request} (hq : q.Alike q') (agentId : String) :
    active.explain agentId q = other.explain agentId q' := by
  have hrules := h agentId
  unfold explain
  cases ha : active agentId with
  | none =>
    rw [ha, Option.map_none, eq_comm, Option.map_eq_none_iff] at hrules
    rw [hrules]
  | some r =>
    rw [ha, Option.map_some, eq_comm, Option.map_eq_some_iff] at hrules
    obtain ⟨r', hr', heq⟩ := hrules
    rw [hr']
    dsimp only
    rw [heq, Policy.explain_congr hq]

/-! ### Operations -/

/-- Two operations that differ in metadata at most: the same one, two submissions of one text
for one agent, two requests to one agent's policy that no rule can tell apart, or two
generations for one agent that both failed. -/
inductive Operation.Alike : Operation → Operation → Prop where
  | same (op : Operation) : Alike op op
  | registers {op op' : Operation} {s s' : Submission} (h : op.errand = .register s)
      (h' : op'.errand = .register s') (agent : s.agentId = s'.agentId) (text : s.text = s'.text) :
    Alike op op'
  | decides {op op' : Operation} {agentId : String} {q q' : Request}
      {shown : Policy.Evaluation → Answer} (h : op.errand = .decide agentId q shown)
      (h' : op'.errand = .decide agentId q' shown) (request : q.Alike q') : Alike op op'
  | fails {op op' : Operation} {agentId reason reason' : String}
      (h : op.errand = .fail agentId reason) (h' : op'.errand = .fail agentId reason') : Alike op op'

/-- A sink that keeps every entry. -/
def Audit.Sink.KeepsAll {σ : Type} (S : Audit.Sink σ) : Prop :=
  ∀ sink entry, (S.record sink entry).1 = .kept

theorem Audit.Sink.none_keepsAll : Audit.Sink.none.KeepsAll := fun _ _ => rfl

theorem Audit.Sink.trail_keepsAll (H : Audit.Digest) : (Audit.Sink.trail H).KeepsAll :=
  fun _ _ => rfl

variable {σ σ' : Type} {S : Audit.Sink σ} {S' : Audit.Sink σ'}

/-- In front of such a sink a submission is registered just when it opens a statement. -/
theorem Proceeds.registered?_of_submission {now : Moments} {active active' : Active}
    {sink sink' : σ} {op : Operation} {outcome : Outcome Answer} {s : Submission}
    (h : Proceeds S now active sink op outcome active' sink') (hS : S.KeepsAll)
    (hs : op.errand = .register s) (agentId : String) :
    op.registered? outcome agentId =
      if Policy.opensStatement s.text = true ∧ s.agentId = agentId then some (s.toRecord now.made)
      else none := by
  rcases h.of_submission hs with
    ⟨ho, rfl⟩ | ⟨ho, ⟨-, rfl, -⟩ | ⟨failure, hr, -⟩ | ⟨hr, -⟩⟩
  · simp [Operation.registered?, ho]
  · simp [Operation.registered?, hs, ho]
  · rw [hS] at hr
    cases hr
  · rw [hS] at hr
    cases hr

/-- Two happenings after which every agent has the same rules on both sides. What the first
decided for an agent, the second decided for it too, and the same. -/
structure Happening.Agree (x : Happening σ) (x' : Happening σ') : Prop where
  rules : ∀ agentId, (x.after.registry.get? agentId).map PolicyRecord.rules =
    (x'.after.registry.get? agentId).map PolicyRecord.rules
  decision : ∀ agentId q shown, x.operation.errand = .decide agentId q shown →
    ∃ (q' : Request) (e : Policy.Evaluation),
      x'.operation.errand = .decide agentId q' shown ∧ q.Alike q' ∧
      x.outcome = .done (shown e) ∧ x'.outcome = .done (shown e)

variable {g : Gatehouse σ} {g' : Gatehouse σ'}

/-- What two alike operations register for an agent has the same rules. -/
theorem Operation.Alike.registered?_rules {op op' : Operation} (ho : op.Alike op')
    (hS : S.KeepsAll) (hS' : S'.KeepsAll) (now now' : Moments) (agentId : String) :
    (op.registered? (op.perform S g now).outcome agentId).map PolicyRecord.rules =
      (op'.registered? (op'.perform S' g' now').outcome agentId).map PolicyRecord.rules := by
  have hp := op.proceeds S g now
  have hp' := op'.proceeds S' g' now'
  have hboth : ∀ {s s' : Submission}, op.errand = .register s → op'.errand = .register s' →
      s.agentId = s'.agentId → s.text = s'.text →
      (op.registered? (op.perform S g now).outcome agentId).map PolicyRecord.rules =
        (op'.registered? (op'.perform S' g' now').outcome agentId).map PolicyRecord.rules := by
    intro s s' h h' hagent htext
    rw [hp.registered?_of_submission hS h, hp'.registered?_of_submission hS' h', hagent, htext]
    split
    · show some (Policy.rules s.text) = some (Policy.rules s'.text)
      rw [htext]
    · rfl
  have hneither : ∀ {op : Operation} {outcome : Outcome Answer},
      (∀ s, op.errand ≠ .register s) → op.registered? outcome agentId = none := by
    intro op outcome hne
    cases hr : op.registered? outcome agentId with
    | none => rfl
    | some r =>
      obtain ⟨s, hs, -⟩ := registered?_eq_some hr
      exact absurd hs (hne s)
  cases ho with
  | same =>
    cases he : op.errand with
    | register s => exact hboth he he rfl rfl
    | look | fail | decide =>
      rw [hneither (by simp [he]), hneither (by simp [he])]
  | registers h h' hagent htext => exact hboth h h' hagent htext
  | decides h h' _ => rw [hneither (by simp [h]), hneither (by simp [h'])]
  | fails h h' => rw [hneither (by simp [h]), hneither (by simp [h'])]

/-- **Alike operations keep the rules the same and decide the same.** -/
theorem Operation.perform_alike {op op' : Operation} (ho : op.Alike op') (hS : S.KeepsAll)
    (hS' : S'.KeepsAll) (hr : g.active.SameRules g'.active) (now now' : Moments) :
    (op.happening S g now).Agree (op'.happening S' g' now') where
  rules agentId := by
    have ha := (op.proceeds S g now).active_eq agentId
    have ha' := (op'.proceeds S' g' now').active_eq agentId
    show ((op.perform S g now).after.active agentId).map _ =
      ((op'.perform S' g' now').after.active agentId).map _
    rw [ha, ha', Option.map_or, Option.map_or, ho.registered?_rules hS hS' now now', hr agentId]
  decision agentId q shown he := by
    have hdecides : ∀ {q' : Request}, op'.errand = .decide agentId q' shown → q.Alike q' →
        ∃ (q' : Request) (e : Policy.Evaluation), op'.errand = .decide agentId q' shown ∧
          q.Alike q' ∧ (op.perform S g now).outcome = .done (shown e) ∧
          (op'.perform S' g' now').outcome = .done (shown e) := by
      intro q' he' hq
      refine ⟨q', g.active.explain agentId q, he', hq, ?_, ?_⟩
      · exact (op.proceeds S g now).of_decided he (hS _ _)
      · rw [hr.explain_eq hq]
        exact (op'.proceeds S' g' now').of_decided he' (hS' _ _)
    have he : op.errand = .decide agentId q shown := he
    cases ho with
    | same => exact hdecides he ⟨rfl, rfl⟩
    | registers h _ _ _ => rw [h] at he; cases he
    | decides h h' hq =>
      rw [h] at he
      cases he
      exact hdecides h' hq
    | fails h _ => rw [h] at he; cases he

/-! ### Runs -/

/-- Two lists of operations, one alike to the other in every place. -/
abbrev AlikeRuns (ops ops' : List (Moments × Operation)) : Prop :=
  List.Forall₂ (fun asked asked' => asked.2.Alike asked'.2) ops ops'

namespace Gatehouse

theorem run_alike {ops ops' : List (Moments × Operation)} (h : AlikeRuns ops ops')
    (hS : S.KeepsAll) (hS' : S'.KeepsAll) (hr : g.active.SameRules g'.active) :
    List.Forall₂ Happening.Agree (g.history S ops) (g'.history S' ops') ∧
      (g.run S ops).active.SameRules (g'.run S' ops').active := by
  induction h generalizing g g' with
  | nil => exact ⟨.nil, hr⟩
  | @cons asked asked' rest rest' ho _ ih =>
    obtain ⟨now, op⟩ := asked
    obtain ⟨now', op'⟩ := asked'
    have hagree := op.perform_alike ho hS hS' hr now now'
    obtain ⟨hhistory, hrun⟩ := ih hagree.rules
    exact ⟨.cons hagree hhistory, hrun⟩

/-- **Metadata decides nothing.** Take two runs of a fresh gatehouse, each without a sink or in
front of one that keeps every entry, that agree on agents and policy texts and on the agents,
principals and actions asked about. However they differ in the contexts and the provenance of
policies, in the resources of requests, in the agents that requests name and in the time, they
decide the same at every step, with the same evaluations, and after every step and at the end
every agent has the same active rules in both. -/
theorem metadata_decides_nothing (hS : S.KeepsAll) (hS' : S'.KeepsAll) (start : σ) (start' : σ')
    {ops ops' : List (Moments × Operation)} (h : AlikeRuns ops ops') :
    List.Forall₂ Happening.Agree ((opening start).history S ops)
      ((opening start').history S' ops') ∧
    ∀ agentId, (((opening start).run S ops).registry.get? agentId).map PolicyRecord.rules =
      (((opening start').run S' ops').registry.get? agentId).map PolicyRecord.rules :=
  run_alike h hS hS' fun _ => rfl

/-- A clerk's policy from its owner, without a sink, and the same text from a generator that calls
it critical, in front of a trail. The request in the second run is about something else and names
another agent. -/
theorem metadata_decides_nothing_generated :
    let text := "permit(principal, action == Bank::\"read\", resource);"
    let ops : List (Moments × Operation) :=
      [(.epoch, .put "clerk" text ⟨"serve", .basic, []⟩),
        (.epoch, .explain "clerk" ⟨"read", "ana", "ledger", "clerk"⟩)]
    let ops' : List (Moments × Operation) :=
      [(.epoch, .putGenerated "clerk" ⟨text, "reads a lot", .critical⟩ ⟨"audit", .mfa, ["night"]⟩),
        (.epoch, .explain "clerk" ⟨"read", "ana", "vault", "eve"⟩)]
    let trail := Audit.Sink.trail Audit.sha256
    (Audit.Sink.none.KeepsAll ∧ trail.KeepsAll ∧ AlikeRuns ops ops') ∧
      List.Forall₂ Happening.Agree ((opening ()).history .none ops)
        ((opening (.empty "t")).history trail ops') ∧
      (((opening ()).run .none ops).registry.get? "clerk").map PolicyRecord.rules =
        (((opening (.empty "t")).run trail ops').registry.get? "clerk").map PolicyRecord.rules := by
  intro text ops ops' trail
  have halike : AlikeRuns ops ops' :=
    .cons (.registers rfl rfl rfl rfl) (.cons (.decides rfl rfl ⟨rfl, rfl⟩) .nil)
  have hnone := Audit.Sink.none_keepsAll
  have htrail : trail.KeepsAll := Audit.Sink.trail_keepsAll _
  obtain ⟨hagree, hrules⟩ :=
    metadata_decides_nothing hnone htrail () (.empty "t") halike
  exact ⟨⟨hnone, htrail, halike⟩, hagree, hrules "clerk"⟩

end Gatehouse

end Portcullis
