import Portcullis.Operation

/-! What is handed in.

A policy is handed in by its author, as the work of a generator, or by way of a generator that is
asked for one. A generator answers in time or is late, with a policy or with one of four failures.
Each way but one gives no policy, for a reason that depends on the answer alone
(`Delivery.Fails`); the one way left gives the policy (`Delivery.Delivers`).

So what an operation hands in is said by its own arguments and, at most, by an answer
(`Operation.Submits`). **An operation registers what it hands in, and nothing else does**
(`Operation.errand_eq_register_iff`). -/
namespace Portcullis

/-! ### Answers of a generator -/

namespace Delivery

/-- A generator's answer is no policy, and this is why. -/
inductive Fails (d : Delivery) (timeout : Span) : String → Prop where
  | late : timeout < d.delay → Fails d timeout ("generator did not respond within " ++ timeout.text)
  | failed {reason : String} : ¬timeout < d.delay → d.reply = .error (.generationFailed reason) →
      Fails d timeout reason
  | otherwise {failure : Failure} : ¬timeout < d.delay → d.reply = .error failure →
      (∀ reason, failure ≠ .generationFailed reason) → Fails d timeout failure.message

/-- A generator answers in time with a policy. -/
structure Delivers (d : Delivery) (timeout : Span) (policy : GeneratedPolicy) : Prop where
  inTime : ¬timeout < d.delay
  reply : d.reply = .ok policy

variable {d : Delivery} {timeout : Span}

theorem within_of_fails {reason : String} (h : d.Fails timeout reason) :
    d.within timeout = .error reason := by
  cases h with
  | late hlate => rw [within, if_pos hlate]
  | failed hin hreply => rw [within, if_neg hin, hreply]
  | @otherwise failure hin hreply hother =>
    rw [within, if_neg hin, hreply]
    cases failure with
    | generationFailed reason => exact absurd rfl (hother reason)
    | invalidPolicy _ | configuration _ | auditWriteFailed _ => rfl

theorem within_of_delivers {policy : GeneratedPolicy} (h : d.Delivers timeout policy) :
    d.within timeout = .ok policy := by
  rw [within, if_neg h.inTime, h.reply]

/-- An answer fails or delivers. -/
theorem fails_or_delivers (d : Delivery) (timeout : Span) :
    (∃ reason, d.Fails timeout reason) ∨ ∃ policy, d.Delivers timeout policy := by
  by_cases hlate : timeout < d.delay
  · exact .inl ⟨_, .late hlate⟩
  · cases hreply : d.reply with
    | ok policy => exact .inr ⟨policy, hlate, hreply⟩
    | error failure =>
      cases failure with
      | generationFailed reason => exact .inl ⟨reason, .failed hlate hreply⟩
      | invalidPolicy _ | configuration _ | auditWriteFailed _ =>
        exact .inl ⟨_, .otherwise hlate hreply (by simp)⟩

end Delivery

/-! ### Submissions -/

/-- The policy that an operation hands in: for whom, the text, the context and where it is from. -/
inductive Operation.Submits : Operation → Submission → Prop where
  | put (agentId text : String) (context : SourceContext) :
    Submits (.put agentId text context) ⟨agentId, text, context, .registered⟩
  | putGenerated (agentId text rationale : String) (tier : RiskTier) (context : SourceContext) :
    Submits (.putGenerated agentId ⟨text, rationale, tier⟩ context)
      ⟨agentId, text, context, .generated rationale tier⟩
  | requestPolicy {G : Generator} {agentId task text rationale : String}
      {level : AuthenticationLevel} {roles : List String} {tier : RiskTier}
      (h : (G.answer ⟨agentId, task, level, roles, G.vocabulary⟩).Delivers G.timeout
        ⟨text, rationale, tier⟩) :
    Submits (.requestPolicy G agentId ⟨task, level, roles⟩)
      ⟨agentId, text, ⟨task, level, roles⟩, .generated rationale tier⟩

/-- **An operation registers what it hands in.** -/
theorem Operation.errand_eq_register_iff {op : Operation} {s : Submission} :
    op.errand = .register s ↔ op.Submits s := by
  constructor
  · intro h
    cases op with
    | put agentId text context =>
      cases h
      exact .put agentId text context
    | putGenerated agentId policy context =>
      cases h
      exact .putGenerated agentId policy.policy policy.rationale policy.riskTier context
    | requestPolicy G agentId context =>
      rcases (G.answer (G.request agentId context)).fails_or_delivers G.timeout with
        ⟨reason, hfails⟩ | ⟨policy, hdelivers⟩
      · rw [errand, Delivery.within_of_fails hfails] at h
        cases h
      · rw [errand, Delivery.within_of_delivers hdelivers] at h
        cases h
        exact .requestPolicy hdelivers
    | explain | evaluate | get | agentIds | size | isEmpty => cases h
  · intro h
    cases h with
    | put | putGenerated => rfl
    | @requestPolicy G agentId task _ _ level roles _ hdelivers =>
      have hwithin : (G.answer (G.request agentId ⟨task, level, roles⟩)).within G.timeout = _ :=
        Delivery.within_of_delivers hdelivers
      rw [errand, hwithin]

end Portcullis
