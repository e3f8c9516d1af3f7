import Portcullis.Gatehouse
import Portcullis.Time.Span
/-! Policies on request: a generator in front of the gatehouse.

The generator is asked once and has so long to answer. A generator that fails or is late
leaves the registry as it is, and the failure is audited; what it sends is handed in
like any other policy. -/
namespace Portcullis

/-- How a generator answers. -/
structure Delivery where
  /-- How long it takes. -/
  delay : Span
  reply : Except Failure GeneratedPolicy

/-- The policy that arrived in time, or why there is none. -/
def Delivery.within (d : Delivery) (timeout : Span) : Except String GeneratedPolicy :=
  if timeout < d.delay then .error ("generator did not respond within " ++ timeout.text)
  else
    match d.reply with
    | .ok policy => .ok policy
    | .error (.generationFailed reason) => .error reason
    | .error other => .error other.message

/-- A generator as it is used here: what it may be asked in, and how long it has. -/
structure Generator where
  answer : GenerationRequest → Delivery
  vocabulary : Vocabulary := .standard
  timeout : Span := .ofSeconds 30

namespace Generator
variable {σ : Type}

/-- What the generator is asked. -/
def request (G : Generator) (agentId : String) (context : SourceContext) : GenerationRequest :=
  ⟨agentId, context.task, context.authenticationLevel, context.roles, G.vocabulary⟩

/-- Audit that there is no policy. A sink that refuses the entry changes nothing about
that. -/
def fail (S : Audit.Sink σ) (g : Gatehouse σ) (now : Moments) (agentId reason : String) :
    Step σ PolicyRecord :=
  let notices : List Notice := [.generationFailed agentId reason]
  let entry := ⟨.generationFailed agentId reason, now.entered⟩
  match S.record g.sink entry with
  | (.kept, sink) =>
    ⟨.failed (.generationFailed reason), {g with sink}, notices ++ S.remarks g.sink entry⟩
  | (.refused failure, sink) =>
    ⟨.failed (.generationFailed reason), {g with sink},
      notices ++ [.generationUnaudited agentId failure]⟩
  | (.broke, sink) => ⟨.broke, {g with sink}, notices⟩

/-- Ask for a policy and make it the agent's active one. -/
def provide (G : Generator) (S : Audit.Sink σ) (g : Gatehouse σ) (now : Moments)
    (agentId : String) (context : SourceContext) : Step σ PolicyRecord :=
  match (G.answer (G.request agentId context)).within G.timeout with
  | .error reason => fail S g now agentId reason
  | .ok policy =>
    let step := g.register S now (policy.submission agentId context)
    {step with notices := .policyGenerated agentId policy.riskTier :: step.notices}

end Generator

end Portcullis
