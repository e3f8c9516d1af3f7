import Portcullis.Audit.Sink
import Portcullis.Lock
import Portcullis.Notice
import Portcullis.Registry
/-! The gatehouse: a registry behind an audit sink.

Nothing happens here without being audited. A policy that cannot be audited does not
become active, and a request whose evaluation cannot be audited is denied. Every step
says how it ended, what it left and what there was to notice, and is written for any
sink.

The registry is behind a lock, which a registration holds while it is audited. A sink that
breaks off then leaves the lock poisoned. The registry changes in one go or not at all, so
it is whole even so, and whoever comes next goes on with it. -/
namespace Portcullis

/-- The times that a step reads off the clock: the one that a record is made at, and the one
that an entry bears. -/
structure Moments where
  made : Instant
  entered : Instant
  deriving DecidableEq, Repr

/-- A clock that stands still. -/
def Moments.once (now : Instant) : Moments := ⟨now, now⟩

def Moments.epoch : Moments := .once .epoch

/-- How a step ended. -/
inductive Outcome (α : Type) where
  | done (result : α)
  | failed (failure : Failure)
  /-- The sink broke off, and nobody got an answer. -/
  | broke
  deriving DecidableEq, Repr

/-- A registry under lock and the state of the sink before it. -/
structure Gatehouse (σ : Type) where
  policies : Lock Registry
  sink : σ
  deriving DecidableEq, Repr

/-- The registry, even if its lock is poisoned. -/
def Gatehouse.registry {σ : Type} (g : Gatehouse σ) : Registry := g.policies.read

/-- What a step came to. -/
structure Step (σ α : Type) where
  outcome : Outcome α
  after : Gatehouse σ
  notices : List Notice
  deriving DecidableEq, Repr

/-- A policy handed in for an agent. -/
structure Submission where
  agentId : String
  text : String
  context : SourceContext
  provenance : Provenance
  deriving DecidableEq, Repr

/-- The record a submission becomes. -/
def Submission.toRecord (s : Submission) (now : Instant) : PolicyRecord where
  agentId := s.agentId
  rules := Policy.rules s.text
  rawText := s.text
  createdAt := now
  sourceContext := s.context
  provenance := s.provenance

/-- What reading a submission gave to notice. -/
def Submission.notices (s : Submission) : List Notice :=
  let report := Policy.report s.text
  Notice.ofDocument s.text ++
    if report.rules.isEmpty then [.noUsableRules s.agentId report.discarded.length] else []

/-- A policy that a generator made, handed in for the agent it was made for. -/
def GeneratedPolicy.submission (p : GeneratedPolicy) (agentId : String) (context : SourceContext) :
    Submission :=
  ⟨agentId, p.policy, context, .generated p.rationale p.riskTier⟩

namespace Gatehouse
variable {σ : Type}

/-- No policies yet. -/
def opening (sink : σ) : Gatehouse σ := ⟨.new .empty, sink⟩

/-- Make a submission its agent's active policy. A text that opens no statement is not
a policy; every other text is, whatever its rules. The lock is held from before the sink gets
the entry until the record is in place. -/
def register (S : Audit.Sink σ) (g : Gatehouse σ) (now : Moments) (s : Submission) :
    Step σ PolicyRecord :=
  if Policy.opensStatement s.text then
    let record := s.toRecord now.made
    let count := record.rules.length
    let entry := ⟨.policyRegistered s.agentId (UInt64.ofNat count) s.provenance, now.entered⟩
    match S.record g.sink entry with
    | (.kept, sink) =>
      let replaced := (g.registry.get? s.agentId).isSome
      let discarded := (Policy.report s.text).discarded.length
      ⟨.done record, ⟨g.policies.write (g.registry.insert record), sink⟩,
        s.notices ++ S.remarks g.sink entry ++
          [.policyRegistered s.agentId count discarded replaced]⟩
    | (.refused failure, sink) => ⟨.failed failure, {g with sink}, s.notices⟩
    | (.broke, sink) => ⟨.broke, ⟨g.policies.poison, sink⟩, s.notices⟩
  else
    let reason := "policy for agent '" ++ s.agentId ++ "' contains no permit( or forbid( statement"
    ⟨.failed (.invalidPolicy reason), g, [.policyRejected s.agentId]⟩

/-- What there is to notice when a request is decided under an agent's policy. -/
def decisionNotices (g : Gatehouse σ) (agentId : String) (q : Request) : List Notice :=
  (match g.registry.get? agentId with
    | some r => Notice.ofDecision r.rules q
    | none => [.agentUnknown agentId q]) ++
  [.requestEvaluated agentId (g.registry.explain agentId q)]

/-- Decide a request under an agent's policy and say why. The lock is let go before the sink gets
the entry. -/
def explain (S : Audit.Sink σ) (g : Gatehouse σ) (now : Moments) (agentId : String) (q : Request) :
    Step σ Policy.Evaluation :=
  let evaluation := g.registry.explain agentId q
  let notices := g.decisionNotices agentId q
  let entry := ⟨.evaluated agentId q evaluation.decision evaluation.determiningRule, now.entered⟩
  match S.record g.sink entry with
  | (.kept, sink) => ⟨.done evaluation, {g with sink}, notices ++ S.remarks g.sink entry⟩
  | (.refused failure, sink) =>
    ⟨.done .denial, {g with sink}, notices ++ [.evaluationUnaudited agentId failure]⟩
  | (.broke, sink) => ⟨.broke, {g with sink}, notices⟩

end Gatehouse

end Portcullis
