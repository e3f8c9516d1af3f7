import Portcullis.Audit.Chain
import Portcullis.Failure
import Portcullis.Generation
import Portcullis.Policy.Display
import Portcullis.Policy.Document
import Portcullis.Policy.Evaluation
/-! Notices: what an operator may be told while policies are read, stored and consulted.

A notice is a fact with a severity, the name of the part that noticed it, a message and
named values. Whatever happens produces its notices as data; what is shown of them is
for a filter to say. -/
namespace Portcullis

/-- How much a notice matters, the most severe first. -/
inductive Severity where
  | error
  | warn
  | info
  | debug
  | trace
  deriving DecidableEq, Repr

namespace Severity

/-- The more a severity matters, the lower it ranks. -/
def rank : Severity → Nat
  | error => 1
  | warn => 2
  | info => 3
  | debug => 4
  | trace => 5

def word : Severity → String
  | error => "ERROR"
  | warn => "WARN"
  | info => "INFO"
  | debug => "DEBUG"
  | trace => "TRACE"

/-- The severities, the most severe first. -/
def all : List Severity := [error, warn, info, debug, trace]

end Severity

inductive Notice where
  | statementOpened (effect : Policy.Effect) (line : UInt64)
  | strayText (line : UInt64)
  | ruleRead (rule : Policy.Rule)
  | statementDiscarded (block : Policy.Discarded)
  | ruleHeard (rule : Policy.Rule) (request : Request)
  | noRuleHeard (request : Request)
  | policyRejected (agentId : String)
  | noUsableRules (agentId : String) (discarded : Nat)
  | policyRegistered (agentId : String) (ruleCount discarded : Nat) (replaced : Bool)
  | agentUnknown (agentId : String) (request : Request)
  | requestEvaluated (agentId : String) (evaluation : Policy.Evaluation)
  | evaluationUnaudited (agentId : String) (failure : Failure)
  | policyGenerated (agentId : String) (riskTier : RiskTier)
  | generationFailed (agentId reason : String)
  | generationUnaudited (agentId : String) (failure : Failure)
  /-- A policy is about to be asked for. -/
  | generationStarted (agentId endpoint : String)
  /-- The request is on its way to the generator. -/
  | generationRequested (agentId endpoint : String)
  | entryAppended (event : Audit.Event)
  deriving DecidableEq, Repr

namespace Notice

def severity : Notice → Severity
  | evaluationUnaudited .. | generationUnaudited .. => .error
  | statementDiscarded .. | policyRejected .. | noUsableRules .. | agentUnknown ..
  | generationFailed .. => .warn
  | policyRegistered .. | policyGenerated .. | generationStarted .. => .info
  | ruleRead .. | ruleHeard .. | noRuleHeard .. | requestEvaluated .. | generationRequested ..
  | entryAppended .. => .debug
  | statementOpened .. | strayText .. => .trace

/-- The part that noticed. -/
def origin : Notice → String
  | statementOpened .. | strayText .. | ruleRead .. | statementDiscarded .. =>
    "warden_policy::parser"
  | ruleHeard .. | noRuleHeard .. => "warden_policy::engine"
  | policyRejected .. | noUsableRules .. | policyRegistered .. | agentUnknown ..
  | requestEvaluated .. | evaluationUnaudited .. => "warden_core::store"
  | policyGenerated .. | generationFailed .. | generationUnaudited .. =>
    "warden_core::generation"
  | generationStarted .. => "warden"
  | generationRequested .. => "warden_generator::client"
  | entryAppended .. => "warden_audit::memory"

def message : Notice → String
  | statementOpened .. => "statement opened"
  | strayText .. => "ignoring text outside a statement"
  | ruleRead .. => "rule parsed"
  | statementDiscarded .. => "discarding policy statement"
  | ruleHeard .. => "rule matched"
  | noRuleHeard .. => "no rule matched; denying by default"
  | policyRejected .. => "rejecting policy without permit/forbid statements"
  | noUsableRules .. => "policy has no usable rules; agent will be denied every request"
  | policyRegistered .. => "policy registered"
  | agentUnknown .. => "no policy registered for agent; denying"
  | requestEvaluated .. => "request evaluated"
  | evaluationUnaudited .. => "evaluation could not be audited; denying"
  | policyGenerated .. => "policy generated"
  | generationFailed .. => "policy generation failed"
  | generationUnaudited .. => "generation failure could not be audited"
  | generationStarted .. => "requesting generated policy"
  | generationRequested .. => "requesting policy"
  | entryAppended .. => "audit entry appended"

/-- The name of a rule, where there may be none. -/
def ruleName (name : Option String) : String :=
  match name with
  | some name => Policy.applied "Some" (Text.quoted name)
  | none => "None"

/-- The values a notice names, in order. -/
def fields : Notice → List (String × String)
  | statementOpened effect line =>
    [("line", toString line.toNat), ("effect", effect.display)]
  | strayText line => [("line", toString line.toNat)]
  | ruleRead r =>
    [("rule_id", r.id), ("line", toString r.line.toNat), ("effect", r.effect.display),
      ("principal", r.principal.display), ("action", r.action.display)]
  | statementDiscarded block =>
    [("line", toString block.line.toNat), ("reason", block.reason.message)]
  | ruleHeard r q =>
    [("rule_id", r.id), ("effect", r.effect.display), ("principal", q.principal),
      ("action", q.action)]
  | noRuleHeard q => [("agent_id", q.agentId), ("principal", q.principal), ("action", q.action)]
  | policyRejected agentId => [("agent_id", agentId)]
  | noUsableRules agentId discarded => [("agent_id", agentId), ("discarded", toString discarded)]
  | policyRegistered agentId ruleCount discarded replaced =>
    [("agent_id", agentId), ("rule_count", toString ruleCount), ("discarded", toString discarded),
      ("replaced", toString replaced)]
  | agentUnknown agentId q =>
    [("agent_id", agentId), ("principal", q.principal), ("action", q.action)]
  | requestEvaluated agentId e =>
    [("agent_id", agentId), ("decision", e.decision.word),
      ("determining_rule", ruleName e.determiningRule)]
  | evaluationUnaudited agentId failure | generationUnaudited agentId failure =>
    [("agent_id", agentId), ("error", failure.message)]
  | policyGenerated agentId riskTier => [("agent_id", agentId), ("risk_tier", riskTier.word)]
  | generationFailed agentId reason => [("agent_id", agentId), ("reason", reason)]
  | generationStarted agentId endpoint | generationRequested agentId endpoint =>
    [("agent_id", agentId), ("endpoint", endpoint)]
  | entryAppended e =>
    [("trail_id", e.trailId), ("sequence", toString e.sequence.toNat), ("hash", e.thisHash)]

/-- The names of the values, the message among them. -/
def names (n : Notice) : List String := "message" :: n.fields.map Prod.fst

/-- The message with the values behind it. -/
def text (n : Notice) : String :=
  n.fields.foldl (fun sofar field => sofar ++ " " ++ field.1 ++ "=" ++ field.2) n.message

/-! ### Notices of reading and deciding -/

def ofFinding : Policy.Finding → Notice
  | .opened effect line => statementOpened effect line
  | .rule r => ruleRead r
  | .discarded block => statementDiscarded block
  | .stray line => strayText line

/-- What there is to notice about a document. -/
def ofDocument (document : String) : List Notice := (Policy.findings document).map ofFinding

/-- What there is to notice about a request that is decided against rules. -/
def ofDecision (rules : List Policy.Rule) (q : Request) : List Notice :=
  match Policy.heard rules q with
  | [] => [noRuleHeard q]
  | heard => heard.map fun r => ruleHeard r q

end Notice

end Portcullis
