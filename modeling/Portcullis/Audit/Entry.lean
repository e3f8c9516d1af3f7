import Portcullis.Codec.Agent
import Portcullis.Codec.Policy
import Portcullis.Time.Instant
/-! Entries of the audit trail.

One entry is written for every policy that is stored, every request that is decided and
every generation that failed. Entries are never changed once they are written. -/
namespace Portcullis.Audit
open Json

/-- What happened. -/
inductive Occurrence where
  /-- A policy became an agent's active one. -/
  | policyRegistered (agentId : String) (ruleCount : UInt64) (provenance : Provenance)
  /-- A request was decided under an agent's policy. -/
  | evaluated (agentId : String) (request : Request) (decision : Decision)
      (determiningRule : Option String)
  /-- The generator gave no policy for an agent. -/
  | generationFailed (agentId : String) (reason : String)
  deriving DecidableEq, Repr

/-- The word for the kind of an occurrence. -/
def Occurrence.kind : Occurrence → String
  | .policyRegistered .. => "policy_registered"
  | .evaluated .. => "evaluated"
  | .generationFailed .. => "generation_failed"

structure Entry where
  occurrence : Occurrence
  /-- When the entry was made. -/
  time : Instant
  deriving DecidableEq, Repr

/-! ### JSON -/

def Occurrence.toJson (o : Occurrence) : Json :=
  match o with
  | .policyRegistered agentId ruleCount provenance =>
    ofFields [("kind", ofString o.kind), ("agent_id", ofString agentId),
      ("rule_count", ofWord ruleCount), ("provenance", provenance.toJson)]
  | .evaluated agentId request decision determiningRule =>
    ofFields [("kind", ofString o.kind), ("agent_id", ofString agentId),
      ("request", request.toJson), ("decision", decision.toJson),
      ("determining_rule", Policy.optionalText determiningRule)]
  | .generationFailed agentId reason =>
    ofFields [("kind", ofString o.kind), ("agent_id", ofString agentId),
      ("reason", ofString reason)]

/-- Read an occurrence at a depth: inside so many arrays and objects. The tag may come
anywhere, so the value is taken whole. -/
def Occurrence.ofJsonAt? (depth : Nat) (v : Json) : Option Occurrence := do
  guard (v.isData depth)
  let (kind, body) ← v.untag? "kind" text?
  if kind = "policy_registered" then
    let r ← body.record? ["agent_id", "rule_count", "provenance"]
    return .policyRegistered (← r.field? "agent_id" text?) (← r.field? "rule_count" word?)
      (← r.field? "provenance" Provenance.ofJsonWithin?)
  else if kind = "evaluated" then
    let r ← body.record? ["agent_id", "request", "decision", "determining_rule"]
    return .evaluated (← r.field? "agent_id" text?) (← r.field? "request" Request.ofJson?)
      (← r.field? "decision" (enumWithin? Decision.ofWord?))
      (← r.optional? "determining_rule" text?)
  else if kind = "generation_failed" then
    let r ← body.record? ["agent_id", "reason"]
    return .generationFailed (← r.field? "agent_id" text?) (← r.field? "reason" text?)
  else none

def Occurrence.ofJson? : Json → Option Occurrence := ofJsonAt? 0

def instantToJson (t : Instant) : Json := ofString t.text

def instantOfJson? (v : Json) : Option Instant := v.text?.bind Instant.parse?

def Entry.toJson (e : Entry) : Json :=
  ofFields [("kind", e.occurrence.toJson), ("timestamp", instantToJson e.time)]

/-- Read an entry at a depth. -/
def Entry.ofJsonAt? (depth : Nat) (v : Json) : Option Entry := do
  let r ← v.record? ["kind", "timestamp"]
  return ⟨← r.field? "kind" (Occurrence.ofJsonAt? (depth + 1)),
    ← r.field? "timestamp" instantOfJson?⟩

def Entry.ofJson? : Json → Option Entry := ofJsonAt? 0

end Portcullis.Audit
