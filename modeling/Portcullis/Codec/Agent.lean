import Portcullis.Generation
import Portcullis.Json.Canonical
import Portcullis.Json.Record
/-! Agents' contexts and generated policies as JSON. -/
namespace Portcullis
open Json

def AuthenticationLevel.toJson (level : AuthenticationLevel) : Json := ofString level.word

def AuthenticationLevel.ofJson? : Json → Option AuthenticationLevel := enum? ofWord?

def SourceContext.toJson (c : SourceContext) : Json :=
  ofFields [("task", ofString c.task), ("authenticationLevel", c.authenticationLevel.toJson),
    ("roles", .array (c.roles.map ofString))]

def SourceContext.ofJson? (v : Json) : Option SourceContext := do
  let r ← v.record? ["task", "authenticationLevel", "roles"]
  return { task := ← r.field? "task" text?
           authenticationLevel := ← r.field? "authenticationLevel" AuthenticationLevel.ofJson?
           roles := ← r.field? "roles" (list? text?) }

def Vocabulary.toJson (v : Vocabulary) : Json :=
  ofFields [("namespace", ofString v.entityRoot), ("actions", .array (v.actions.map ofString)),
    ("resources", .array (v.resources.map ofString))]

/-- A field that is left out has its standard value. -/
def Vocabulary.ofJson? (v : Json) : Option Vocabulary := do
  let r ← v.record? ["namespace", "actions", "resources"]
  return { entityRoot := ← r.fieldOr? "namespace" standard.entityRoot text?
           actions := ← r.fieldOr? "actions" standard.actions (list? text?)
           resources := ← r.fieldOr? "resources" standard.resources (list? text?) }

def GenerationRequest.toJson (q : GenerationRequest) : Json :=
  ofFields [("agentId", ofString q.agentId), ("task", ofString q.task),
    ("authenticationLevel", q.authenticationLevel.toJson), ("roles", .array (q.roles.map ofString)),
    ("vocabulary", q.vocabulary.toJson)]

def GenerationRequest.ofJson? (v : Json) : Option GenerationRequest := do
  let r ← v.record? ["agentId", "task", "authenticationLevel", "roles", "vocabulary"]
  return { agentId := ← r.field? "agentId" text?
           task := ← r.field? "task" text?
           authenticationLevel := ← r.field? "authenticationLevel" AuthenticationLevel.ofJson?
           roles := ← r.field? "roles" (list? text?)
           vocabulary := ← r.field? "vocabulary" Vocabulary.ofJson? }

def RiskTier.ofWord? (s : String) : Option RiskTier := all.find? fun tier => tier.word = s

def RiskTier.toJson (tier : RiskTier) : Json := ofString tier.word

def RiskTier.ofJson? : Json → Option RiskTier := enum? ofWord?

def GeneratedPolicy.toJson (g : GeneratedPolicy) : Json :=
  ofFields [("policy", ofString g.policy), ("rationale", ofString g.rationale),
    ("riskTier", g.riskTier.toJson)]

def GeneratedPolicy.ofJson? (v : Json) : Option GeneratedPolicy := do
  let r ← v.record? ["policy", "rationale", "riskTier"]
  return { policy := ← r.field? "policy" text?
           rationale := ← r.field? "rationale" text?
           riskTier := ← r.field? "riskTier" RiskTier.ofJson? }

def Provenance.toJson : Provenance → Json
  | .registered => ofFields [("source", ofString "registered")]
  | .generated rationale riskTier =>
    ofFields [("source", ofString "generated"), ("rationale", ofString rationale),
      ("risk_tier", riskTier.toJson)]

/-- The provenance of a variant with the fields it has beside its tag. -/
def Provenance.ofVariant? (variant : String) (body : Json) : Option Provenance := do
  if variant = "registered" then (fieldless? body).map fun _ => .registered
  else if variant = "generated" then
    let r ← body.record? ["rationale", "risk_tier"]
    return .generated (← r.field? "rationale" text?)
      (← r.field? "risk_tier" (enumWithin? RiskTier.ofWord?))
  else none

/-- Read provenance inside a value that is taken whole. -/
def Provenance.ofJsonWithin? (v : Json) : Option Provenance := do
  let (variant, body) ← v.untag? "source" (tagWithin? ["registered", "generated"])
  ofVariant? variant body

/-- Read provenance at a depth: inside so many arrays and objects. The tag may come
anywhere, so the value is taken whole. -/
def Provenance.ofJsonAt? (depth : Nat) (v : Json) : Option Provenance := do
  guard (v.isData depth)
  let (variant, body) ← v.untag? "source" text?
  ofVariant? variant body

def Provenance.ofJson? : Json → Option Provenance := ofJsonAt? 0

end Portcullis
