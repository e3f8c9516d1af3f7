import Portcullis.Json.Record
import Portcullis.Policy.Document
import Portcullis.Policy.Evaluation
/-! Requests, rules and reports as JSON.

Fields are written in the order in which the types declare them. -/
namespace Portcullis
open Json

/-! ### Requests and decisions -/

def Request.toJson (q : Request) : Json :=
  ofFields [("action", ofString q.action), ("principal", ofString q.principal),
    ("resource", ofString q.resource), ("agentId", ofString q.agentId)]

def Request.ofJson? (v : Json) : Option Request := do
  let r ← v.record? ["action", "principal", "resource", "agentId"]
  return { action := ← r.field? "action" text?
           principal := ← r.field? "principal" text?
           resource := ← r.field? "resource" text?
           agentId := ← r.field? "agentId" text? }

def Decision.toJson (d : Decision) : Json := ofString d.word

def Decision.ofWord? (s : String) : Option Decision :=
  if s = "Permit" then some .permit else if s = "Deny" then some .deny else none

def Decision.ofJson? : Json → Option Decision := enum? Decision.ofWord?

def DecisionResponse.toJson (r : DecisionResponse) : Json :=
  ofFields [("decision", r.decision.toJson)]

def DecisionResponse.ofJson? (v : Json) : Option DecisionResponse := do
  let r ← v.record? ["decision"]
  return ⟨← r.field? "decision" Decision.ofJson?⟩

namespace Policy

/-! ### Rules -/

def Effect.name : Effect → String
  | .permit => "permit"
  | .forbid => "forbid"

def Effect.toJson (e : Effect) : Json := ofString e.name

def Effect.ofName? (s : String) : Option Effect :=
  if s = "permit" then some .permit else if s = "forbid" then some .forbid else none

def Effect.ofJson? : Json → Option Effect := enum? Effect.ofName?

def PrincipalConstraint.toJson : PrincipalConstraint → Json
  | .unconstrained => ofFields [("type", ofString "unconstrained")]
  | .category name => ofFields [("type", ofString "category_match"), ("value", ofString name)]
  | .exact identity => ofFields [("type", ofString "exact_match"), ("value", ofString identity)]

def PrincipalConstraint.ofJson? (v : Json) : Option PrincipalConstraint := do
  let (variant, content) ← v.tagAndContent? "type" "value"
  if variant = "unconstrained" then (noContent? content).map fun _ => .unconstrained
  else if variant = "category_match" then (content.bind text?).map .category
  else if variant = "exact_match" then (content.bind text?).map .exact
  else none

def NameSet.toJson (s : NameSet) : Json := .array (s.toList.map ofString)

def NameSet.ofJson? (v : Json) : Option NameSet := (v.list? text?).map NameSet.ofList

def ActionConstraint.toJson : ActionConstraint → Json
  | .unconstrained => ofFields [("type", ofString "unconstrained")]
  | .single name => ofFields [("type", ofString "single_action"), ("value", ofString name)]
  | .oneOf names => ofFields [("type", ofString "action_set"), ("value", names.toJson)]

def ActionConstraint.ofJson? (v : Json) : Option ActionConstraint := do
  let (variant, content) ← v.tagAndContent? "type" "value"
  if variant = "unconstrained" then (noContent? content).map fun _ => .unconstrained
  else if variant = "single_action" then (content.bind text?).map .single
  else if variant = "action_set" then (content.bind NameSet.ofJson?).map .oneOf
  else none

def Rule.toJson (r : Rule) : Json :=
  ofFields [("id", ofString r.id), ("effect", r.effect.toJson), ("principal", r.principal.toJson),
    ("action", r.action.toJson), ("line", ofWord r.line)]

def Rule.ofJson? (v : Json) : Option Rule := do
  let r ← v.record? ["id", "effect", "principal", "action", "line"]
  return { id := ← r.field? "id" text?
           effect := ← r.field? "effect" Effect.ofJson?
           principal := ← r.field? "principal" PrincipalConstraint.ofJson?
           action := ← r.field? "action" ActionConstraint.ofJson?
           line := ← r.field? "line" word? }

def RuleSet.toJson (s : RuleSet) : Json := ofFields [("rules", .array (s.rules.map Rule.toJson))]

def RuleSet.ofJson? (v : Json) : Option RuleSet := do
  let r ← v.record? ["rules"]
  return ⟨← r.field? "rules" (list? Rule.ofJson?)⟩

/-! ### Reports -/

def DiscardReason.toJson : DiscardReason → Json
  | .unterminated => ofFields [("reason", ofString "unterminated")]
  | .unbalanced => ofFields [("reason", ofString "unbalanced")]
  | .noConstraints => ofFields [("reason", ofString "no_constraints")]
  | .malformedClause clause =>
    ofFields [("reason", ofString "malformed_clause"), ("detail", ofString clause)]
  | .unsupportedConditions text =>
    ofFields [("reason", ofString "unsupported_conditions"), ("detail", ofString text)]

def DiscardReason.ofJson? (v : Json) : Option DiscardReason := do
  let (variant, content) ← v.tagAndContent? "reason" "detail"
  if variant = "unterminated" then (noContent? content).map fun _ => .unterminated
  else if variant = "unbalanced" then (noContent? content).map fun _ => .unbalanced
  else if variant = "no_constraints" then (noContent? content).map fun _ => .noConstraints
  else if variant = "malformed_clause" then (content.bind text?).map .malformedClause
  else if variant = "unsupported_conditions" then (content.bind text?).map .unsupportedConditions
  else none

def Discarded.toJson (d : Discarded) : Json :=
  ofFields [("line", ofWord d.line), ("reason", d.reason.toJson)]

def Discarded.ofJson? (v : Json) : Option Discarded := do
  let r ← v.record? ["line", "reason"]
  return ⟨← r.field? "line" word?, ← r.field? "reason" DiscardReason.ofJson?⟩

def Report.toJson (r : Report) : Json :=
  ofFields [("rules", .array (r.rules.map Rule.toJson)),
    ("discarded", .array (r.discarded.map Discarded.toJson))]

def Report.ofJson? (v : Json) : Option Report := do
  let r ← v.record? ["rules", "discarded"]
  return ⟨← r.field? "rules" (list? Rule.ofJson?), ← r.field? "discarded" (list? Discarded.ofJson?)⟩

/-! ### Evaluations -/

/-- A text, or null where there is none. -/
def optionalText (s : Option String) : Json :=
  match s with
  | some s => ofString s
  | none => .null

def Evaluation.toJson (e : Evaluation) : Json :=
  ofFields [("decision", e.decision.toJson), ("determining_rule", optionalText e.determiningRule),
    ("matched", .array (e.matched.map ofString))]

def Evaluation.ofJson? (v : Json) : Option Evaluation := do
  let r ← v.record? ["decision", "determining_rule", "matched"]
  return { decision := ← r.field? "decision" Decision.ofJson?
           determiningRule := ← r.optional? "determining_rule" text?
           matched := ← r.field? "matched" (list? text?) }

end Policy

end Portcullis
