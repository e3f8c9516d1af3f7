import Portcullis.Audit.Entry
import Portcullis.Registry
/-! Records of active policies as JSON. -/
namespace Portcullis.PolicyRecord
open Json Audit

def toJson (r : PolicyRecord) : Json :=
  ofFields [("agentId", ofString r.agentId), ("rules", .array (r.rules.map Policy.Rule.toJson)),
    ("rawText", ofString r.rawText), ("createdAt", instantToJson r.createdAt),
    ("sourceContext", r.sourceContext.toJson), ("provenance", r.provenance.toJson)]

def ofJson? (v : Json) : Option PolicyRecord := do
  let r ← v.record? ["agentId", "rules", "rawText", "createdAt", "sourceContext", "provenance"]
  return { agentId := ← r.field? "agentId" text?
           rules := ← r.field? "rules" (list? Policy.Rule.ofJson?)
           rawText := ← r.field? "rawText" text?
           createdAt := ← r.field? "createdAt" instantOfJson?
           sourceContext := ← r.field? "sourceContext" SourceContext.ofJson?
           provenance := ← r.field? "provenance" (Provenance.ofJsonAt? 1) }

end Portcullis.PolicyRecord
