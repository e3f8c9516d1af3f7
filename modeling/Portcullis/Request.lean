/-! Requests and decisions.

A request names an action, a principal and a resource, and the agent under whose
policy it is decided. The resource travels with the request but no rule consults
it. Without a rule that says otherwise the decision is to deny. -/
namespace Portcullis

/-- One question: may this principal perform this action on this resource? -/
structure Request where
  action : String
  principal : String
  resource : String
  agentId : String
  deriving DecidableEq, Repr, Inhabited

inductive Decision where
  | permit
  | deny
  deriving DecidableEq, Repr

instance : Inhabited Decision := ⟨.deny⟩

/-- The word a decision is written as. -/
def Decision.word : Decision → String
  | .permit => "Permit"
  | .deny => "Deny"

def Decision.isPermit (d : Decision) : Bool := d = .permit

/-- A decision as it is sent back to the caller. -/
structure DecisionResponse where
  decision : Decision
  deriving DecidableEq, Repr

end Portcullis
