import Portcullis.Agent
/-! What goes to the policy generator and what comes back.

The generator is not trusted: the policy it returns is read like any other text. The
rationale and the risk tier it adds are kept as provenance and decide nothing. -/
namespace Portcullis

/-- The words a generator may use in rules. -/
structure Vocabulary where
  /-- The first word of entity paths. -/
  entityRoot : String
  actions : List String
  resources : List String
  deriving DecidableEq, Repr

def Vocabulary.standard : Vocabulary :=
  ⟨"Warden", ["read", "trade", "transfer"], ["account/*", "portfolio/*"]⟩

structure GenerationRequest where
  agentId : String
  task : String
  authenticationLevel : AuthenticationLevel
  roles : List String
  vocabulary : Vocabulary
  deriving DecidableEq, Repr

inductive RiskTier where
  | low
  | medium
  | high
  | critical
  deriving DecidableEq, Repr

def RiskTier.word : RiskTier → String
  | .low => "LOW"
  | .medium => "MEDIUM"
  | .high => "HIGH"
  | .critical => "CRITICAL"

/-- The tiers, from the lowest up. -/
def RiskTier.all : List RiskTier := [.low, .medium, .high, .critical]

structure GeneratedPolicy where
  policy : String
  rationale : String
  riskTier : RiskTier
  deriving DecidableEq, Repr

/-- Where a stored policy came from. -/
inductive Provenance where
  | registered
  | generated (rationale : String) (riskTier : RiskTier)
  deriving DecidableEq, Repr

end Portcullis
