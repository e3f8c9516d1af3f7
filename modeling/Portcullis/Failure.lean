/-! What can go wrong.

Reading policy text and deciding requests never fail. Storing, generating and
configuring can, and every failure says why. -/
namespace Portcullis

inductive Failure where
  /-- The text opens no statement at all. -/
  | invalidPolicy (reason : String)
  /-- The generator was not reached, was late, or sent something else than a policy. -/
  | generationFailed (reason : String)
  /-- A configuration value is missing or wrong. -/
  | configuration (reason : String)
  /-- The audit sink did not take an entry. -/
  | auditWriteFailed (reason : String)
  deriving DecidableEq, Repr

def Failure.message : Failure → String
  | .invalidPolicy reason => "invalid policy: " ++ reason
  | .generationFailed reason => "policy generation failed: " ++ reason
  | .configuration reason => "configuration error: " ++ reason
  | .auditWriteFailed reason => "audit write failed: " ++ reason

end Portcullis
