import Portcullis.Failure
import Portcullis.Text.Case
/-! Agents and the context their policies were made for.

The context is kept beside a policy and never consulted when a request is decided. -/
namespace Portcullis

/-- How strongly the agent's caller was authenticated. -/
inductive AuthenticationLevel where
  | anonymous
  | basic
  | oauth
  | mfa
  deriving DecidableEq, Repr

namespace AuthenticationLevel

def word : AuthenticationLevel → String
  | anonymous => "anonymous"
  | basic => "basic"
  | oauth => "oauth"
  | mfa => "mfa"

def ofWord? (s : String) : Option AuthenticationLevel :=
  if s = "anonymous" then some anonymous
  else if s = "basic" then some basic
  else if s = "oauth" then some oauth
  else if s = "mfa" then some mfa
  else none

/-- The level a text names, in letters of either case. -/
def parse (s : String) : Except Failure AuthenticationLevel :=
  match ofWord? (Text.lowered s) with
  | some level => .ok level
  | none => .error (.configuration ("unknown authentication level '" ++ Text.lowered s ++
      "' (expected anonymous, basic, oauth, or mfa)"))

theorem ofWord?_word (level : AuthenticationLevel) : ofWord? level.word = some level := by
  cases level <;> decide

end AuthenticationLevel

/-- What a policy was made for. -/
structure SourceContext where
  task : String
  authenticationLevel : AuthenticationLevel
  roles : List String
  deriving DecidableEq, Repr

end Portcullis
