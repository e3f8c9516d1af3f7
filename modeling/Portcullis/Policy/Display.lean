import Portcullis.Policy.Rule
import Portcullis.Text.Quoted
/-! How the parts of a rule are shown to an operator. -/
namespace Portcullis.Policy
open Text

def Effect.display : Effect → String
  | .permit => "Permit"
  | .forbid => "Forbid"

/-- A word with a text in parentheses. -/
def applied (word text : String) : String := word ++ "(" ++ text ++ ")"

def PrincipalConstraint.display : PrincipalConstraint → String
  | .unconstrained => "Unconstrained"
  | .category name => applied "CategoryMatch" (quoted name)
  | .exact identity => applied "ExactMatch" (quoted identity)

/-- The names of a set in order, between braces. -/
def NameSet.display (s : NameSet) : String :=
  "\x7b" ++ String.intercalate ", " (s.toList.map quoted) ++ "\x7d"

def ActionConstraint.display : ActionConstraint → String
  | .unconstrained => "Unconstrained"
  | .single name => applied "SingleAction" (quoted name)
  | .oneOf names => applied "ActionSet" names.display

end Portcullis.Policy
