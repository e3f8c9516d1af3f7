import Portcullis.Policy.NameSet
import Portcullis.Request
import Portcullis.Text.Affix
/-! Rules: the structured form of one permit or forbid statement.

A rule constrains the principal and the action of a request, and applies to the
requests that meet both constraints. -/
namespace Portcullis.Policy

/-- Whether a rule that applies opens or shuts. -/
inductive Effect where
  | permit
  | forbid
  deriving DecidableEq, Repr

/-- What a rule asks of the principal. -/
inductive PrincipalConstraint where
  | unconstrained
  /-- The principal belongs to the category. -/
  | category (name : String)
  /-- The principal is this very one. -/
  | exact (identity : String)
  deriving DecidableEq, Repr

/-- What a rule asks of the action. -/
inductive ActionConstraint where
  | unconstrained
  | single (name : String)
  | oneOf (names : NameSet)
  deriving DecidableEq, Repr

/-- The characters that may part a category from what distinguishes its members, as
in `authenticated-agent42`. -/
def categorySeparators : List Char := ['-', ':', '/']

/-- A category holds its own name and every name that goes on after it with a
separator. -/
def belongs (category principal : String) : Bool :=
  match Text.after? category.toList principal.toList with
  | some [] => true
  | some (c :: _) => categorySeparators.contains c
  | none => false

def PrincipalConstraint.admits (c : PrincipalConstraint) (principal : String) : Bool :=
  match c with
  | .unconstrained => true
  | .category name => belongs name principal
  | .exact identity => principal = identity

def ActionConstraint.admits (c : ActionConstraint) (action : String) : Bool :=
  match c with
  | .unconstrained => true
  | .single name => name = action
  | .oneOf names => names.contains action

structure Rule where
  /-- The name of the rule in explanations and in the audit trail. -/
  id : String
  effect : Effect
  principal : PrincipalConstraint
  action : ActionConstraint
  /-- The line on which the statement opened, counted from one. -/
  line : UInt64
  deriving DecidableEq, Repr

/-- A rule applies when both constraints admit the request. -/
def Rule.applies (r : Rule) (q : Request) : Bool :=
  r.principal.admits q.principal && r.action.admits q.action

end Portcullis.Policy
