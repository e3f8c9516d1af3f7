import Portcullis.Policy.Entity
/-! Clauses: the pieces between a statement's parentheses.

A clause starts with `principal`, `action` or `resource`. A bare word constrains
nothing; `==` and `in` constrain by an entity reference, and an action may be `in`
a bracketed list. A resource clause is read and never looked into. -/
namespace Portcullis.Policy
open Text

inductive Clause where
  | principal (c : PrincipalConstraint)
  | action (c : ActionConstraint)
  | resource
  deriving DecidableEq, Repr

def principalWord : List Char := ['p', 'r', 'i', 'n', 'c', 'i', 'p', 'a', 'l']
def actionWord : List Char := ['a', 'c', 't', 'i', 'o', 'n']
def resourceWord : List Char := ['r', 'e', 's', 'o', 'u', 'r', 'c', 'e']
def inWord : List Char := ['i', 'n']

/-- Whether a keyword may end before this text. -/
def endsWord : List Char → Bool
  | [] => true
  | c :: _ => isBlank c || c = '=' || c = '[' || c = '"'

/-- What follows a keyword that stands as a whole word, trimmed. -/
def keyword? (word text : List Char) : Option (List Char) :=
  (after? word (trimStart text)).bind fun rest =>
    if endsWord rest then some (trim rest) else none

/-- The constraint written after `principal`. -/
def principalConstraint? (text : List Char) : Option PrincipalConstraint :=
  match text with
  | [] => some .unconstrained
  | '=' :: '=' :: target => (entityId? target).map fun id => .exact (String.ofList id)
  | _ =>
    (keyword? inWord text).bind fun target =>
      (entityId? target).map fun id => .category (String.ofList id)

/-- The ids of a list whose opening bracket has been read. -/
def idList? (text : List Char) : Option NameSet :=
  (before? [']'] (trimEnd text)).bind fun inner =>
    ((pieces inner).mapM entityId?).map fun ids => NameSet.ofList (ids.map String.ofList)

/-- The constraint written after `action`. -/
def actionConstraint? (text : List Char) : Option ActionConstraint :=
  match text with
  | [] => some .unconstrained
  | '=' :: '=' :: target => (entityId? target).map fun id => .single (String.ofList id)
  | _ =>
    (keyword? inWord text).bind fun target =>
      match target with
      | '[' :: inner => (idList? inner).map .oneOf
      | _ => (entityId? target).map fun id => .single (String.ofList id)

/-- The clause a piece of a statement spells, if it spells one. -/
def clause? (text : List Char) : Option Clause :=
  match keyword? principalWord text with
  | some rest => (principalConstraint? rest).map .principal
  | none =>
    match keyword? actionWord text with
    | some rest => (actionConstraint? rest).map .action
    | none => (keyword? resourceWord text).map fun _ => .resource

end Portcullis.Policy
