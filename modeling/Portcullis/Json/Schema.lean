import Portcullis.Json.Canonical
import Portcullis.Json.Record
import Portcullis.Json.Writer
/-! Checking values against a JSON Schema.

Checking is a matter of its own, and whatever uses it is written for every compiler of schemas. A
compiler takes a schema or refuses it, and what it makes of a schema tells all that is wrong with
a value, in words of its own. The compiler at the end knows the keywords that name a type, bound a
text from below, list the words there are, require members and lead on to the schemas of members. -/
namespace Portcullis.Json

/-- The name of a value's type. -/
def typeName : Json → String
  | .null => "null"
  | .bool _ => "boolean"
  | .number _ => "number"
  | .string _ => "string"
  | .array _ => "array"
  | .object _ => "object"

/-- The member of an object that counts. -/
def memberOf? (name : String) : Json → Option Json
  | .object members => member? name members
  | _ => none

/-! ### Complaints -/

/-- The keyword that a value is not as, with what it asks. -/
inductive Fault where
  | type (name : String)
  | minLength (n : Nat)
  | enum (words : List String)
  | required (name : String)
  deriving DecidableEq, Repr

/-- A fault and the way to the value that has it: the names on the way, a slash before each. -/
structure Violation where
  fault : Fault
  place : String
  deriving DecidableEq, Repr

/-- A violation and what is said about it. -/
structure Complaint where
  violation : Violation
  text : String
  deriving DecidableEq, Repr

/-- A name as one step of a way. -/
def pointerStep (name : String) : String :=
  String.ofList ('/' :: name.toList.flatMap fun c =>
    if c = '~' then ['~', '0'] else if c = '/' then ['~', '1'] else [c])

/-- A violation of what stands under a name. -/
def Violation.under (name : String) (x : Violation) : Violation :=
  {x with place := pointerStep name ++ x.place}

def Complaint.under (name : String) (c : Complaint) : Complaint :=
  {c with violation := c.violation.under name}

/-- What a schema was made into. -/
structure Validator where
  complaints : Json → List Complaint

/-- What makes schemas into validators, or says why not. -/
structure Compiler where
  compile : Json → Except String Validator

/-! ### A compiler -/

/-- What is said about a value with a fault. -/
def Fault.text (v : Json) : Fault → String
  | type name => v.compact ++ " is not of type " ++ (ofString name).compact
  | minLength n =>
    v.compact ++ " is shorter than " ++ toString n ++
      (if n = 1 then " character" else " characters")
  | enum words => v.compact ++ " is not one of " ++ (array (words.map ofString)).compact
  | required name => (ofString name).compact ++ " is a required property"

/-- Names that are not the name of a member. -/
def missing (names : List String) : Json → List Fault
  | .object members =>
    (names.filter fun name => (member? name members).isNone).map .required
  | _ => []

/-- What a keyword finds wrong with a value, apart from what it finds wrong with members. -/
def faults (keyword : Literal) (argument v : Json) : List Fault :=
  match keyword, argument with
  | .text "type", .string (.text name) => if v.typeName = name then [] else [.type name]
  | .text "minLength", .number ⟨false, n, none, none⟩ =>
    match v.text? with
    | some s => if s.length < n then [.minLength n] else []
    | none => []
  | .text "enum", argument =>
    match list? text? argument with
    | some words => if v.text?.any words.contains then [] else [.enum words]
    | none => []
  | .text "required", argument =>
    match list? text? argument with
    | some names => missing names v
    | none => []
  | _, _ => []

mutual

/-- All that a schema finds wrong with a value, keyword by keyword. -/
def check : (schema v : Json) → List Complaint
  | .object keywords, v => checkKeywords keywords v
  | _, _ => []

def checkKeywords : List (Literal × Json) → Json → List Complaint
  | [], _ => []
  | (keyword, argument) :: rest, v =>
    (if keyword = .text "properties" then checkMembers argument v
      else (faults keyword argument v).map fun fault => ⟨⟨fault, ""⟩, fault.text v⟩) ++
      checkKeywords rest v

/-- What the schemas of members find wrong with the members that are there. -/
def checkMembers : (parts v : Json) → List Complaint
  | .object parts, v => checkParts parts v
  | _, _ => []

def checkParts : List (Literal × Json) → Json → List Complaint
  | [], _ => []
  | (.text name, part) :: rest, v =>
    (match v.memberOf? name with
      | some w => (check part w).map (Complaint.under name)
      | none => []) ++ checkParts rest v
  | (.unpaired, _) :: rest, v => checkParts rest v

end

/-- A compiler that takes every schema. A keyword that it does not know finds nothing wrong. -/
def Compiler.standard : Compiler := ⟨fun schema => .ok ⟨check schema⟩⟩

end Portcullis.Json
