import Portcullis.Json.Number
/-! JSON values as data.

Where a value is taken whole, whatever it holds, it has to stay within limits: strings
denote texts, numbers have values, and arrays and objects nest 127 deep at most. Its
canonical form shows what then counts: members in the order of their keys, the last of
repeated members only, and numbers as their values. -/
namespace Portcullis.Json

/-- How deep arrays and objects may nest. -/
def maxDepth : Nat := 127

def Literal.isText : Literal → Bool
  | .text _ => true
  | .unpaired => false

mutual

/-- Whether a value stays within limits, with room for so many levels. -/
def fits (room : Nat) : Json → Bool
  | .number n => n.hasValue
  | .string s => s.isText
  | .array items => 0 < room && fitsItems (room - 1) items
  | .object members => 0 < room && fitsMembers (room - 1) members
  | .null | .bool _ => true

def fitsItems (room : Nat) : List Json → Bool
  | [] => true
  | item :: rest => fits room item && fitsItems room rest

def fitsMembers (room : Nat) : List (Literal × Json) → Bool
  | [] => true
  | (key, value) :: rest => key.isText && fits room value && fitsMembers room rest

end

/-- Whether a value at a depth, inside so many arrays and objects, stays within limits. -/
def isData (depth : Nat) (v : Json) : Bool := v.fits (maxDepth - depth)

/-- Put a member at the place of its key; it replaces a member with that key. -/
def insertMember (key : String) (value : Json) : List (String × Json) → List (String × Json)
  | [] => [(key, value)]
  | (k, v) :: rest =>
    if key < k then (key, value) :: (k, v) :: rest
    else if key = k then (key, value) :: rest
    else (k, v) :: insertMember key value rest

mutual

/-- The canonical form of a value that is data. -/
def canonical : Json → Json
  | .number n => .number n.settled
  | .array items => .array (canonicalItems items)
  | .object members => ofFields (canonicalMembers [] members)
  | v => v

def canonicalItems : List Json → List Json
  | [] => []
  | item :: rest => canonical item :: canonicalItems rest

/-- Add members to those already in place, later ones over earlier ones. -/
def canonicalMembers (done : List (String × Json)) : List (Literal × Json) → List (String × Json)
  | [] => done
  | (.text key, value) :: rest => canonicalMembers (insertMember key (canonical value) done) rest
  | (.unpaired, _) :: rest => canonicalMembers done rest

end

/-- The last member with a key. -/
def member? (key : String) (members : List (Literal × Json)) : Option Json :=
  match members with
  | [] => none
  | (k, value) :: rest =>
    match member? key rest with
    | some later => some later
    | none => if k = .text key then some value else none

end Portcullis.Json
