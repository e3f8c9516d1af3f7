import Portcullis.Json.Value
/-! Reading records, enumerations and tagged values out of JSON values.

A record is an object with a member for every field, or an array of its fields in
order. Members a record does not know are skipped, whatever they hold; a member it
knows may not come twice. Values of a tagged type carry the name of their variant
beside their fields or beside their content. -/
namespace Portcullis.Json

def Literal.text? : Literal → Option String
  | .text s => some s
  | .unpaired => none

/-- The text that a value is. -/
def text? : Json → Option String
  | .string s => s.text?
  | _ => none

/-- The word of 64 bits that a value is. -/
def word? : Json → Option UInt64
  | .number n => n.toWord?
  | _ => none

/-- The items of an array, each read the same way. -/
def list? (read : Json → Option α) : Json → Option (List α)
  | .array items => items.mapM read
  | _ => none

/-- Null, or a value read as usual. -/
def nullable? (read : Json → Option α) : Json → Option (Option α)
  | .null => some none
  | v => (read v).map some

/-- The name of a variant without content: a text, or an object that holds nothing but
null under that name. -/
def name? : Json → Option String
  | .string s => s.text?
  | .object [(key, .null)] => key.text?
  | _ => none

/-- The value of an enumeration that is written by name. -/
def enum? (named : String → Option α) (v : Json) : Option α := v.name?.bind named

/-- The name of a variant without content, inside a value that is taken whole: there an
empty object under the name does as well as null. -/
def nameWithin? : Json → Option String
  | .object [(key, .object [])] => key.text?
  | v => v.name?

/-- The value of an enumeration inside a value that is taken whole. -/
def enumWithin? (named : String → Option α) (v : Json) : Option α := v.nameWithin?.bind named

/-! ### Records -/

/-- The fields a record was given. -/
structure Record where
  /-- The record was written as an array. -/
  positional : Bool
  fields : List (String × Json)
  deriving Repr

/-- Members whose keys are all texts. -/
def textMembers? (members : List (Literal × Json)) : Option (List (String × Json)) :=
  members.mapM fun (key, value) => key.text?.map (·, value)

/-- How often a name is given. -/
def occurrences (name : String) (fields : List (String × Json)) : Nat :=
  fields.countP fun field => field.1 = name

/-- Read a record that knows the given fields. -/
def record? (names : List String) : Json → Option Record
  | .object members =>
    (textMembers? members).bind fun fields =>
      if names.all fun name => occurrences name fields ≤ 1 then some ⟨false, fields⟩ else none
  | .array items =>
    if items.length ≤ names.length then some ⟨true, names.zip items⟩ else none
  | _ => none

namespace Record

def get? (r : Record) (name : String) : Option Json := r.fields.lookup name

/-- A field that has to be there. -/
def field? (r : Record) (name : String) (read : Json → Option α) : Option α :=
  (r.get? name).bind read

/-- A field with a value to fall back on. -/
def fieldOr? (r : Record) (name : String) (fallback : α) (read : Json → Option α) : Option α :=
  match r.get? name with
  | some v => read v
  | none => some fallback

/-- A field that an object may leave out or set to null. An array may not leave it out. -/
def optional? (r : Record) (name : String) (read : Json → Option α) : Option (Option α) :=
  match r.get? name with
  | some v => v.nullable? read
  | none => if r.positional then none else some none

end Record

/-! ### Tagged values -/

/-- The tag of a variant inside a value that is taken whole: its name, or its place among
the variants. -/
def tagWithin? (variants : List String) : Json → Option String
  | .number n => n.toWord?.bind fun place => variants[place.toNat]?
  | v => v.text?

/-- The variant of a value whose tag stands among its fields, and the value without the
tag. In an array the tag comes first. -/
def untag? (tag : String) (read : Json → Option String) : Json → Option (String × Json)
  | .object members =>
    (textMembers? members).bind fun fields =>
      if occurrences tag fields = 1 then
        ((fields.lookup tag).bind read).map fun variant =>
          (variant, ofFields (fields.filter fun field => field.1 ≠ tag))
      else none
  | .array (first :: rest) => (read first).map fun variant => (variant, .array rest)
  | _ => none

/-- A variant that has no fields: nothing is left over in an array, and whatever is left
over in an object is skipped. -/
def fieldless? : Json → Option Unit
  | .array (_ :: _) => none
  | _ => some ()

/-- The variant of a value whose content stands beside its tag, and the content. An array
holds both, and its tag is a text. -/
def tagAndContent? (tag content : String) (v : Json) : Option (String × Option Json) :=
  (v.record? [tag, content]).bind fun r =>
    (r.field? tag (if r.positional then text? else name?)).bind fun variant =>
      match r.get? content with
      | none => if r.positional then none else some (variant, none)
      | some c => some (variant, some c)

/-- The content of a variant that carries none: left out, or null. -/
def noContent? : Option Json → Option Unit
  | none | some .null => some ()
  | _ => none

end Portcullis.Json
