import Portcullis.Json.Token
/-! Reading JSON text.

The reader takes one token at a time. It knows what may come next and, for every
array and object that is open, the part of it that is already there. A text is a
value when, behind its last token, one value is complete and nothing is open. -/
namespace Portcullis.Json

/-- An array or object that is still open; what it has so far stands last first. -/
inductive Frame where
  | array (items : List Json)
  | object (members : List (Literal × Json))
  /-- An object whose key waits for its value. -/
  | member (members : List (Literal × Json)) (key : Literal)
  deriving Repr

/-- What may come next. -/
inductive Expect where
  | value
  /-- A value or the end of the array that was just opened. -/
  | firstItem
  | key
  /-- A key or the end of the object that was just opened. -/
  | firstKey
  | colon (key : Literal)
  /-- A value is complete: the end of the text, or what goes on with the open frame. -/
  | after (v : Json)
  deriving Repr

/-- Begin a value. -/
def begin? (frames : List Frame) : Token → Option (Expect × List Frame)
  | .openArray => some (.firstItem, .array [] :: frames)
  | .openObject => some (.firstKey, .object [] :: frames)
  | .null => some (.after .null, frames)
  | .bool b => some (.after (.bool b), frames)
  | .number n => some (.after (.number n), frames)
  | .string s => some (.after (.string s), frames)
  | .closeArray | .closeObject | .comma | .colon => none

/-- Go on behind a complete value. -/
def continue? (v : Json) : List Frame → Token → Option (Expect × List Frame)
  | .array items :: frames, .comma => some (.value, .array (v :: items) :: frames)
  | .array items :: frames, .closeArray => some (.after (.array (v :: items).reverse), frames)
  | .member members key :: frames, .comma => some (.key, .object ((key, v) :: members) :: frames)
  | .member members key :: frames, .closeObject =>
    some (.after (.object ((key, v) :: members).reverse), frames)
  | _, _ => none

/-- Take one token. -/
def step? (frames : List Frame) (t : Token) : Expect → Option (Expect × List Frame)
  | .value => begin? frames t
  | .firstItem =>
    match frames, t with
    | .array _ :: frames, .closeArray => some (.after (.array []), frames)
    | _, _ => begin? frames t
  | .key =>
    match t with
    | .string key => some (.colon key, frames)
    | _ => none
  | .firstKey =>
    match frames, t with
    | .object _ :: frames, .closeObject => some (.after (.object []), frames)
    | _, .string key => some (.colon key, frames)
    | _, _ => none
  | .colon key =>
    match frames, t with
    | .object members :: frames, .colon => some (.value, .member members key :: frames)
    | _, _ => none
  | .after v => continue? v frames t

/-- Take all tokens. -/
def run? : Expect → List Frame → List Token → Option Json
  | .after v, [], [] => some v
  | _, _, [] => none
  | expect, frames, t :: rest =>
    (step? frames t expect).bind fun (expect, frames) => run? expect frames rest

/-- The value that tokens spell. -/
def ofTokens? (tokens : List Token) : Option Json := run? .value [] tokens

/-- The value that a text is. -/
def ofChars? (text : List Char) : Option Json := (tokens? text).bind ofTokens?

/-- The value that a text is. -/
def parse? (text : String) : Option Json := ofChars? text.toList

end Portcullis.Json
