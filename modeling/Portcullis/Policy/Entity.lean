import Portcullis.Policy.Lexis
import Portcullis.Text.Alphanumeric
/-! Entity references such as `Trading::Client::"authenticated"`.

A reference is a path of words joined by `::`, then `::` and a quoted id. The path
has at least one word and is not kept: only the id says which entity is meant.
Blanks may stand around words and before the id. -/
namespace Portcullis.Policy
open Text

/-- The text between occurrences of `::`. -/
def segments : List Char → List (List Char)
  | [] => [[]]
  | ':' :: ':' :: rest => [] :: segments rest
  | c :: rest => consFirst c (segments rest)

/-- A word of a path, with blanks around it. -/
def isSegment (text : List Char) : Bool :=
  let word := trim text
  !word.isEmpty && word.all isWordChar

/-- A path that ends in `::`. -/
def isPath (text : List Char) : Bool :=
  match before? [':', ':'] (trimEnd text) with
  | some path => (segments path).all isSegment
  | none => false

/-- The id of an entity reference. Nothing may follow the id. -/
def entityId? (text : List Char) : Option (List Char) :=
  let text := trim text
  if isPath (text.takeWhile (· ≠ '"')) then
    (literal? (text.dropWhile (· ≠ '"'))).bind fun (id, rest) =>
      if allBlank rest then some id else none
  else none

end Portcullis.Policy
