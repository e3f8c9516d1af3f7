import Portcullis.Json.Value
import Portcullis.Text.Digits
/-! Writing JSON text.

Members are written in the order they have. Strings escape quotes, backslashes and
the characters below the space, and nothing else. Compact text has no blanks;
indented text puts every item and member on a line of its own, two columns deeper
than what holds it. -/
namespace Portcullis.Json
open Text

/-- One character inside a string. -/
def escape (c : Char) : List Char :=
  match c with
  | '"' => ['\\', '"']
  | '\\' => ['\\', '\\']
  | '\x08' => ['\\', 'b']
  | '\t' => ['\\', 't']
  | '\n' => ['\\', 'n']
  | '\x0c' => ['\\', 'f']
  | '\r' => ['\\', 'r']
  | c =>
    if c.toNat < 0x20 then
      ['\\', 'u', '0', '0', Nat.digitChar (c.toNat / 16), Nat.digitChar (c.toNat % 16)]
    else [c]

/-- A string with its quotes. A literal that denotes no text is written as the first
surrogate, which denotes none either. -/
def Literal.render : Literal → List Char
  | .text s => '"' :: s.toList.flatMap escape ++ ['"']
  | .unpaired => ['"', '\\', 'u', 'd', '8', '0', '0', '"']

def Numeral.render (n : Numeral) : List Char :=
  (if n.negative then ['-'] else []) ++ decimal n.whole ++
    (match n.fraction with
      | some digits => '.' :: digits
      | none => []) ++
    (match n.exponent with
      | some e => 'e' :: (if e < 0 then '-' else '+') :: decimal e.natAbs
      | none => [])

/-- Pieces with a comma between them. -/
def commas : List (List Char) → List Char
  | [] => []
  | [piece] => piece
  | piece :: rest => piece ++ ',' :: commas rest

mutual

/-- Compact text. -/
def render : Json → List Char
  | .null => ['n', 'u', 'l', 'l']
  | .bool true => ['t', 'r', 'u', 'e']
  | .bool false => ['f', 'a', 'l', 's', 'e']
  | .number n => n.render
  | .string s => s.render
  | .array items => '[' :: commas (renderItems items) ++ [']']
  | .object members => '{' :: commas (renderMembers members) ++ ['}']

def renderItems : List Json → List (List Char)
  | [] => []
  | item :: rest => render item :: renderItems rest

def renderMembers : List (Literal × Json) → List (List Char)
  | [] => []
  | (key, value) :: rest => (key.render ++ ':' :: render value) :: renderMembers rest

end

/-- A line end and the columns before what stands at a depth. -/
def newline (depth : Nat) : List Char := '\n' :: List.replicate (2 * depth) ' '

/-- Pieces on lines of their own, a comma behind each but the last. -/
def block (depth : Nat) : List (List Char) → List Char
  | [] => []
  | [piece] => newline depth ++ piece
  | piece :: rest => newline depth ++ piece ++ ',' :: block depth rest

mutual

/-- Indented text of a value that stands at a depth. -/
def renderAt (depth : Nat) : Json → List Char
  | .array [] => ['[', ']']
  | .array (item :: rest) =>
    '[' :: block (depth + 1) (renderAt (depth + 1) item :: renderItemsAt (depth + 1) rest) ++
      newline depth ++ [']']
  | .object [] => ['{', '}']
  | .object ((key, value) :: rest) =>
    '{' :: block (depth + 1) ((key.render ++ ':' :: ' ' :: renderAt (depth + 1) value) ::
      renderMembersAt (depth + 1) rest) ++ newline depth ++ ['}']
  | v => render v

def renderItemsAt (depth : Nat) : List Json → List (List Char)
  | [] => []
  | item :: rest => renderAt depth item :: renderItemsAt depth rest

def renderMembersAt (depth : Nat) : List (Literal × Json) → List (List Char)
  | [] => []
  | (key, value) :: rest =>
    (key.render ++ ':' :: ' ' :: renderAt depth value) :: renderMembersAt depth rest

end

/-- Text without blanks. -/
def compact (v : Json) : String := String.ofList v.render

/-- Text with a line for every item and member. -/
def pretty (v : Json) : String := String.ofList (v.renderAt 0)

end Portcullis.Json
