import Portcullis.Toml.Quoting
import Portcullis.Toml.Scalar
/-! Reading TOML documents.

A document is a run of statements: blank lines, headers, and keys with their values. The
text is first taken apart into statements, and the statements then build the tables. -/
namespace Portcullis.Toml
open Text

def skipSpace (text : List Char) : List Char := text.dropWhile isSpace

/-- What follows a line end. -/
def newline? (text : List Char) : Option (List Char) :=
  match text with
  | '\n' :: rest | '\r' :: '\n' :: rest => some rest
  | _ => none

/-- Text without the comment it starts with. -/
def skipComment (text : List Char) : List Char :=
  match text with
  | '#' :: rest => rest.dropWhile isPlain
  | _ => text

/-- What follows the line, of which only blanks and a comment may be left. -/
def lineEnd? (text : List Char) : Option (List Char) :=
  match skipComment (skipSpace text) with
  | [] => some []
  | text => newline? text

/-- Text without the blanks, line ends and comments it starts with. -/
def skipLayout (text : List Char) : List Char :=
  match text with
  | [] => []
  | c :: rest =>
    if isSpace c || c = '\n' then skipLayout rest
    else if c = '\r' ∧ rest.head? = some '\n' then skipLayout rest
    else if c = '#' then skipLayout (rest.dropWhile isPlain)
    else c :: rest
termination_by text.length
decreasing_by
  · simp
  · simp
  · have := (List.dropWhile_sublist isPlain (l := rest)).length_le
    simp only [List.length_cons]
    omega

/-! ### Keys -/

/-- The characters of a key without quotes. -/
def isBare (c : Char) : Bool := c.isAlphanum || c = '_' || c = '-'

/-- One step of a key. -/
def keyStep? (text : List Char) : Option (String × List Char) :=
  match text with
  | '"' :: rest => (basic? rest).map fun (key, rest) => (String.ofList key, rest)
  | '\'' :: rest => (literal? rest).map fun (key, rest) => (String.ofList key, rest)
  | _ =>
    match text.takeWhile isBare with
    | [] => none
    | key => some (String.ofList key, text.dropWhile isBare)

/-- A key of at most so many steps, with blanks around each. -/
def key? : Nat → List Char → Option (List String × List Char)
  | 0, _ => none
  | room + 1, text =>
    (keyStep? (skipSpace text)).bind fun (step, rest) =>
      match skipSpace rest with
      | '.' :: rest => (key? room rest).map fun (steps, rest) => (step :: steps, rest)
      | rest => some ([step], rest)

/-- How many steps a key may have, and how deep values may nest. -/
def maxDepth : Nat := 79

/-! ### Values -/

/-- The items of an array, from behind its bracket or a comma. -/
def items? (read : List Char → Option (Toml × List Char)) (text : List Char) :
    Option (List Toml × List Char) :=
  match skipLayout text with
  | ']' :: rest => some ([], rest)
  | start =>
    (read start).bind fun (v, rest) =>
      match skipLayout rest with
      | ']' :: rest => some ([v], rest)
      | ',' :: rest =>
        if rest.length < text.length then (items? read rest).map fun (vs, rest) => (v :: vs, rest)
        else none
      | _ => none
termination_by text.length

/-- A key and its value. -/
def pair? (read : List Char → Option (Toml × List Char)) (text : List Char) :
    Option ((List String × Toml) × List Char) :=
  (key? maxDepth text).bind fun (path, rest) =>
    match rest with
    | '=' :: rest => (read (skipSpace rest)).map fun (v, rest) => ((path, v), rest)
    | _ => none

/-- The pairs of an inline table, from behind its brace or a comma. -/
def pairs? (read : List Char → Option (Toml × List Char)) (text : List Char) :
    Option (List (List String × Toml) × List Char) :=
  (pair? read text).bind fun (pair, rest) =>
    match skipSpace rest with
    | '}' :: rest => some ([pair], rest)
    | ',' :: rest =>
      if rest.length < text.length then
        (pairs? read rest).map fun (pairs, rest) => (pair :: pairs, rest)
      else none
    | _ => none
termination_by text.length

/-- An inline table, from behind its brace. -/
def inlineTable? (read : List Char → Option (Toml × List Char)) (text : List Char) :
    Option (Toml × List Char) :=
  match skipSpace text with
  | '}' :: rest => some (.table .inline [], rest)
  | text => (pairs? read text).bind fun (pairs, rest) => (ofPairs? pairs).map (·, rest)

/-- The value a text starts with; arrays and inline tables nest at most so deep. -/
def value? : Nat → List Char → Option (Toml × List Char)
  | room + 1, '[' :: rest =>
    (items? (value? room) rest).map fun (items, rest) => (.array items, rest)
  | room + 1, '{' :: rest => inlineTable? (value? room) rest
  | _, text =>
    ((string? text).map fun (s, rest) => (.string (String.ofList s), rest)) <|> scalar? text

/-! ### Statements -/

inductive Statement where
  /-- Nothing but a comment. -/
  | blank
  /-- The header of a table. -/
  | table (path : List String)
  /-- The header of one more of several tables. -/
  | element (path : List String)
  | pair (path : List String) (value : Toml)
  deriving Repr

/-- A header, from behind its brackets. -/
def header? (closing : List Char) (text : List Char) : Option (List String × List Char) :=
  (key? maxDepth text).bind fun (path, rest) => (after? closing rest).map (path, ·)

/-- The statement a line starts with. -/
def beginning? (text : List Char) : Option (Statement × List Char) :=
  match text with
  | '[' :: '[' :: rest => (header? [']', ']'] rest).map fun (path, rest) => (.element path, rest)
  | '[' :: rest => (header? [']'] rest).map fun (path, rest) => (.table path, rest)
  | _ =>
    if (lineEnd? text).isSome then some (.blank, text)
    else (pair? (value? maxDepth) text).map fun ((path, v), rest) => (.pair path v, rest)

/-- The statement a text starts with, and what follows its line. -/
def statement? (text : List Char) : Option (Statement × List Char) :=
  (beginning? (skipSpace text)).bind fun (s, rest) => (lineEnd? rest).map (s, ·)

/-- The statements of a text. -/
def statements? (text : List Char) : Option (List Statement) :=
  if text.isEmpty then some []
  else
    (statement? text).bind fun (s, rest) =>
      if rest.length < text.length then (statements? rest).map (s :: ·) else none
termination_by text.length

/-! ### Documents -/

/-- The tables so far, and the header that pairs come under. -/
structure Draft where
  root : Members
  header : List String

def Draft.add? (d : Draft) : Statement → Option Draft
  | .blank => some d
  | .table path =>
    (lastStep? path).bind fun (way, key) =>
      (underHeader? way (fun _ => declare? key) d.root).map (⟨·, path⟩)
  | .element path =>
    (lastStep? path).bind fun (way, key) =>
      (underHeader? way (fun _ => append? key) d.root).map (⟨·, path⟩)
  | .pair path v =>
    (lastStep? path).bind fun (way, key) =>
      (underHeader? d.header (define? way key v) d.root).map fun root => {d with root}

/-- Text without the byte-order mark it starts with. -/
def withoutMark (text : List Char) : List Char :=
  match text with
  | '\ufeff' :: rest => rest
  | _ => text

/-- The table that a document describes. -/
def parse? (text : String) : Option Toml :=
  (statements? (withoutMark text.toList)).bind fun statements =>
    (statements.foldlM Draft.add? ⟨[], []⟩).map fun d => .table .declared d.root

end Portcullis.Toml
