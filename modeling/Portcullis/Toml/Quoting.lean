import Portcullis.Text.Affix
import Portcullis.Text.Digits
/-! Strings of TOML.

There are four kinds: basic strings resolve escapes and literal strings do not, and
either kind may run over several lines between triple quotes. Reading a string first
finds where it ends and then resolves what stands between its quotes. -/
namespace Portcullis.Toml
open Text

/-- The characters that stand for themselves: no control but the tab. -/
def isPlain (c : Char) : Bool := c = '\t' || (0x20 ≤ c.toNat && c.toNat ≠ 0x7f)

/-- A tab or a space. -/
def isSpace (c : Char) : Bool := c = ' ' || c = '\t'

/-- Text with every line end a line feed alone. -/
def withLineFeeds : List Char → List Char
  | [] => []
  | '\r' :: '\n' :: rest => '\n' :: withLineFeeds rest
  | c :: rest => c :: withLineFeeds rest

/-! ### Where a string ends -/

/-- What stands before the next quote, and what follows it. With escapes, a character
behind a backslash ends nothing. -/
def toQuote? (quote : Char) (escapes escaped : Bool) : List Char → Option (List Char × List Char)
  | [] => none
  | c :: rest =>
    if !escaped && c = quote then some ([], rest)
    else
      (toQuote? quote escapes (escapes && !escaped && c = '\\') rest).map fun (inner, rest) =>
        (c :: inner, rest)

/-- The quotes that stand before the closing three: two at most. -/
def closing (quote : Char) (text : List Char) : List Char × List Char :=
  match after? [quote, quote] text with
  | some rest => ([quote, quote], rest)
  | none =>
    match after? [quote] text with
    | some rest => ([quote], rest)
    | none => ([], text)

/-- What stands before the next three quotes, and what follows them. -/
def toQuotes? (quote : Char) (escapes escaped : Bool) : List Char → Option (List Char × List Char)
  | [] => none
  | c :: rest =>
    match if escaped then none else after? [quote, quote, quote] (c :: rest) with
    | some rest => some (closing quote rest)
    | none =>
      (toQuotes? quote escapes (escapes && !escaped && c = '\\') rest).map fun (inner, rest) =>
        (c :: inner, rest)

/-! ### Escapes -/

/-- What the characters before have left to do. -/
inductive Escape where
  | none
  /-- A backslash came. -/
  | begun
  /-- A code point lacks so many hexadecimal digits. -/
  | code (missing value : Nat)
  /-- A backslash and blanks came, and the line has to end. -/
  | lineEnd
  /-- The line has ended: blanks are left out. -/
  | folding
  deriving DecidableEq, Repr

/-- The character that a letter after a backslash stands for. -/
def shortEscape? (c : Char) : Option Char :=
  match c with
  | '"' => some '"'
  | '\\' => some '\\'
  | 'b' => some '\x08'
  | 'f' => some '\x0c'
  | 'n' => some '\n'
  | 'r' => some '\r'
  | 't' => some '\t'
  | _ => Option.none

/-- The character with a code point. -/
def charOf? (code : Nat) : Option Char :=
  if code.isValidChar then some (Char.ofNat code) else Option.none

/-- A character that no escape is waiting for. -/
def Escape.start? (multiline : Bool) (c : Char) : Option (List Char × Escape) :=
  if c = '\\' then some ([], .begun)
  else if isPlain c || (multiline && c = '\n') then some ([c], .none)
  else Option.none

/-- Take one character: what it adds to the text, and what is left to do. -/
def Escape.step? (multiline : Bool) (c : Char) : Escape → Option (List Char × Escape)
  | .none => start? multiline c
  | .begun =>
    match shortEscape? c with
    | some d => some ([d], .none)
    | Option.none =>
      if c = 'u' then some ([], .code 4 0)
      else if c = 'U' then some ([], .code 8 0)
      else if multiline && isSpace c then some ([], .lineEnd)
      else if multiline && c = '\n' then some ([], .folding)
      else Option.none
  | .code missing value =>
    (hexValue? c).bind fun digit =>
      let value := 16 * value + digit
      if missing = 1 then (charOf? value).map fun d => ([d], .none)
      else some ([], .code (missing - 1) value)
  | .lineEnd =>
    if isSpace c then some ([], .lineEnd)
    else if c = '\n' then some ([], .folding)
    else Option.none
  | .folding =>
    if isSpace c || c = '\n' then some ([], .folding) else start? multiline c

/-- The text that the inside of a basic string stands for. -/
def resolve? (multiline : Bool) : Escape → List Char → Option (List Char)
  | .none, [] | .folding, [] => some []
  | _, [] => Option.none
  | e, c :: rest =>
    (e.step? multiline c).bind fun (out, e) => (resolve? multiline e rest).map (out ++ ·)

/-! ### The four kinds -/

/-- The inside of a string over several lines. A line end directly behind the opening
quotes is left out. -/
def inside (text : List Char) : List Char :=
  match withLineFeeds text with
  | '\n' :: rest => rest
  | text => text

/-- A basic string on one line, from behind its opening quote. -/
def basic? (text : List Char) : Option (List Char × List Char) :=
  (toQuote? '"' true false text).bind fun (inner, rest) =>
    (resolve? false .none inner).map (·, rest)

/-- A literal string on one line, from behind its opening quote. -/
def literal? (text : List Char) : Option (List Char × List Char) :=
  (toQuote? '\'' false false text).bind fun (inner, rest) =>
    if inner.all isPlain then some (inner, rest) else Option.none

def multilineBasic? (text : List Char) : Option (List Char × List Char) :=
  (toQuotes? '"' true false text).bind fun (inner, rest) =>
    (resolve? true .none (inside inner)).map (·, rest)

def multilineLiteral? (text : List Char) : Option (List Char × List Char) :=
  (toQuotes? '\'' false false text).bind fun (inner, rest) =>
    let inner := inside inner
    if inner.all fun c => isPlain c || c = '\n' then some (inner, rest) else Option.none

/-- The string a text starts with. -/
def string? (text : List Char) : Option (List Char × List Char) :=
  match text with
  | '"' :: '"' :: '"' :: rest => multilineBasic? rest
  | '"' :: rest => basic? rest
  | '\'' :: '\'' :: '\'' :: rest => multilineLiteral? rest
  | '\'' :: rest => literal? rest
  | _ => Option.none

end Portcullis.Toml
