import Portcullis.Notice
import Portcullis.Text.Affix
import Portcullis.Text.Alphanumeric
import Portcullis.Text.Blank
import Portcullis.Text.Case
import Portcullis.Text.Digits
/-! Which notices are shown.

A filter is a list of rules. A rule is about the origins that start with a text, perhaps
only about their notices with a certain value, and shows them from a severity up. Of the
rules about a notice the one with the longest text decides; of two with the same text one
that asks for a value, and at last the later one.

Filters are written as rules with commas between them: a level for every origin, a text
for everything from the origins that start with it, or both with an equals sign between
them. Behind the text brackets may name a span of work and, in braces, a value. A level is
the name of a severity or its rank; `off` and zero show nothing. -/
namespace Portcullis.Notice

structure FilterRule where
  /-- What an origin has to start with. -/
  origin : String
  /-- The name of a value that a notice has to have. -/
  value : Option String
  /-- Whether the rule is about spans of work alone. No notice is one. -/
  spansOnly : Bool
  /-- The least severity that is shown, if any is. -/
  least : Option Severity
  deriving DecidableEq, Repr

structure Filter where
  rules : List FilterRule
  deriving DecidableEq, Repr

namespace FilterRule

/-- Whether a notice has the value that a rule asks for. -/
def asksFor (r : FilterRule) (n : Notice) : Bool :=
  match r.value with
  | some name => n.names.contains name
  | none => true

/-- Whether a rule is about a notice. -/
def concerns (r : FilterRule) (n : Notice) : Bool :=
  !r.spansOnly && (Text.after? r.origin.toList n.origin.toList).isSome && r.asksFor n

def admits (r : FilterRule) (n : Notice) : Bool :=
  match r.least with
  | some least => n.severity.rank ≤ least.rank
  | none => false

/-- The level that a rank stands for: zero shows nothing. -/
def ofRank? (rank : Nat) : Option (Option Severity) :=
  match rank with
  | 0 => some none
  | n + 1 => Severity.all[n]?.map some

/-- The level a word stands for. A rank may have a plus sign and zeros before it. -/
def level? (word : String) : Option (Option Severity) :=
  let digits := (Text.after? ['+'] word.toList).getD word.toList
  if !digits.isEmpty && digits.all Char.isDigit then ofRank? (Text.ofDecimal digits)
  else if Text.lowered word = "off" then some none
  else (Severity.all.find? fun s => Text.lowered s.word = Text.lowered word).map some

/-- Whether a text starts as a rule may. -/
def isOpened (text : List Char) : Bool :=
  match text with
  | [] => false
  | c :: _ => Text.isWordChar c || c = '-' || c = ':' || c = '['

/-- Whether a character ends the origin of a rule. -/
def endsOrigin (c : Char) : Bool := c = '=' || c = '['

/-- What stands between brackets, and what follows them. -/
structure Brackets where
  span : List Char
  /-- What stands between braces. -/
  value : Option (List Char)
  rest : List Char
  deriving DecidableEq, Repr

/-- Read on behind an opening bracket. The braces come last and are not empty. -/
def brackets? (text : List Char) : Option Brackets :=
  let span := text.takeWhile fun c => !(c = ']' || c = '{')
  match text.drop span.length with
  | ']' :: rest => some ⟨span, none, rest⟩
  | '{' :: more =>
    let value := more.takeWhile (· ≠ '}')
    match more.drop value.length with
    | '}' :: ']' :: rest => if value.isEmpty then none else some ⟨span, some value, rest⟩
    | _ => none
  | _ => none

/-- The rule about what brackets describe. A span, and a value that has to be equal to
something, are asked of spans of work alone. -/
def ofBrackets (origin : String) (b : Brackets) (least : Option Severity) : FilterRule where
  origin := origin
  value := b.value.map String.ofList
  spansOnly := b.value.isNone || !b.span.isEmpty || (b.value.getD []).contains '='
  least := least

/-- The level behind an equals sign. Without one everything is shown. -/
def leastOf? (word : List Char) : Option (Option Severity) :=
  if word.isEmpty then some (some .trace) else level? (String.ofList word)

/-- The rule a text describes. Without an equals sign everything is shown. Blanks around
a level or an origin are part of it. -/
def ofText? (text : String) : Option FilterRule :=
  let text := text.toList
  let origin := String.ofList (text.takeWhile fun c => !endsOrigin c)
  if isOpened (Text.trim text) then
    match text.dropWhile fun c => !endsOrigin c with
    | [] =>
      match level? origin with
      | some least => some ⟨"", none, false, least⟩
      | none => some ⟨origin, none, false, some .trace⟩
    | '[' :: inner =>
      match brackets? inner with
      | none => none
      | some b =>
        match b.rest with
        | '=' :: word =>
          if isOpened text then (leastOf? word).map (ofBrackets origin b) else none
        | rest => if Text.allBlank rest then some (ofBrackets origin b (some .trace)) else none
    | _ :: word =>
      if isOpened text then (leastOf? word).map fun least => ⟨origin, none, false, least⟩
      else none
  else none

end FilterRule

namespace Filter

/-- Show everything from a severity up. -/
def downTo (least : Option Severity) : Filter := ⟨[⟨"", none, false, least⟩]⟩

/-- Show nothing. -/
def silent : Filter := downTo none

/-- Show warnings and errors. -/
def standard : Filter := downTo (some .warn)

/-- Whether one demand for a value comes before another: none before any, and the others
by name. -/
def demandBefore : Option String → Option String → Bool
  | none, some _ => true
  | some a, some b => a < b
  | _, none => false

/-- Whether a rule is asked before another: it has the longer text, or as long a one and
the later demand. -/
def outranks (a b : FilterRule) : Bool :=
  if a.origin.utf8ByteSize = b.origin.utf8ByteSize then demandBefore b.value a.value
  else b.origin.utf8ByteSize < a.origin.utf8ByteSize

/-- The rule of two that decides, the second if neither outranks the other. -/
def stronger (a b : FilterRule) : FilterRule := if outranks a b then a else b

/-- The rule that decides about a notice. -/
def rule? (f : Filter) (n : Notice) : Option FilterRule :=
  match f.rules.filter fun r => r.concerns n with
  | [] => none
  | r :: rest => some (rest.foldl stronger r)

def admits (f : Filter) (n : Notice) : Bool :=
  match f.rule? n with
  | some r => r.admits n
  | none => false

/-- The parts of a text between commas, without empty ones. -/
def parts (text : String) : List String :=
  ((text.toList.splitOn ',').filter fun part => !part.isEmpty).map String.ofList

/-- The filter a text describes. A text without rules shows errors only. -/
def ofText? (text : String) : Option Filter :=
  match parts text with
  | [] => some (downTo (some .error))
  | parts => (parts.mapM FilterRule.ofText?).map Filter.mk

end Filter

/-- A notice as a line. The severity stands right in five columns. -/
def line (time : String) (n : Notice) : String :=
  let word := n.severity.word
  time ++ " " ++ String.ofList (List.replicate (5 - word.length) ' ') ++ word ++ " " ++ n.text

end Portcullis.Notice
