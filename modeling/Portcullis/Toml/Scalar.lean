import Portcullis.Text.Affix
import Portcullis.Toml.Value
/-! Numbers, dates and times of TOML.

Integers have 64 bits. Digits may be grouped by underscores, each of which stands
between two digits. A decimal that rounds up to infinity is refused. -/
namespace Portcullis.Toml
open Text

/-! ### Digits -/

/-- Digits of a kind, and what follows them, behind a digit that came before. -/
def moreDigits (isDigit : Char → Bool) : List Char → List Char × List Char
  | [] => ([], [])
  | '_' :: c :: rest =>
    if isDigit c then
      let (digits, rest) := moreDigits isDigit rest
      (c :: digits, rest)
    else ([], '_' :: c :: rest)
  | c :: rest =>
    if isDigit c then
      let (digits, rest) := moreDigits isDigit rest
      (c :: digits, rest)
    else ([], c :: rest)

/-- Digits of a kind without their underscores, and what follows them. -/
def digits? (isDigit : Char → Bool) : List Char → Option (List Char × List Char)
  | c :: rest =>
    if isDigit c then
      let (digits, rest) := moreDigits isDigit rest
      some (c :: digits, rest)
    else none
  | [] => none

/-- A decimal whole number: a zero by itself, or digits that start with no zero. -/
def whole? (text : List Char) : Option (List Char × List Char) :=
  match text with
  | '0' :: rest => some (['0'], rest)
  | _ => digits? Char.isDigit text

/-- Whether a number is negative, and the number without its sign. -/
def sign (text : List Char) : Bool × List Char :=
  match text with
  | '-' :: rest => (true, rest)
  | '+' :: rest => (false, rest)
  | _ => (false, text)

/-! ### Integers -/

/-- How far integers of 64 bits reach on either side of zero. -/
def reach : Int := (UInt64.size / 2 : Nat)

/-- An integer of 64 bits. -/
def word64? (n : Int) : Option Toml :=
  if -reach ≤ n ∧ n < reach then some (.integer n) else none

/-- The number that digits write in a base. -/
def ofDigits (base : Nat) (digits : List Char) : Nat :=
  digits.foldl (fun sofar c => base * sofar + (hexValue? c).getD 0) 0

def radix? (base : Nat) (text : List Char) : Option (Toml × List Char) :=
  (digits? (fun c => (hexValue? c).any (· < base)) text).bind fun (digits, rest) =>
    (word64? (ofDigits base digits)).map (·, rest)

def integer? (text : List Char) : Option (Toml × List Char) :=
  match text with
  | '0' :: 'x' :: rest => radix? 16 rest
  | '0' :: 'o' :: rest => radix? 8 rest
  | '0' :: 'b' :: rest => radix? 2 rest
  | _ =>
    let (negative, text) := sign text
    (whole? text).bind fun (digits, rest) =>
      let size : Int := ofDecimal digits
      (word64? (if negative then -size else size)).map (·, rest)

/-! ### Reals -/

/-- The least size that rounds up to infinity. -/
def overflow : Nat := Nat.pow 2 1024 - Nat.pow 2 970

/-- Whether `significand * 10 ^ exponent` rounds up to infinity. Sizes of more than 400
digits are beyond it and sizes below one are not. -/
def overflows (significand : Nat) (exponent : Int) : Bool :=
  let places : Int := (decimal significand).length + exponent
  if significand = 0 ∨ places ≤ 0 then false
  else if 400 < places then true
  else overflow * Nat.pow 10 (-exponent).toNat ≤ significand * Nat.pow 10 exponent.toNat

/-- The exponent, if one is next. -/
def exponent? (text : List Char) : Option (Int × List Char) :=
  match text with
  | c :: rest =>
    if c = 'e' ∨ c = 'E' then
      let (negative, rest) := sign rest
      (digits? Char.isDigit rest).map fun (digits, rest) =>
        let size : Int := ofDecimal digits
        (if negative then -size else size, rest)
    else none
  | [] => none

/-- The digits behind a point, if one is next. -/
def fraction? (text : List Char) : Option (List Char × List Char) :=
  match text with
  | '.' :: rest => digits? Char.isDigit rest
  | _ => none

/-- The rest of a number behind its whole part: a fraction, an exponent, or both. -/
def scale? (text : List Char) : Option (List Char × Int × List Char) :=
  match fraction? text with
  | some (digits, rest) =>
    match exponent? rest with
    | some (e, rest) => some (digits, e, rest)
    | none => some (digits, 0, rest)
  | none => (exponent? text).map fun (e, rest) => ([], e, rest)

def finite? (negative : Bool) (text : List Char) : Option (Toml × List Char) :=
  (whole? text).bind fun (digits, rest) =>
    (scale? rest).bind fun (places, e, rest) =>
      let significand := ofDecimal (digits ++ places)
      let exponent := e - places.length
      if !negative && overflows significand exponent then none
      else some (.real (.finite negative significand exponent), rest)

def real? (text : List Char) : Option (Toml × List Char) :=
  let (negative, text) := sign text
  match after? ['i', 'n', 'f'] text with
  | some rest => some (.real (.infinite negative), rest)
  | none =>
    match after? ['n', 'a', 'n'] text with
    | some rest => some (.real .undefined, rest)
    | none => finite? negative text

/-! ### Dates and times -/

/-- A number of exactly so many digits. -/
def fixed? (width : Nat) (text : List Char) : Option (Nat × List Char) :=
  let digits := text.take width
  if digits.length = width ∧ digits.all Char.isDigit then some (ofDecimal digits, text.drop width)
  else none

def date? (text : List Char) : Option (Date × List Char) := do
  let (year, text) ← fixed? 4 text
  let text ← after? ['-'] text
  let (month, text) ← fixed? 2 text
  let text ← after? ['-'] text
  let (day, text) ← fixed? 2 text
  let date ← Date.ofNumbers? year month day
  return (date, text)

/-- The nanoseconds that a fraction of a second gives; further digits are dropped. -/
def nanos (text : List Char) : Nat × List Char :=
  match text with
  | '.' :: rest =>
    match spanDigits rest with
    | ([], _) => (0, text)
    | (digits, rest) => (ofDecimal ((digits ++ List.replicate 9 '0').take 9), rest)
  | _ => (0, text)

def time? (text : List Char) : Option (TimeOfDay × List Char) := do
  let (hour, text) ← fixed? 2 text
  let text ← after? [':'] text
  let (minute, text) ← fixed? 2 text
  let text ← after? [':'] text
  let (second, text) ← fixed? 2 text
  let (nano, text) := nanos text
  let time ← TimeOfDay.ofNumbers? hour minute second nano
  return (time, text)

/-- The minutes that an offset lies ahead, if one is next. -/
def offset? (text : List Char) : Option (Int × List Char) :=
  match text with
  | 'Z' :: rest | 'z' :: rest => some (0, rest)
  | '+' :: rest => (minutes? rest).map fun (n, rest) => ((n : Int), rest)
  | '-' :: rest => (minutes? rest).map fun (n, rest) => (-(n : Int), rest)
  | _ => none
where
  minutes? (text : List Char) : Option (Nat × List Char) := do
    let (hour, text) ← fixed? 2 text
    let text ← after? [':'] text
    let (minute, text) ← fixed? 2 text
    if hour < 24 ∧ minute < 60 then some (60 * hour + minute, text) else none

/-- A time of day behind a date, parted from it by a letter or a space. -/
def timeBehind? (text : List Char) : Option (TimeOfDay × List Char) :=
  match text with
  | 'T' :: rest | 't' :: rest | ' ' :: rest => time? rest
  | _ => none

def moment? (text : List Char) : Option (Toml × List Char) :=
  match date? text with
  | some (date, text) =>
    match timeBehind? text with
    | some (time, text) =>
      match offset? text with
      | some (ahead, text) => some (.moment (some date) (some time) (some ahead), text)
      | none => some (.moment (some date) (some time) none, text)
    | none => some (.moment (some date) none none, text)
  | none => (time? text).map fun (time, text) => (.moment none (some time) none, text)

/-! ### Scalars -/

def boolean? (text : List Char) : Option (Toml × List Char) :=
  match after? ['t', 'r', 'u', 'e'] text with
  | some rest => some (.boolean true, rest)
  | none => (after? ['f', 'a', 'l', 's', 'e'] text).map (.boolean false, ·)

/-- The value without parts that a text starts with. Where a text starts with several,
the longest kind comes first. -/
def scalar? (text : List Char) : Option (Toml × List Char) :=
  boolean? text <|> moment? text <|> real? text <|> integer? text

end Portcullis.Toml
