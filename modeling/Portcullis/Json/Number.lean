import Portcullis.Json.Value
import Portcullis.Number.Shortest
import Portcullis.Text.Digits
/-! The values of JSON numbers.

A whole numeral that fits 64 bits is kept as it is written. Every other numeral
becomes a number of the binary format, and a numeral beyond that format is not
accepted. Digits count as long as the significand fits 64 bits; a further digit
before the point raises the exponent and a further digit behind it is dropped. -/
namespace Portcullis.Json
open Text Number

/-- The significand that digits before the point go on to, and how many were left over. -/
def wholeDigits (significand : Nat) : List Char → Nat × Nat
  | [] => (significand, 0)
  | c :: rest =>
    let next := 10 * significand + (c.toNat - '0'.toNat)
    if next < UInt64.size then wholeDigits next rest else (significand, rest.length + 1)

/-- The significand that digits behind the point go on to, and how many were used. -/
def fractionDigits (significand used : Nat) : List Char → Nat × Nat
  | [] => (significand, used)
  | c :: rest =>
    let next := 10 * significand + (c.toNat - '0'.toNat)
    if next < UInt64.size then fractionDigits next (used + 1) rest else (significand, used)

/-- The size of a numeral in the binary format, unless it is beyond it. -/
def Numeral.size? (n : Numeral) : Option Binary64 :=
  let (significand, left) := wholeDigits 0 (decimal n.whole)
  let (significand, used) := fractionDigits significand 0 (n.fraction.getD [])
  Binary64.ofDecimal? significand (left - used + n.exponent.getD 0)

/-- Whether a numeral is a whole number of 64 bits, with or without sign. Minus zero is
not. -/
def Numeral.fitsWord (n : Numeral) : Bool :=
  n.isWhole &&
    if n.negative then 0 < n.whole && n.whole ≤ UInt64.size / 2 else n.whole < UInt64.size

/-- Whether a numeral has a value. -/
def Numeral.hasValue (n : Numeral) : Bool := n.fitsWord || n.size?.isSome

/-- The decimals from here to sixteen places are written without exponent. -/
def positionalPlaces : Int := 16

/-- The numeral of a decimal. The point stands behind `places` digits: a decimal with
up to sixteen places before its point, or fewer than five zeros behind it, has no
exponent, and without exponent there is always a digit on either side of the point. -/
def Numeral.ofDecimal (negative : Bool) (d : Decimal) : Numeral :=
  let digits := decimal d.digits
  let places : Int := digits.length + d.exponent
  if d.digits = 0 then ⟨negative, 0, some ['0'], none⟩
  else if 0 ≤ d.exponent ∧ places ≤ positionalPlaces then
    ⟨negative, d.digits * Nat.pow 10 d.exponent.toNat, some ['0'], none⟩
  else if 0 < places ∧ places ≤ positionalPlaces then
    ⟨negative, Text.ofDecimal (digits.take places.toNat), some (digits.drop places.toNat), none⟩
  else if -5 < places ∧ places ≤ 0 then
    ⟨negative, 0, some (List.replicate (-places).toNat '0' ++ digits), none⟩
  else
    let fraction := if digits.length = 1 then none else some (digits.drop 1)
    ⟨negative, Text.ofDecimal (digits.take 1), fraction, some (places - 1)⟩

/-- The numeral that a value is shown as: as it is written if it fits a word, else in
the fewest digits that read back. -/
def Numeral.settled (n : Numeral) : Numeral :=
  if n.fitsWord then n
  else
    match n.size? with
    | some b => .ofDecimal n.negative b.shortest
    | none => n

end Portcullis.Json
