import Portcullis.Number.Binary64
/-! The fewest decimal digits that read back.

The real numbers that round to a number of the binary format form an interval around
it, ends included when the significand is even. Of all decimals in the interval the
ones with the fewest digits are taken, of those the nearest, and of two equally near
the even one. If a decimal grid has a point in the interval, then one of the two grid
points next to the number lies in it, so two candidates for each count of digits are
enough. -/
namespace Portcullis.Number

/-- A decimal: `digits * 10 ^ exponent`. -/
structure Decimal where
  digits : Nat
  exponent : Int
  deriving DecidableEq, Repr

/-- The same decimal without zeros at its end. -/
def Decimal.trimmed (d : Decimal) : Decimal :=
  if 0 < d.digits ∧ d.digits % 10 = 0 then
    Decimal.trimmed ⟨d.digits / 10, d.exponent + 1⟩
  else d
termination_by d.digits

/-- Ten to a power as a fraction: numerator and denominator. -/
def powerOfTen (e : Int) : Nat × Nat := (Nat.pow 10 e.toNat, Nat.pow 10 (-e).toNat)

/-- The interval of a number: its ends and the number itself over one denominator. -/
structure Interval where
  low : Nat
  value : Nat
  high : Nat
  den : Nat
  closed : Bool

/-- What rounds to a number. Below a power of two the numbers lie twice as close. -/
def Binary64.interval (b : Binary64) : Interval :=
  let (up, down) := powerOfTwo (b.exponent - 2)
  let below := if b.significand = Nat.pow 2 52 ∧ b.exponent ≠ minExponent then 1 else 2
  { low := (4 * b.significand - below) * up
    value := 4 * b.significand * up
    high := (4 * b.significand + 2) * up
    den := down
    closed := b.significand % 2 = 0 }

namespace Interval

/-- Whether a decimal lies in the interval. -/
def has (i : Interval) (d : Decimal) : Bool :=
  let (up, down) := powerOfTen d.exponent
  let point := d.digits * up * i.den
  if i.closed then i.low * down ≤ point && point ≤ i.high * down
  else i.low * down < point && point < i.high * down

/-- The greatest exponent whose power of ten is at most the number. -/
def log10 (i : Interval) : Int :=
  let estimate := (log2 i.value i.den * 30103).fdiv 100000
  let reached (e : Int) : Bool :=
    let (up, down) := powerOfTen e
    up * i.den ≤ i.value * down
  if reached (estimate + 1) then estimate + 1
  else if reached estimate then estimate
  else estimate - 1

/-- The grid point to take at an exponent, if one of the two next to the number lies in
the interval. -/
def candidate? (i : Interval) (exponent : Int) : Option Decimal :=
  let (up, down) := powerOfTen exponent
  let below : Decimal := ⟨i.value * down / (i.den * up), exponent⟩
  let above : Decimal := ⟨below.digits + 1, exponent⟩
  match i.has below, i.has above with
  | true, false => some below
  | false, true => some above
  | false, false => none
  | true, true =>
    let middle := (2 * below.digits + 1) * up * i.den
    let twice := 2 * i.value * down
    if twice < middle ∨ twice = middle ∧ below.digits % 2 = 0 then some below else some above

/-- The first hit with at least `count` digits, `more` counts being left to try. -/
def shortest (i : Interval) (top : Int) (count : Nat) : Nat → Decimal
  | 0 => ⟨i.value / i.den, 0⟩
  | more + 1 =>
    match i.candidate? (top - count + 1) with
    | some d => d
    | none => i.shortest top (count + 1) more

end Interval

/-- The shortest decimal that reads back as a number. Seventeen digits always do. The
upper of two grid points can be a power of ten, which needs one digit only. -/
def Binary64.shortest (b : Binary64) : Decimal :=
  if b.significand = 0 then ⟨0, 0⟩
  else
    let i := b.interval
    (i.shortest i.log10 1 17).trimmed

end Portcullis.Number
