/-! Finite numbers of the 64-bit binary format, without sign.

A number is a significand of at most 53 bits times a power of two. Every operation
rounds its exact result to the nearest such number, and a tie to the even
significand; a result beyond the largest is no number. -/
namespace Portcullis.Number

/-- The number `significand * 2 ^ exponent`. -/
structure Binary64 where
  significand : Nat
  exponent : Int
  deriving DecidableEq, Repr

/-- The quotient rounded to the nearest whole number, a tie to the even one. -/
def roundDiv (num den : Nat) : Nat :=
  let quotient := num / den
  let twice := 2 * (num % den)
  if twice < den ∨ twice = den ∧ quotient % 2 = 0 then quotient else quotient + 1

/-- Two to a power as a fraction: numerator and denominator. -/
def powerOfTwo (e : Int) : Nat × Nat := (Nat.pow 2 e.toNat, Nat.pow 2 (-e).toNat)

/-- The exponent of the largest power of two that is at most `num / den`. -/
def log2 (num den : Nat) : Int :=
  let estimate : Int := (Nat.log2 num : Int) - Nat.log2 den
  let (up, down) := powerOfTwo estimate
  if num * down < den * up then estimate - 1 else estimate

namespace Binary64

/-- The least exponent of a significand. -/
def minExponent : Int := -1074

/-- The greatest exponent of a significand. -/
def maxExponent : Int := 971

def zero : Binary64 := ⟨0, minExponent⟩

/-- The number nearest to `num / den`. -/
def nearest? (num den : Nat) : Option Binary64 :=
  if num = 0 then some zero
  else
    let exponent := max (log2 num den - 52) minExponent
    let (up, down) := powerOfTwo exponent
    let significand := roundDiv (num * down) (den * up)
    let rounded : Binary64 :=
      if significand = Nat.pow 2 53 then ⟨Nat.pow 2 52, exponent + 1⟩ else ⟨significand, exponent⟩
    if rounded.exponent ≤ maxExponent then some rounded else none

def mul? (a b : Binary64) : Option Binary64 :=
  let (up, down) := powerOfTwo (a.exponent + b.exponent)
  nearest? (a.significand * b.significand * up) down

def div? (a b : Binary64) : Option Binary64 :=
  let (up, down) := powerOfTwo (a.exponent - b.exponent)
  nearest? (a.significand * up) (b.significand * down)

/-- The number nearest to a power of ten. -/
def powerOfTen? (n : Nat) : Option Binary64 := nearest? (Nat.pow 10 n) 1

/-- Divide by a power of ten, 308 places at a time. -/
def scaleDown? (a : Binary64) (places : Nat) : Option Binary64 :=
  if places ≤ 308 then (powerOfTen? places).bind a.div?
  else if a.significand = 0 then some a
  else (powerOfTen? 308).bind fun unit => (a.div? unit).bind fun b => b.scaleDown? (places - 308)
termination_by places

/-- Multiply by a power of ten, in one step up to 308 places. -/
def scaleUp? (a : Binary64) (places : Nat) : Option Binary64 :=
  if places ≤ 308 then (powerOfTen? places).bind a.mul?
  else if a.significand = 0 then some a
  else none

/-- A whole number times a power of ten: the whole number is rounded, then the product
or quotient. -/
def ofDecimal? (whole : Nat) (exponent : Int) : Option Binary64 :=
  (nearest? whole 1).bind fun a =>
    if 0 ≤ exponent then a.scaleUp? exponent.toNat else a.scaleDown? (-exponent).toNat

end Binary64

end Portcullis.Number
