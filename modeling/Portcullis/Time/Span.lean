import Portcullis.Text.Digits
/-! Spans of time, in whole nanoseconds. -/
namespace Portcullis

structure Span where
  ofNanos ::
  nanos : Nat
  deriving DecidableEq, Repr

namespace Span
open Text

/-- A span of whole milliseconds. -/
def mk (millis : Nat) : Span := ⟨1000000 * millis⟩

def ofSeconds (seconds : Nat) : Span := mk (1000 * seconds)

instance : LT Span := ⟨fun a b => a.nanos < b.nanos⟩

instance (a b : Span) : Decidable (a < b) := inferInstanceAs (Decidable (a.nanos < b.nanos))

/-- The places of a fraction without the zeros at its end. -/
def withoutZeros (digits : List Char) : List Char :=
  (digits.reverse.dropWhile (· = '0')).reverse

/-- So many units and a part of one that has so many places, of which as many are shown as it
needs. -/
def amount (whole part places : Nat) (unit : String) : String :=
  let digits := withoutZeros (padded places part)
  let fraction := if digits.isEmpty then [] else '.' :: digits
  String.ofList (decimal whole ++ fraction ++ unit.toList)

/-- A span in the largest unit that it holds one of: seconds, milliseconds, microseconds or
nanoseconds. -/
def text (s : Span) : String :=
  if 1000000000 ≤ s.nanos then amount (s.nanos / 1000000000) (s.nanos % 1000000000) 9 "s"
  else if 1000000 ≤ s.nanos then amount (s.nanos / 1000000) (s.nanos % 1000000) 6 "ms"
  else if 1000 ≤ s.nanos then amount (s.nanos / 1000) (s.nanos % 1000) 3 "\u00b5s"
  else amount s.nanos 0 0 "ns"

example : [⟨1500000⟩, ⟨250000⟩, ⟨61234000000⟩, ⟨1001⟩, ⟨0⟩].map text =
    ["1.5ms", "250\u00b5s", "61.234s", "1.001\u00b5s", "0ns"] := by
  decide

end Span

end Portcullis
