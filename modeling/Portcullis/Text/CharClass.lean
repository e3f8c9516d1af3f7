/-! Classes of characters given by ranges of code points.

A class is a list of inclusive ranges in increasing order, the form in which the
properties of characters are published. Membership scans the list; every class
that sees mostly plain text answers for that text before it scans. -/
namespace Portcullis.Text

/-- Inclusive ranges of code points, in increasing order. -/
abbrev CharRanges := List (Nat × Nat)

/-- Whether a code point lies in one of the ranges. -/
def CharRanges.has (ranges : CharRanges) (code : Nat) : Bool :=
  ranges.any fun range => range.1 ≤ code && code ≤ range.2

end Portcullis.Text
