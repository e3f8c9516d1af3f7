/-! JSON values as they are written.

A value keeps what its text says: the digits of a number, the order of members and
repeated keys. Whether a number fits a machine type and whether a repeated key
matters is for the reader of the value to say. -/
namespace Portcullis

/-- A number as it is written: a sign, a whole part without leading zeros, the digits
behind the point and the exponent, if they are there. -/
structure Json.Numeral where
  negative : Bool
  whole : Nat
  fraction : Option (List Char)
  exponent : Option Int
  deriving DecidableEq, Repr

/-- A string as it is written. A literal with an unpaired surrogate escape denotes no
text: it can be skipped but not read. -/
inductive Json.Literal where
  | text (s : String)
  | unpaired
  deriving DecidableEq, Repr

inductive Json where
  | null
  | bool (b : Bool)
  | number (n : Json.Numeral)
  | string (s : Json.Literal)
  | array (items : List Json)
  | object (members : List (Json.Literal × Json))
  deriving Repr

namespace Json

instance : Inhabited Json := ⟨.null⟩

/-- The numeral of a natural number. -/
def Numeral.ofNat (n : Nat) : Numeral := ⟨false, n, none, none⟩

/-- A numeral without point and exponent. -/
def Numeral.isWhole (n : Numeral) : Bool := n.fraction.isNone && n.exponent.isNone

/-- The word of 64 bits that a numeral writes: a whole numeral without sign, in range. -/
def Numeral.toWord? (n : Numeral) : Option UInt64 :=
  if n.isWhole && !n.negative && n.whole < UInt64.size then some (.ofNat n.whole) else none

/-- A value that is a text. -/
def ofString (s : String) : Json := .string (.text s)

/-- A value that is a word of 64 bits. -/
def ofWord (n : UInt64) : Json := .number (.ofNat n.toNat)

/-- An object with members in the given order. -/
def ofFields (fields : List (String × Json)) : Json :=
  .object (fields.map fun (name, value) => (.text name, value))

@[simp] theorem Numeral.toWord?_ofNat (n : UInt64) : (Numeral.ofNat n.toNat).toWord? = some n := by
  simp [Numeral.toWord?, Numeral.ofNat, Numeral.isWhole, n.toNat_lt]

end Json

end Portcullis
