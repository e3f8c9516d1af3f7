import Portcullis.Toml.Value
/-! Reading records out of TOML values.

A record is a table with a member for every field, or an array of its fields in order.
Members a record does not know and items beyond its fields are skipped, and every field
has a value to fall back on. -/
namespace Portcullis.Toml

/-- The text that a value is. -/
def text? : Toml → Option String
  | .string s => some s
  | _ => none

/-- The word of 64 bits that a value is. -/
def word? : Toml → Option UInt64
  | .integer n => if 0 ≤ n then some (.ofNat n.toNat) else none
  | _ => none

/-- The items of an array, each read the same way. -/
def list? (read : Toml → Option α) : Toml → Option (List α)
  | .array items => items.mapM read
  | .tables elements => elements.mapM fun members => read (.table .declared members)
  | _ => none

/-- The fields that a record with the given names was given. A moment is a record of
which nothing is known. -/
def record? (names : List String) : Toml → Option Members
  | .table _ members => some members
  | .array items => some (names.zip items)
  | .tables elements => some (names.zip (elements.map (.table .declared)))
  | .moment .. => some []
  | _ => none

/-- A field with a value to fall back on. -/
def fieldOr? (fields : Members) (name : String) (fallback : α) (read : Toml → Option α) :
    Option α :=
  match fields.lookup name with
  | some v => read v
  | none => some fallback

end Portcullis.Toml
