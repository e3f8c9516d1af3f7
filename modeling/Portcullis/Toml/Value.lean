import Portcullis.Time.Instant
/-! TOML values, and the tables they are gathered in.

A table knows how it came about, because that says who may still add to it: a table
under a header of its own is closed to keys from elsewhere, a table that only longer
headers or dotted keys imply stays open, and an inline table is complete as it stands. -/
namespace Portcullis

/-- How a table came about. -/
inductive Toml.Standing where
  /-- It has a header of its own. -/
  | declared
  /-- Only longer headers name it. -/
  | implied
  /-- Only dotted keys name it. -/
  | dotted
  /-- It is written as a value. -/
  | inline
  deriving DecidableEq, Repr

/-- A number with a point or an exponent, or none at all. -/
inductive Toml.Real where
  | finite (negative : Bool) (significand : Nat) (exponent : Int)
  | infinite (negative : Bool)
  | undefined
  deriving DecidableEq, Repr

inductive Toml where
  | string (s : String)
  | integer (n : Int)
  | real (r : Toml.Real)
  | boolean (b : Bool)
  /-- A date, a time of day or both; with both, minutes ahead of universal time. -/
  | moment (date : Option Date) (time : Option TimeOfDay) (ahead : Option Int)
  | array (items : List Toml)
  | table (standing : Toml.Standing) (members : List (String × Toml))
  /-- The tables under headers in double brackets, in order. -/
  | tables (elements : List (List (String × Toml)))
  deriving Repr

namespace Toml

instance : Inhabited Toml := ⟨.boolean false⟩

abbrev Members := List (String × Toml)

/-- Change the member with a key, or add it; the change may be refused. -/
def alter? (key : String) (change : Option Toml → Option Toml) : Members → Option Members
  | [] => (change none).map fun value => [(key, value)]
  | (k, value) :: rest =>
    if k = key then (change (some value)).map fun value => (k, value) :: rest
    else (alter? key change rest).map ((k, value) :: ·)

/-- Whether a step of a dotted key may enter a table. -/
def Standing.opensToKeys : Standing → Bool
  | declared | inline => false
  | implied | dotted => true

/-- Whether a step of a header may enter a table. -/
def Standing.opensToHeaders : Standing → Bool
  | inline => false
  | declared | implied | dotted => true

/-- Change the table at the end of a path. The way leads through tables that open to it
and through the last of several tables; a table that is missing is made. -/
def along? (made : Standing) (opens : Standing → Bool)
    (change : Standing → Members → Option Members) :
    List String → Standing → Members → Option Members
  | [], standing, members => change standing members
  | key :: path, _, members =>
    alter? key (fun
      | none => (along? made opens change path made []).map (.table made)
      | some (.table standing inner) =>
        if opens standing then
          (along? made opens change path standing inner).map (.table standing)
        else none
      | some (.tables elements) =>
        elements.getLast?.bind fun last =>
          (along? made opens change path .declared last).map fun last =>
            .tables (elements.dropLast ++ [last])
      | some _ => none) members

/-- Change the table that a header's steps lead to. -/
def underHeader? (path : List String) (change : Standing → Members → Option Members) :
    Members → Option Members :=
  along? .implied Standing.opensToHeaders change path .declared

/-- Give a new key a value. -/
def addMember? (key : String) (value : Toml) : Members → Option Members :=
  alter? key fun
    | none => some value
    | some _ => none

/-- Give a dotted key a value. Only a table that dotted keys made takes a key with dots,
and such a table takes no other. -/
def define? (path : List String) (key : String) (value : Toml) (standing : Standing) :
    Members → Option Members :=
  along? .dotted Standing.opensToKeys
    (fun standing members =>
      if standing = .dotted ↔ path ≠ [] then addMember? key value members else none)
    path standing

/-- Declare a table in the table it belongs to. -/
def declare? (key : String) : Members → Option Members :=
  alter? key fun
    | none => some (.table .declared [])
    | some (.table .implied members) => some (.table .declared members)
    | some _ => none

/-- Begin one more of several tables. -/
def append? (key : String) : Members → Option Members :=
  alter? key fun
    | none => some (.tables [[]])
    | some (.tables elements) => some (.tables (elements ++ [[]]))
    | some _ => none

/-- A path parted into the way and its last step. -/
def lastStep? (path : List String) : Option (List String × String) :=
  path.getLast?.map fun key => (path.dropLast, key)

/-- The table of keys and values that are written inline. -/
def ofPairs? (pairs : List (List String × Toml)) : Option Toml :=
  (pairs.foldlM (fun members (path, value) =>
    (lastStep? path).bind fun (way, key) => define? way key value .declared members) []).map
      (.table .inline)

end Toml

end Portcullis
