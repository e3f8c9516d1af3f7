import Portcullis.Json.Canonical
import Portcullis.Json.Record

/-! Reading what records are written as.

An object that gives every field once is read field by field, and a tag among the fields is found
whatever the others hold. A word of 64 bits has a value. -/
namespace Portcullis.Json

@[simp] theorem text?_ofString (s : String) : (ofString s).text? = some s := rfl

theorem ofString_inj {s t : String} : ofString s = ofString t ↔ s = t := by
  simp [ofString]

theorem text?_eq_some_iff {v : Json} {s : String} : v.text? = some s ↔ v = ofString s := by
  cases v with
  | string literal => cases literal <;> simp [text?, Literal.text?, ofString]
  | null | bool _ | number _ | array _ | object _ => simp [text?, ofString]

@[simp] theorem word?_ofWord (n : UInt64) : (ofWord n).word? = some n := Numeral.toWord?_ofNat n

theorem textMembers?_ofFields (fields : List (String × Json)) :
    textMembers? (fields.map fun (name, value) => (.text name, value)) = some fields := by
  rw [textMembers?]
  induction fields with
  | nil => rfl
  | cons field rest ih =>
    rw [List.map_cons, List.mapM_cons, ih]
    rfl

/-- An object that gives no field twice is a record. -/
theorem record?_ofFields {names : List String} {fields : List (String × Json)}
    (h : ∀ name ∈ names, occurrences name fields ≤ 1) :
    (ofFields fields).record? names = some ⟨false, fields⟩ := by
  have hall : (names.all fun name => occurrences name fields ≤ 1) = true :=
    List.all_eq_true.mpr fun name hname => decide_eq_true (h name hname)
  rw [ofFields, record?, textMembers?_ofFields, Option.bind_some, if_pos hall]

/-- A tag before the other fields tells the variant, and the other fields are left. -/
theorem untag?_ofFields_cons {tag variant : String} {fields : List (String × Json)}
    (h : ∀ field ∈ fields, field.1 ≠ tag) {read : Json → Option String}
    (hread : read (ofString variant) = some variant) :
    (ofFields ((tag, ofString variant) :: fields)).untag? tag read =
      some (variant, ofFields fields) := by
  have hnone : occurrences tag fields = 0 := by
    rw [occurrences, List.countP_eq_zero]
    intro field hfield
    exact fun heq => h field hfield (of_decide_eq_true heq)
  have honce : occurrences tag ((tag, ofString variant) :: fields) = 1 := by
    rw [occurrences, List.countP_cons, ← occurrences, hnone]
    simp
  have hrest : fields.filter (fun field => field.1 ≠ tag) = fields :=
    List.filter_eq_self.mpr fun field hfield => decide_eq_true (h field hfield)
  rw [ofFields, untag?, textMembers?_ofFields, Option.bind_some, if_pos honce,
    List.lookup_cons_self, Option.bind_some, hread, Option.map_some,
    List.filter_cons_of_neg (by simp), hrest]

namespace Record

/-- The first field is found under its own name. -/
@[simp] theorem get?_cons_self (positional : Bool) (name : String) (value : Json)
    (fields : List (String × Json)) :
    get? ⟨positional, (name, value) :: fields⟩ name = some value :=
  List.lookup_cons_self

/-- Under any other name the fields after it are looked through. -/
@[simp] theorem get?_cons_of_ne {name other : String} (h : name ≠ other) (positional : Bool)
    (value : Json) (fields : List (String × Json)) :
    get? ⟨positional, (other, value) :: fields⟩ name = get? ⟨positional, fields⟩ name := by
  rw [get?, get?, List.lookup_cons, beq_false_of_ne h]

end Record

/-! ### Limits -/

@[simp] theorem fits_ofString (room : Nat) (s : String) : (ofString s).fits room = true := rfl

@[simp] theorem fits_ofWord (room : Nat) (n : UInt64) : (ofWord n).fits room = true := by
  simp [ofWord, fits, Numeral.hasValue, Numeral.fitsWord, Numeral.isWhole, Numeral.ofNat,
    n.toNat_lt]

/-- An object stays within limits if its fields do, one level down. -/
theorem fits_ofFields {room : Nat} {fields : List (String × Json)}
    (h : ∀ field ∈ fields, field.2.fits room = true) :
    (ofFields fields).fits (room + 1) = true := by
  have hmembers :
      fitsMembers room (fields.map fun (name, value) => (.text name, value)) = true := by
    induction fields with
    | nil => rfl
    | cons field rest ih =>
      rw [List.map_cons, fitsMembers, h field List.mem_cons_self,
        ih fun f hf => h f (List.mem_cons_of_mem field hf)]
      rfl
  rw [ofFields, fits, Nat.add_sub_cancel, hmembers]
  simp

end Portcullis.Json
