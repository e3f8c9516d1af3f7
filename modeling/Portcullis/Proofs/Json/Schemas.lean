import Mathlib.Data.List.Basic
import Portcullis.Proofs.Json.Members

/-! What a JSON Schema asks of a value, and what may be expected of a compiler of schemas.

A schema is an object, and each keyword that counts in it asks one thing of a value. Most ask it of
values of one type only, and a value of another type is as they ask. The keywords here are those
that name a type, require members, bound a text from below, list the values there are and lead on
to the schemas of members (`Obeys`).

Of a compiler it is expected that it takes schemas with one of these keywords, that it finds what
the keyword finds, and that it takes the keywords of a schema, and the members that a schema is
about, in the order of their names (`Compiler.Lawful`). What it says of a violation is its own
affair. The compiler at hand does as expected (`Compiler.standard_lawful`). -/
namespace Portcullis.Json

/-- A value is as the keywords of a schema ask. It is equal to an item that a schema lists if their
canonical forms are equal. -/
inductive Obeys : (schema v : Json) → Prop
  | intro {schema v : Json}
      (type : ∀ name, schema.Holds "type" (ofString name) → v.typeName = name)
      (required : ∀ names : List String, schema.Holds "required" (.array (names.map ofString)) →
        ∀ name ∈ names, ¬v.Lacks name)
      (minLength : ∀ n s, schema.Holds "minLength" (.number (.ofNat n)) → v = ofString s →
        n ≤ s.length)
      (enum : ∀ items, schema.Holds "enum" (.array items) →
        ∃ item ∈ items, v.canonical = item.canonical)
      (properties : ∀ parts, schema.Holds "properties" parts →
        ∀ name part w, parts.Holds name part → v.Holds name w → Obeys part w) :
      Obeys schema v

theorem map_ofString_inj {names names' : List String} :
    names.map ofString = names'.map ofString ↔ names = names' :=
  List.map_inj_right fun _ _ => ofString_inj.mp

theorem Numeral.ofNat_inj {m n : Nat} : Numeral.ofNat m = Numeral.ofNat n ↔ m = n := by
  simp [Numeral.ofNat]

/-- A schema that gives no keyword twice asks what its fields ask. -/
theorem obeys_ofFields_iff {fields : List (String × Json)} (h : (fields.map Prod.fst).Nodup)
    {v : Json} : Obeys (ofFields fields) v ↔
      (∀ name, ("type", ofString name) ∈ fields → v.typeName = name) ∧
      (∀ names : List String, ("required", .array (names.map ofString)) ∈ fields →
        ∀ name ∈ names, ¬v.Lacks name) ∧
      (∀ n s, ("minLength", .number (.ofNat n)) ∈ fields → v = ofString s → n ≤ s.length) ∧
      (∀ items, ("enum", .array items) ∈ fields → ∃ item ∈ items, v.canonical = item.canonical) ∧
      ∀ parts, ("properties", parts) ∈ fields →
        ∀ name part w, parts.Holds name part → v.Holds name w → Obeys part w := by
  simp only [← holds_ofFields_iff h]
  constructor
  · rintro ⟨type, required, minLength, enum, properties⟩
    exact ⟨type, required, minLength, enum, properties⟩
  · rintro ⟨type, required, minLength, enum, properties⟩
    exact .intro type required minLength enum properties

/-- A value whose canonical form is a text is that text. -/
theorem canonical_eq_ofString_iff {v : Json} {s : String} :
    v.canonical = ofString s ↔ v = ofString s := by
  cases v <;> simp [canonical, ofString, ofFields]

/-- A string within limits is a text. -/
theorem exists_eq_ofString {v : Json} {room : Nat} (hv : v.fits room = true)
    (h : v.typeName = "string") : ∃ s, v = ofString s := by
  cases v with
  | string literal =>
    cases literal with
    | text s => exact ⟨s, rfl⟩
    | unpaired => exact absurd hv Bool.false_ne_true
  | null | bool _ | number _ | array _ | object _ => simp [typeName] at h

theorem exists_eq_object {v : Json} (h : v.typeName = "object") :
    ∃ members, v = .object members := by
  cases v with
  | object members => exact ⟨members, rfl⟩
  | null | bool _ | number _ | string _ | array _ => simp [typeName] at h

/-! ### Violations -/

/-- What naming a type finds wrong. -/
def ofType (name : String) (v : Json) : List Violation :=
  if v.typeName = name then [] else [⟨.type name, ""⟩]

/-- What a bound on the length of texts finds wrong. -/
def ofMinLength (n : Nat) (v : Json) : List Violation :=
  match v.text? with
  | some s => if s.length < n then [⟨.minLength n, ""⟩] else []
  | none => []

/-- What a list of words finds wrong. -/
def ofEnum (words : List String) (v : Json) : List Violation :=
  match v.text? with
  | some s => if s ∈ words then [] else [⟨.enum words, ""⟩]
  | none => [⟨.enum words, ""⟩]

/-- What requiring members finds wrong. -/
def ofRequired (names : List String) (v : Json) : List Violation :=
  match v with
  | .object members =>
    (names.filter fun name => (member? name members).isNone).map fun name => ⟨.required name, ""⟩
  | _ => []

/-- A keyword and its argument, or a name and the schema of the members with this name; and what
it finds wrong. -/
structure Part where
  name : String
  schema : Json
  found : Json → List Violation

/-- What the schemas of members find wrong with the members that are there. -/
def ofProperties (parts : List Part) (v : Json) : List Violation :=
  parts.flatMap fun part =>
    match v.memberOf? part.name with
    | some w => (part.found w).map (Violation.under part.name)
    | none => []

/-- What the keywords of a schema find wrong, one after the other. -/
def ofKeywords (parts : List Part) (v : Json) : List Violation :=
  parts.flatMap fun part => part.found v

/-- Parts as the object that holds them. -/
def ofParts (parts : List Part) : Json := ofFields (parts.map fun part => (part.name, part.schema))

/-- Parts in the order of their names, each name once. -/
def InNameOrder (parts : List Part) : Prop := parts.Pairwise fun a b => a.name < b.name

instance (parts : List Part) : Decidable (InNameOrder parts) :=
  inferInstanceAs (Decidable (parts.Pairwise _))

section
variable {v : Json} {x : Violation}

theorem mem_ofType_iff {name : String} :
    x ∈ ofType name v ↔ v.typeName ≠ name ∧ x = ⟨.type name, ""⟩ := by
  rw [ofType]
  split <;> simp [*]

theorem mem_ofMinLength_iff {n : Nat} : x ∈ ofMinLength n v ↔
    ∃ s, v = ofString s ∧ s.length < n ∧ x = ⟨.minLength n, ""⟩ := by
  simp only [← text?_eq_some_iff, ofMinLength]
  cases v.text? with
  | none => simp
  | some s =>
    dsimp only
    split <;> simp [*]

theorem mem_ofEnum_iff {words : List String} : x ∈ ofEnum words v ↔
    (∀ word ∈ words, v ≠ ofString word) ∧ x = ⟨.enum words, ""⟩ := by
  simp only [ne_eq, ← text?_eq_some_iff, ofEnum]
  cases v.text? with
  | none => simp
  | some s =>
    dsimp only
    by_cases hs : s ∈ words
    · rw [if_pos hs]
      exact iff_of_false List.not_mem_nil fun h => h.1 s hs rfl
    · have hno : ∀ word ∈ words, ¬some s = some word := fun word hword heq =>
        hs (Option.some.inj heq ▸ hword)
      rw [if_neg hs, List.mem_singleton, and_iff_right hno]

theorem mem_ofRequired_iff {names : List String} : x ∈ ofRequired names v ↔
    ∃ name ∈ names, v.Lacks name ∧ ⟨.required name, ""⟩ = x := by
  cases v with
  | object members => simp [ofRequired, lacks_object_iff, and_assoc]
  | null | bool _ | number _ | string _ | array _ => simp [ofRequired, Lacks]

/-- A keyword that is about a value itself finds one thing wrong at most. -/
theorem length_ofType_le (name : String) (v : Json) : (ofType name v).length ≤ 1 := by
  rw [ofType]
  split <;> simp

theorem length_ofMinLength_le (n : Nat) (v : Json) : (ofMinLength n v).length ≤ 1 := by
  rw [ofMinLength]
  cases v.text? with
  | none => simp
  | some s =>
    dsimp only
    split <;> simp

theorem length_ofEnum_le (words : List String) (v : Json) : (ofEnum words v).length ≤ 1 := by
  rw [ofEnum]
  cases v.text? with
  | none => simp
  | some s =>
    dsimp only
    split <;> simp

theorem mem_ofProperties_iff {parts : List Part} : x ∈ ofProperties parts v ↔
    ∃ part ∈ parts, ∃ w, v.Holds part.name w ∧ ∃ y ∈ part.found w, y.under part.name = x := by
  rw [ofProperties, List.mem_flatMap]
  refine exists_congr fun part => and_congr_right fun _ => ?_
  simp only [← memberOf?_eq_some_iff]
  cases v.memberOf? part.name <;> simp

end

/-! A canonical form is of the same type and the same text, and lacks the same members. -/

@[simp] theorem typeName_canonical (v : Json) : v.canonical.typeName = v.typeName := by
  cases v <;> rfl

theorem lacks_iff {v : Json} {name : String} :
    v.Lacks name ↔ v.typeName = "object" ∧ v.memberOf? name = none := by
  cases v with
  | object members => simp [lacks_object_iff, typeName, memberOf?]
  | null | bool _ | number _ | string _ | array _ => simp [typeName, Lacks]

theorem lacks_canonical_iff {v : Json} {name : String} : v.canonical.Lacks name ↔ v.Lacks name := by
  rw [lacks_iff, lacks_iff, typeName_canonical, memberOf?_canonical, Option.map_eq_none_iff]

theorem holds_canonical_iff {v w : Json} {name : String} :
    v.canonical.Holds name w ↔ ∃ u, v.Holds name u ∧ u.canonical = w := by
  simp only [← memberOf?_eq_some_iff, memberOf?_canonical, Option.map_eq_some_iff]

theorem mem_ofProperties_canonical_iff {v : Json} {x : Violation} {parts : List Part} :
    x ∈ ofProperties parts v.canonical ↔ ∃ part ∈ parts, ∃ w, v.Holds part.name w ∧
      ∃ y ∈ part.found w.canonical, y.under part.name = x := by
  rw [mem_ofProperties_iff]
  refine exists_congr fun part => and_congr_right fun _ => ?_
  simp only [holds_canonical_iff]
  constructor
  · intro h
    obtain ⟨_, ⟨u, hu, rfl⟩, hx⟩ := h
    exact ⟨u, hu, hx⟩
  · intro h
    obtain ⟨u, hu, hx⟩ := h
    exact ⟨_, ⟨u, hu, rfl⟩, hx⟩

namespace Compiler

/-- A compiler takes a schema, and finds just these violations in a value. A value that was taken
whole comes in its canonical form. -/
def Finds (C : Compiler) (schema : Json) (found : Json → List Violation) : Prop :=
  ∃ V, C.compile schema = .ok V ∧
    ∀ v : Json, (V.complaints v.canonical).map Complaint.violation = found v.canonical

/-- What may be expected of a compiler of schemas. -/
structure Lawful (C : Compiler) : Prop where
  type : ∀ name ∈ ["null", "boolean", "number", "string", "array", "object"],
    C.Finds (ofFields [("type", ofString name)]) (ofType name)
  minLength : ∀ n < UInt64.size,
    C.Finds (ofFields [("minLength", .number (.ofNat n))]) (ofMinLength n)
  enum : ∀ words, words ≠ [] →
    C.Finds (ofFields [("enum", .array (words.map ofString))]) (ofEnum words)
  required : ∀ names : List String, names.Nodup →
    C.Finds (ofFields [("required", .array (names.map ofString))]) (ofRequired names)
  properties : ∀ parts, InNameOrder parts → (∀ part ∈ parts, C.Finds part.schema part.found) →
    C.Finds (ofFields [("properties", ofParts parts)]) (ofProperties parts)
  keywords : ∀ parts, InNameOrder parts →
    (∀ part ∈ parts, part.name ∈ ["enum", "minLength", "properties", "required", "type"] ∧
      C.Finds (ofFields [(part.name, part.schema)]) part.found) →
    C.Finds (ofParts parts) (ofKeywords parts)

end Compiler

/-! ### The compiler at hand -/

theorem list?_map_ofString (words : List String) :
    list? text? (.array (words.map ofString)) = some words := by
  show (words.map ofString).mapM text? = some words
  induction words with
  | nil => rfl
  | cons word rest ih =>
    rw [List.map_cons, List.mapM_cons, ih]
    rfl

theorem map_missing (names : List String) (v : Json) :
    (missing names v).map (fun fault => (⟨fault, ""⟩ : Violation)) = ofRequired names v := by
  cases v with
  | object members => exact List.map_map
  | null | bool _ | number _ | string _ | array _ => rfl

/-- A keyword by itself, apart from the one for members, finds what it finds. -/
theorem check_keyword {keyword : String} (hk : keyword ≠ "properties") (argument v : Json) :
    (check (ofFields [(keyword, argument)]) v).map Complaint.violation =
      (faults (.text keyword) argument v).map fun fault => ⟨fault, ""⟩ := by
  have hkey : Literal.text keyword ≠ .text "properties" := fun h => hk (Literal.text.inj h)
  rw [ofFields, List.map_singleton, check, checkKeywords, if_neg hkey, checkKeywords,
    List.append_nil, List.map_map]
  rfl

/-- The keywords of a schema find what each finds by itself. -/
theorem check_ofFields (fields : List (String × Json)) (v : Json) :
    check (ofFields fields) v = fields.flatMap fun field => check (ofFields [field]) v := by
  induction fields with
  | nil => simp only [ofFields, List.map_nil, check, checkKeywords, List.flatMap_nil]
  | cons field rest ih =>
    rw [List.flatMap_cons, ← ih]
    simp only [ofFields, List.map_cons, List.map_nil, check, checkKeywords, List.append_nil]

/-- The keyword for members finds what the schema of each finds. -/
theorem check_properties (fields : List (String × Json)) (v : Json) :
    check (ofFields [("properties", ofFields fields)]) v = fields.flatMap fun field =>
      match v.memberOf? field.1 with
      | some w => (check field.2 w).map (Complaint.under field.1)
      | none => [] := by
  simp only [ofFields, List.map_cons, List.map_nil, check, checkKeywords, if_pos, checkMembers,
    List.append_nil]
  induction fields with
  | nil => rw [List.map_nil, checkParts, List.flatMap_nil]
  | cons field rest ih =>
    rw [List.map_cons, checkParts, List.flatMap_cons]
    exact congrArg₂ (· ++ ·) rfl ih

/-- **The compiler at hand does what may be expected of one.** -/
theorem Compiler.standard_lawful : standard.Lawful where
  type name _ := by
    refine ⟨_, rfl, fun v => ?_⟩
    rw [check_keyword (by decide), ofString, faults, ofType]
    split <;> rfl
  minLength n _ := by
    refine ⟨_, rfl, fun v => ?_⟩
    rw [check_keyword (by decide), Numeral.ofNat, faults, ofMinLength]
    cases v.canonical.text? with
    | none => rfl
    | some s =>
      dsimp only
      split <;> rfl
  enum words _ := by
    refine ⟨_, rfl, fun v => ?_⟩
    rw [check_keyword (by decide), faults, list?_map_ofString, ofEnum]
    cases v.canonical.text? with
    | none => rfl
    | some s => by_cases hs : s ∈ words <;> simp [hs]
  required names _ := by
    refine ⟨_, rfl, fun v => ?_⟩
    rw [check_keyword (by decide), faults, list?_map_ofString]
    exact map_missing names v.canonical
  properties parts _ h := by
    refine ⟨_, rfl, fun v => ?_⟩
    dsimp only
    rw [ofParts, check_properties, List.flatMap_map, List.map_flatMap, ofProperties]
    refine List.flatMap_congr fun part hpart => ?_
    obtain ⟨V, hV, hfound⟩ := h part hpart
    cases hV
    rw [memberOf?_canonical]
    cases v.memberOf? part.name with
    | none => rfl
    | some w =>
      show ((check part.schema w.canonical).map _).map _ = (part.found w.canonical).map _
      rw [← hfound w, List.map_map, List.map_map]
      rfl
  keywords parts _ h := by
    refine ⟨_, rfl, fun v => ?_⟩
    dsimp only
    rw [ofParts, check_ofFields, List.flatMap_map, List.map_flatMap, ofKeywords]
    refine List.flatMap_congr fun part hpart => ?_
    obtain ⟨-, V, hV, hfound⟩ := h part hpart
    cases hV
    exact hfound v

end Portcullis.Json
