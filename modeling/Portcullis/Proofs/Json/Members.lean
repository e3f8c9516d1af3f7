import Portcullis.Json.Schema
import Portcullis.Proofs.Json.Records

/-! The members of an object that count.

An object may give a name more than once, and then its last member with that name counts (`Holds`).
Looking a name up finds just that member, and the canonical form of an object keeps those members,
each under its name once and in the order of the names. So a record reads from the canonical form
what the object holds (`record?_canonical`). -/
namespace Portcullis.Json

/-- A value is an object, and its last member with a name holds this. -/
def Holds (v : Json) (name : String) (w : Json) : Prop :=
  ∃ before after, v = .object (before ++ (.text name, w) :: after) ∧
    ∀ member ∈ after, member.1 ≠ .text name

/-- A value is an object without a member of this name. -/
def Lacks (v : Json) (name : String) : Prop :=
  ∃ members, v = .object members ∧ ∀ member ∈ members, member.1 ≠ .text name

/-! ### Looking members up -/

section
variable {name : String} {members : List (Literal × Json)}

theorem member?_eq_none_iff :
    member? name members = none ↔ ∀ member ∈ members, member.1 ≠ .text name := by
  induction members with
  | nil => simp [member?]
  | cons member rest ih =>
    obtain ⟨key, value⟩ := member
    rw [List.forall_mem_cons, ← ih, member?]
    cases member? name rest with
    | some later => simp
    | none => simp

theorem member?_append (front back : List (Literal × Json)) :
    member? name (front ++ back) = (member? name back).or (member? name front) := by
  induction front with
  | nil => simp [member?]
  | cons member rest ih =>
    obtain ⟨key, value⟩ := member
    rw [List.cons_append, member?, ih, member?]
    cases member? name back with
    | some later => rfl
    | none => rfl

/-- The member that is found is the last of its name. -/
theorem member?_eq_some_iff {w : Json} :
    member? name members = some w ↔ ∃ before after,
      members = before ++ (.text name, w) :: after ∧ ∀ member ∈ after, member.1 ≠ .text name := by
  constructor
  · intro h
    induction members with
    | nil => cases h
    | cons member rest ih =>
      obtain ⟨key, value⟩ := member
      rw [member?] at h
      cases hrest : member? name rest with
      | some later =>
        rw [hrest] at h
        obtain ⟨before, after, heq, hafter⟩ := ih (hrest.trans h)
        exact ⟨(key, value) :: before, after, congrArg _ heq, hafter⟩
      | none =>
        rw [hrest] at h
        dsimp only at h
        split at h
        · rename_i hkey
          cases h
          exact ⟨[], rest, by rw [hkey]; rfl, member?_eq_none_iff.mp hrest⟩
        · cases h
  · rintro ⟨before, after, rfl, hafter⟩
    have hlast : member? name ((.text name, w) :: after) = some w := by
      rw [member?, member?_eq_none_iff.mpr hafter]
      exact if_pos rfl
    rw [member?_append, hlast, Option.some_or]

theorem holds_object_iff {w : Json} : Holds (.object members) name w ↔
    member? name members = some w := by
  rw [member?_eq_some_iff, Holds]
  simp

theorem lacks_object_iff : Lacks (.object members) name ↔ member? name members = none := by
  rw [member?_eq_none_iff, Lacks]
  simp

end

section
variable {v w : Json} {name : String}

theorem memberOf?_eq_some_iff : v.memberOf? name = some w ↔ v.Holds name w := by
  cases v with
  | object members => exact holds_object_iff.symm
  | null | bool _ | number _ | string _ | array _ => simp [memberOf?, Holds]

/-- What holds a member is an object, and looking the name up finds the member. -/
theorem Holds.exists_object (h : v.Holds name w) :
    ∃ members, v = .object members ∧ member? name members = some w := by
  obtain ⟨before, after, heq, hafter⟩ := h
  exact ⟨_, heq, member?_eq_some_iff.mpr ⟨before, after, rfl, hafter⟩⟩

theorem Lacks.exists_object (h : v.Lacks name) : ∃ members, v = .object members := by
  obtain ⟨members, heq, -⟩ := h
  exact ⟨members, heq⟩

theorem Holds.unique {w' : Json} (h : v.Holds name w) (h' : v.Holds name w') : w = w' := by
  obtain ⟨members, rfl, hmember⟩ := h.exists_object
  exact Option.some.inj (hmember.symm.trans (holds_object_iff.mp h'))

theorem Holds.not_lacks (h : v.Holds name w) : ¬v.Lacks name := by
  obtain ⟨members, rfl, hmember⟩ := h.exists_object
  rw [lacks_object_iff, hmember]
  exact Option.some_ne_none w

/-- An object holds a member or lacks it. -/
theorem holds_or_lacks (members : List (Literal × Json)) (name : String) :
    (∃ w, Holds (.object members) name w) ∨ Lacks (.object members) name := by
  cases hmember : member? name members with
  | some w => exact .inl ⟨w, holds_object_iff.mpr hmember⟩
  | none => exact .inr (lacks_object_iff.mpr hmember)

theorem fitsMembers_append {room : Nat} (front back : List (Literal × Json)) :
    fitsMembers room (front ++ back) = (fitsMembers room front && fitsMembers room back) := by
  induction front with
  | nil => simp [fitsMembers]
  | cons member rest ih =>
    obtain ⟨key, value⟩ := member
    rw [List.cons_append, fitsMembers, fitsMembers, ih]
    simp only [Bool.and_assoc]

/-- What an object holds stays within limits if the object does. -/
theorem Holds.fits {room : Nat} (h : v.Holds name w) (hv : v.fits room = true) :
    w.fits (room - 1) = true := by
  obtain ⟨before, after, rfl, -⟩ := h
  rw [Json.fits, fitsMembers_append, fitsMembers] at hv
  simp only [Bool.and_eq_true] at hv
  exact hv.2.2.1.2

end

/-- A first member counts if no later one has its name. -/
theorem holds_cons_iff {key : Literal} {value w : Json} {members : List (Literal × Json)}
    {name : String} : Holds (.object ((key, value) :: members)) name w ↔
      Holds (.object members) name w ∨
        Lacks (.object members) name ∧ key = .text name ∧ value = w := by
  rw [holds_object_iff, holds_object_iff, lacks_object_iff, member?]
  cases member? name members with
  | some later => simp
  | none => simp

/-- In an object that gives no name twice, every field counts. -/
theorem holds_ofFields_iff {fields : List (String × Json)} (h : (fields.map Prod.fst).Nodup)
    {name : String} {w : Json} : (ofFields fields).Holds name w ↔ (name, w) ∈ fields := by
  induction fields generalizing w with
  | nil => simp [ofFields, holds_object_iff, member?]
  | cons field rest ih =>
    obtain ⟨key, value⟩ := field
    obtain ⟨hkey, hrest⟩ := List.nodup_cons.mp h
    have hcons : (ofFields ((key, value) :: rest)).Holds name w ↔ (ofFields rest).Holds name w ∨
        (ofFields rest).Lacks name ∧ Literal.text key = .text name ∧ value = w := holds_cons_iff
    have hlater : (∃ u, (ofFields rest).Holds name u) ∨ (ofFields rest).Lacks name :=
      holds_or_lacks _ name
    rw [hcons, ih hrest, List.mem_cons]
    constructor
    · rintro (hmem | ⟨-, hname, rfl⟩)
      · exact .inr hmem
      · cases hname
        exact .inl rfl
    · rintro (heq | hmem)
      · cases heq
        rcases hlater with ⟨u, hu⟩ | hlacks
        · exact absurd (List.mem_map.mpr ⟨(name, u), (ih hrest).mp hu, rfl⟩) hkey
        · exact .inr ⟨hlacks, rfl, rfl⟩
      · exact .inl hmem

/-! ### Canonical objects -/

@[simp] theorem canonical_ofString (s : String) : (ofString s).canonical = ofString s := by
  simp [ofString, canonical]

/-- Fields in the order of their names, each name once. -/
def Ordered (fields : List (String × Json)) : Prop :=
  fields.Pairwise fun a b => a.1 < b.1

theorem mem_insertMember {key : String} {value : Json} {fields : List (String × Json)}
    {field : String × Json} (h : field ∈ insertMember key value fields) :
    field = (key, value) ∨ field ∈ fields := by
  induction fields with
  | nil => exact .inl (List.mem_singleton.mp h)
  | cons first rest ih =>
    rw [insertMember] at h
    split at h
    · exact List.mem_cons.mp h
    · split at h
      · exact (List.mem_cons.mp h).imp_right (List.mem_cons_of_mem first)
      · rcases List.mem_cons.mp h with rfl | h
        · exact .inr List.mem_cons_self
        · exact (ih h).imp_right (List.mem_cons_of_mem first)

theorem ordered_insertMember {fields : List (String × Json)} (h : Ordered fields) (key : String)
    (value : Json) : Ordered (insertMember key value fields) := by
  induction fields with
  | nil => exact List.pairwise_singleton _ _
  | cons first rest ih =>
    obtain ⟨hfirst, hrest⟩ := List.pairwise_cons.mp h
    rw [insertMember]
    split
    · rename_i hlt
      refine List.pairwise_cons.mpr ⟨fun field hfield => ?_, h⟩
      rcases List.mem_cons.mp hfield with rfl | hfield
      · exact hlt
      · exact String.lt_trans hlt (hfirst field hfield)
    · split
      · rename_i heq
        exact List.pairwise_cons.mpr ⟨fun field hfield => heq ▸ hfirst field hfield, hrest⟩
      · rename_i hnot hne
        refine List.pairwise_cons.mpr ⟨fun field hfield => ?_, ih hrest⟩
        rcases mem_insertMember hfield with rfl | hfield
        · rcases Decidable.em (first.1 < key) with hlt | hnlt
          · exact hlt
          · exact absurd (String.le_antisymm (String.not_lt.mp hnlt) (String.not_lt.mp hnot)) hne
        · exact hfirst field hfield

theorem lookup_cons_ite (name key : String) (value : Json) (fields : List (String × Json)) :
    ((key, value) :: fields).lookup name =
      if name = key then some value else fields.lookup name := by
  rw [List.lookup_cons]
  by_cases h : name = key
  · rw [if_pos h, beq_iff_eq.mpr h]
  · rw [if_neg h, beq_false_of_ne h]

theorem lookup_insertMember (name key : String) (value : Json) (fields : List (String × Json)) :
    (insertMember key value fields).lookup name =
      if name = key then some value else fields.lookup name := by
  induction fields with
  | nil => rw [insertMember, lookup_cons_ite]
  | cons first rest ih =>
    obtain ⟨k, v⟩ := first
    rw [insertMember]
    split
    · rw [lookup_cons_ite]
    · split
      · rename_i heq
        rw [lookup_cons_ite, lookup_cons_ite, ← heq]
        split <;> rfl
      · rename_i hne
        rw [lookup_cons_ite, ih, lookup_cons_ite]
        by_cases hname : name = k
        · rw [if_pos hname, if_neg fun heq : name = key => hne (heq.symm.trans hname), if_pos hname]
        · rw [if_neg hname, if_neg hname]

/-- What is looked up in a canonical object is what the object holds. -/
theorem lookup_canonicalMembers (name : String) (done : List (String × Json))
    (members : List (Literal × Json)) :
    (canonicalMembers done members).lookup name =
      ((member? name members).map canonical).or (done.lookup name) := by
  induction members generalizing done with
  | nil =>
    rw [canonicalMembers]
    rfl
  | cons member rest ih =>
    obtain ⟨key, value⟩ := member
    cases key with
    | unpaired =>
      rw [canonicalMembers, ih, member?]
      cases member? name rest with
      | some later => rfl
      | none => rfl
    | text key =>
      rw [canonicalMembers, ih, lookup_insertMember, member?]
      cases member? name rest with
      | some later => rfl
      | none =>
        by_cases hname : name = key
        · simp [hname]
        · simp [hname, Ne.symm hname]

theorem ordered_canonicalMembers {done : List (String × Json)} (h : Ordered done)
    (members : List (Literal × Json)) : Ordered (canonicalMembers done members) := by
  induction members generalizing done with
  | nil => rwa [canonicalMembers]
  | cons member rest ih =>
    obtain ⟨key, value⟩ := member
    cases key with
    | unpaired =>
      rw [canonicalMembers]
      exact ih h
    | text key =>
      rw [canonicalMembers]
      exact ih (ordered_insertMember h key value.canonical)

theorem Ordered.occurrences_le_one {fields : List (String × Json)} (h : Ordered fields)
    (name : String) : occurrences name fields ≤ 1 := by
  induction fields with
  | nil => exact Nat.zero_le 1
  | cons first rest ih =>
    obtain ⟨hfirst, hrest⟩ := List.pairwise_cons.mp h
    rw [occurrences, List.countP_cons, ← occurrences]
    split
    · rename_i heq
      have hnone : occurrences name rest = 0 := by
        rw [occurrences, List.countP_eq_zero]
        intro field hfield hname
        have hlt := hfirst field hfield
        rw [of_decide_eq_true heq, of_decide_eq_true hname] at hlt
        exact String.lt_irrefl name hlt
      omega
    · exact ih hrest

/-- Where no name comes twice, the last member of a name is the first one. -/
theorem member?_ofFields {fields : List (String × Json)} (h : Ordered fields) (name : String) :
    member? name (fields.map fun (key, value) => (.text key, value)) = fields.lookup name := by
  induction fields with
  | nil => rfl
  | cons first rest ih =>
    obtain ⟨key, value⟩ := first
    obtain ⟨hfirst, hrest⟩ := List.pairwise_cons.mp h
    rw [List.map_cons, member?, ih hrest, lookup_cons_ite]
    by_cases hname : name = key
    · have hnone : rest.lookup name = none := by
        rw [List.lookup_eq_none_iff]
        intro field hfield
        exact bne_iff_ne.mpr (hname ▸ String.ne_of_lt (hfirst field hfield))
      rw [hnone, hname]
      simp
    · have hkey : Literal.text key ≠ .text name := fun heq => hname (Literal.text.inj heq).symm
      rw [if_neg hname]
      cases rest.lookup name with
      | some later => rfl
      | none => exact if_neg hkey

/-- The canonical form of an object holds the canonical form of what the object holds. -/
theorem memberOf?_canonical (name : String) (v : Json) :
    v.canonical.memberOf? name = (v.memberOf? name).map canonical := by
  cases v with
  | object members =>
    have hordered : Ordered (canonicalMembers [] members) :=
      ordered_canonicalMembers List.Pairwise.nil members
    have hfields : (ofFields (canonicalMembers [] members)).memberOf? name =
        (canonicalMembers [] members).lookup name := member?_ofFields hordered name
    rw [canonical, hfields, lookup_canonicalMembers]
    exact Option.or_none
  | null | bool _ | number _ | string _ | array _ => simp [canonical, memberOf?]

/-- A record reads from a canonical object what the object holds. -/
theorem record?_canonical (names : List String) (members : List (Literal × Json)) :
    ∃ r, (Json.object members).canonical.record? names = some r ∧
      ∀ name, r.get? name = (member? name members).map canonical := by
  have hordered : Ordered (canonicalMembers [] members) :=
    ordered_canonicalMembers List.Pairwise.nil members
  refine ⟨⟨false, canonicalMembers [] members⟩, ?_, fun name => ?_⟩
  · rw [canonical]
    exact record?_ofFields fun name _ => hordered.occurrences_le_one name
  · rw [Record.get?, lookup_canonicalMembers]
    exact Option.or_none

end Portcullis.Json
