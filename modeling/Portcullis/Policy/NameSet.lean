/-! Finite sets of names, in increasing order.

Names are ordered by code point. A set keeps its names in strictly increasing
order, so two sets with the same members are equal, and writing a set lists every
name once. -/
namespace Portcullis.Policy

/-- Put a name at its place among ordered names; a name already there stays once. -/
def insertName (name : String) : List String → List String
  | [] => [name]
  | n :: rest =>
    if name < n then name :: n :: rest
    else if name = n then n :: rest
    else n :: insertName name rest

theorem mem_insertName {name x : String} {names : List String} :
    x ∈ insertName name names ↔ x = name ∨ x ∈ names := by
  induction names with
  | nil => simp [insertName]
  | cons n rest ih =>
    simp only [insertName]
    split
    · simp
    · split
      · subst name; simp
      · simp only [List.mem_cons, ih]
        grind

theorem pairwise_insertName {name : String} {names : List String}
    (h : names.Pairwise (· < ·)) : (insertName name names).Pairwise (· < ·) := by
  induction names with
  | nil => simp [insertName]
  | cons n rest ih =>
    obtain ⟨hn, hrest⟩ := List.pairwise_cons.mp h
    simp only [insertName]
    split
    · rename_i hlt
      refine List.pairwise_cons.mpr ⟨fun x hx => ?_, h⟩
      rcases List.mem_cons.mp hx with rfl | hx
      · exact hlt
      · exact String.lt_trans hlt (hn x hx)
    · split
      · exact h
      · rename_i hnot hne
        refine List.pairwise_cons.mpr ⟨fun x hx => ?_, ih hrest⟩
        rcases mem_insertName.mp hx with rfl | hx
        · rcases Decidable.em (n < x) with hlt | hnlt
          · exact hlt
          · exact absurd (String.le_antisymm (String.not_lt.mp hnlt) (String.not_lt.mp hnot)) hne
        · exact hn x hx

/-- A set of names. -/
structure NameSet where
  toList : List String
  ordered : toList.Pairwise (· < ·)
  deriving DecidableEq, Repr

namespace NameSet

instance : Inhabited NameSet := ⟨⟨[], .nil⟩⟩

def empty : NameSet := ⟨[], .nil⟩

def insert (name : String) (s : NameSet) : NameSet :=
  ⟨insertName name s.toList, pairwise_insertName s.ordered⟩

/-- The set of the names in a list. -/
def ofList : List String → NameSet
  | [] => empty
  | name :: rest => (ofList rest).insert name

def contains (s : NameSet) (name : String) : Bool := s.toList.contains name

@[simp] theorem mem_toList_insert {name x : String} {s : NameSet} :
    x ∈ (s.insert name).toList ↔ x = name ∨ x ∈ s.toList := mem_insertName

@[simp] theorem mem_toList_ofList {x : String} {names : List String} :
    x ∈ (ofList names).toList ↔ x ∈ names := by
  induction names with
  | nil => simp [ofList, empty]
  | cons name rest ih => simp [ofList, ih]

theorem contains_eq_true_iff {s : NameSet} {name : String} :
    s.contains name = true ↔ name ∈ s.toList := by simp [contains]

end NameSet

end Portcullis.Policy
