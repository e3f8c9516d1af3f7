import Portcullis.Proofs.Audit.HashInput

/-! What is hashed can be taken apart in one way only.

A trail's name, a place, a hash and an entry's text stand side by side in the bytes that a hash is
taken over, with no lengths and no marks between them. The bytes are parted from their end: no
entry's text ends with another entry's, whatever its strings hold, and what stands in front of it
has a fixed length up to the name. So **two events that are not the same in all four parts never
share their bytes** (`hashed_parts_readable`): no name makes up for a part of another. -/
namespace Portcullis.Audit
open Json

/-- The bytes of an entry never end with those of another one. -/
theorem utf8_compact_suffix {a b : Entry} {front : List UInt8}
    (h : utf8 a.toJson.compact = front ++ utf8 b.toJson.compact) : front = [] ∧ a = b := by
  obtain rfl := utf8_compact_eq_append h
  exact ⟨List.append_left_eq_self.mp h.symm, rfl⟩

/-- **The bytes that a hash is taken over tell all four parts**, the hash before having
sixty-four bytes: they are the same for the same parts only. What they end with is the text of one
entry, and that of no other. -/
theorem hashed_parts_readable :
    (∀ (trailId trailId' : String) (sequence sequence' : UInt64) (entry entry' : Entry)
      (before before' : String), (utf8 before).length = 64 → (utf8 before').length = 64 →
      (hashInput trailId sequence entry before = hashInput trailId' sequence' entry' before' ↔
        trailId = trailId' ∧ sequence = sequence' ∧ before = before' ∧ entry = entry')) ∧
    ∀ (a b : Entry) (front : List UInt8),
      utf8 a.toJson.compact = front ++ utf8 b.toJson.compact → front = [] ∧ a = b := by
  refine ⟨?_, fun a b front => utf8_compact_suffix⟩
  intro trailId trailId' sequence sequence' entry entry' before before' hbefore hbefore'
  constructor
  · intro h
    obtain ⟨htrail, hsequence, hentry, hprev⟩ := hashInput_inj (hbefore.trans hbefore'.symm) h
    exact ⟨htrail, hsequence, hprev, hentry⟩
  · rintro ⟨rfl, rfl, rfl, rfl⟩
    rfl

/-- A name that ends as the place of another event begins, and a reason that quotes an entry, make
bytes of their own. -/
theorem hashed_parts_readable_shifted :
    let zeros := String.ofList (List.replicate 64 '0')
    let plain : Entry := ⟨.generationFailed "gate" "down", .epoch⟩
    let quoting : Entry := ⟨.generationFailed "gate" plain.toJson.compact, .epoch⟩
    (utf8 zeros).length = 64 ∧
      hashInput "trail\u0001" 0 plain zeros ≠ hashInput "trail" 1 plain zeros ∧
      hashInput "trail" 0 plain zeros ≠ hashInput "trail" 0 quoting zeros := by
  intro zeros plain quoting
  have hzeros : (utf8 zeros).length = 64 := by
    rw [utf8_eq_encoded, String.toList_ofList]
    decide
  have hparts := hashed_parts_readable.1
  refine ⟨hzeros, ?_, ?_⟩
  · intro h
    have hname := ((hparts _ _ _ _ _ _ _ _ hzeros hzeros).mp h).1
    exact absurd hname (by decide)
  · intro h
    have hentry := ((hparts _ _ _ _ _ _ _ _ hzeros hzeros).mp h).2.2.2
    have hreason : "down" = plain.toJson.compact :=
      (Occurrence.generationFailed.inj (congrArg Entry.occurrence hentry)).2
    have hhead := congrArg (fun s => s.toList.head?) hreason
    exact absurd hhead (by decide)

end Portcullis.Audit
