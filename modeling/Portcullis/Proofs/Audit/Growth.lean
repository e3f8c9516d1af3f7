import Portcullis.Audit.Tampering
import Portcullis.Proofs.Audit.Chain
import Portcullis.Proofs.Audit.Journal

/-! How trails grow.

A trail is written entry by entry, by whoever holds it or through a gatehouse in front of it.
The hash it goes on from is kept apart from its events, and its check looks at the events alone;
that the two stay in step is what every entry keeps (`Holds.record`). -/
namespace Portcullis.Audit

/-- What a trail of that name is once it has recorded these entries. -/
structure Holds (H : Digest) (id : String) (entries : List Entry) (t : Trail) : Prop where
  name : t.id = id
  length : t.events.length = entries.length
  /-- Events stand in the order of the entries, without gaps, each linked to the one before. -/
  event : ∀ i e, t.events[i]? = some e →
    e.sequence = .ofNat i ∧ e.trailId = id ∧ entries[i]? = some e.entry ∧
      e.prevHash = hashBefore t.events i ∧
      e.thisHash = hashEvent H id (.ofNat i) e.entry e.prevHash
  tip : t.tipHash = endHash genesisHash t.events
  intact : t.isIntact H = true

variable {H : Digest} {id : String} {entries : List Entry} {t : Trail}

theorem Holds.empty (H : Digest) (id : String) : Holds H id [] (.empty id) where
  name := rfl
  length := rfl
  event := by
    intro i e h
    cases h
  tip := rfl
  intact := rfl

/-- The hash before a place is a matter of the events before it. -/
theorem hashBefore_append {events : List Event} {place : Nat} (h : place ≤ events.length)
    (more : List Event) : hashBefore (events ++ more) place = hashBefore events place := by
  cases place with
  | zero => rfl
  | succ before => rw [hashBefore, hashBefore, List.getElem?_append_left h]

/-- The hash before the end is the one that the events end on. -/
theorem hashBefore_length (events : List Event) :
    hashBefore events events.length = endHash genesisHash events := by
  rw [endHash, lastHash?, List.getLast?_eq_getElem?]
  cases events with
  | nil => rfl
  | cons e rest => rfl

/-- One entry more keeps a trail what it has to be. -/
theorem Holds.record (h : Holds H id entries t) (entry : Entry) :
    Holds H id (entries ++ [entry]) (t.record H entry) where
  name := h.name
  length := by
    rw [Trail.events_record, List.length_append, List.length_append, h.length]
    rfl
  event := by
    intro i e he
    rw [Trail.events_record] at he ⊢
    rcases Nat.lt_or_ge i t.events.length with hlt | hge
    · rw [List.getElem?_append_left hlt] at he
      obtain ⟨hsequence, hname, hentry, hprev, hhash⟩ := h.event i e he
      rw [List.getElem?_append_left (h.length ▸ hlt), hashBefore_append (Nat.le_of_lt hlt)]
      exact ⟨hsequence, hname, hentry, hprev, hhash⟩
    · -- The place is the last one, and what stands there was made for it.
      obtain rfl : i = t.events.length := by
        have hbound := (List.getElem?_eq_some_iff.mp he).1
        rw [List.length_append, List.length_singleton] at hbound
        omega
      rw [List.getElem?_concat_length] at he
      cases he
      rw [hashBefore_append (Nat.le_refl _), hashBefore_length, ← h.tip, h.length,
        List.getElem?_concat_length]
      refine ⟨?_, h.name, rfl, rfl, ?_⟩
      · rw [← h.length]
        rfl
      · rw [← h.name, ← h.length]
        rfl
  tip := by
    rw [Trail.events_record, endHash_append]
    rfl
  intact := by
    rw [Trail.isIntact, Trail.events_record, verify_append_singleton]
    exact ⟨h.intact, h.tip, rfl⟩

theorem Holds.recordAll (h : Holds H id entries t) (more : List Entry) :
    Holds H id (entries ++ more) (t.recordAll H more) := by
  induction more generalizing entries t with
  | nil => rwa [List.append_nil]
  | cons entry rest ih =>
    have hnext := ih (h.record entry)
    rwa [List.append_assoc, List.singleton_append] at hnext

/-- **A trail holds what it recorded.** -/
theorem holds_recordAll (H : Digest) (id : String) (entries : List Entry) :
    Holds H id entries ((Trail.empty id).recordAll H entries) :=
  (Holds.empty H id).recordAll entries

end Portcullis.Audit
