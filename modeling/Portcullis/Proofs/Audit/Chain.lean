import Portcullis.Audit.Trail

/-! Chains and their parts.

A chain is intact when its first part is and the rest goes on from the last hash of that part
(`verifyFrom_append`). So whatever an intact chain starts with is an intact chain, and one event
more is a matter of that event and the last hash alone. -/
namespace Portcullis.Audit

variable (H : Digest)

/-- The hash that some events end on, if they go on from a hash. -/
def endHash (before : String) (events : List Event) : String := (lastHash? events).getD before

@[simp] theorem endHash_nil (before : String) : endHash before [] = before := rfl

@[simp] theorem lastHash?_append (events : List Event) (e : Event) :
    lastHash? (events ++ [e]) = some e.thisHash := by
  rw [lastHash?, List.getLast?_concat, Option.map_some]

@[simp] theorem endHash_append (before : String) (events : List Event) (e : Event) :
    endHash before (events ++ [e]) = e.thisHash := by
  rw [endHash, lastHash?_append, Option.getD_some]

theorem endHash_cons (before : String) (e : Event) (rest : List Event) :
    endHash before (e :: rest) = endHash e.thisHash rest := by
  cases rest with
  | nil => rfl
  | cons next rest =>
    rw [endHash, endHash, lastHash?, lastHash?, List.getLast?_cons_cons, List.getLast?_cons]
    rfl

/-- Events go on a chain one part after the other. -/
theorem verifyFrom_append (before : String) (a b : List Event) :
    verifyFrom H before (a ++ b) =
      (verifyFrom H before a && verifyFrom H (endHash before a) b) := by
  induction a generalizing before with
  | nil => rfl
  | cons e rest ih => simp only [List.cons_append, verifyFrom, ih, endHash_cons, Bool.and_assoc]

theorem verifyFrom_singleton (before : String) (e : Event) :
    verifyFrom H before [e] = true ↔ e.prevHash = before ∧ e.hash H = e.thisHash := by
  simp [verifyFrom]

/-- What an intact chain starts with is an intact chain. -/
theorem verify_front {events front : List Event} (h : verify H events = true)
    (hp : front <+: events) : verify H front = true := by
  obtain ⟨rest, rfl⟩ := hp
  rw [verify, verifyFrom_append, Bool.and_eq_true] at h
  exact h.1

/-- The last event of an intact chain names the hash that the events before it end on, and
carries its own. -/
theorem verify_append_singleton {events : List Event} {e : Event} :
    verify H (events ++ [e]) = true ↔
      verify H events = true ∧ e.prevHash = endHash genesisHash events ∧ e.hash H = e.thisHash := by
  rw [verify, verifyFrom_append, Bool.and_eq_true, verifyFrom_singleton, verify]

end Portcullis.Audit
