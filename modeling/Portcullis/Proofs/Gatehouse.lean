import Portcullis.Gatehouse

/-! What a gatehouse leaves and answers, whatever its sink does. -/
namespace Portcullis.Gatehouse

variable {σ : Type}

/-- What is read behind the lock is what was last written there, poisoned or not. -/
theorem registry_write (policies : Lock Registry) (registry : Registry) (sink : σ) :
    Gatehouse.registry ⟨policies.write registry, sink⟩ = registry := by
  rw [Gatehouse.registry, Lock.read_eq]
  rfl

/-- Who breaks off while holding the lock leaves the registry as it was. -/
theorem registry_poison (policies : Lock Registry) (sink sink' : σ) :
    Gatehouse.registry ⟨policies.poison, sink'⟩ = Gatehouse.registry ⟨policies, sink⟩ := by
  rw [Gatehouse.registry, Gatehouse.registry, Lock.read_eq, Lock.read_eq]
  rfl

/-- A submission that is taken becomes its agent's active record. -/
theorem register_done {S : Audit.Sink σ} {g : Gatehouse σ} {now : Moments} {s : Submission}
    {record : PolicyRecord} (h : (g.register S now s).outcome = .done record) :
    record = s.toRecord now.made ∧
      (g.register S now s).after.registry.get? s.agentId = some record := by
  unfold register at h ⊢
  split at h
  · rename_i hopens
    rw [if_pos hopens]
    dsimp only at h ⊢
    split at h
    · rename_i sink hkept
      obtain rfl : s.toRecord now.made = record := by simpa using h
      refine ⟨rfl, ?_⟩
      rw [registry_write]
      exact (Registry.get?_insert _ _ _).trans (if_pos rfl)
    · cases h
    · cases h
  · cases h

/-- A request is denied, unless the sink broke off and nobody got an answer. -/
def Denies (S : Audit.Sink σ) (g : Gatehouse σ) (now : Moments) (agentId : String)
    (q : Request) : Prop :=
  (∃ answer, (g.explain S now agentId q).outcome = .done answer ∧ answer.decision = .deny) ∨
    (g.explain S now agentId q).outcome = .broke ∧ ∃ entry, (S.record g.sink entry).1 = .broke

/-- What an agent's policy denies, the gatehouse denies: a sink can only take an answer away. -/
theorem denies_of_get? {g : Gatehouse σ} {agentId : String} {record : PolicyRecord}
    {q : Request} (h : g.registry.get? agentId = some record)
    (hd : Policy.evaluate record.rules q = .deny) (S : Audit.Sink σ) (now : Moments) :
    g.Denies S now agentId q := by
  have hregistry : (g.registry.explain agentId q).decision = .deny := by
    rw [Registry.explain, h]
    exact hd
  unfold Denies explain
  dsimp only
  split
  · exact .inl ⟨_, rfl, hregistry⟩
  · exact .inl ⟨_, rfl, rfl⟩
  · rename_i sink hbroke
    exact .inr ⟨rfl, _, congrArg Prod.fst hbroke⟩

end Portcullis.Gatehouse
