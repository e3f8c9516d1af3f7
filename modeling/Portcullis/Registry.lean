import Portcullis.Generation
import Portcullis.Policy.Document
import Portcullis.Policy.Evaluation
import Portcullis.Time.Instant
/-! The registry: the active policy of every agent.

An agent has one active policy at most. A new one replaces the old one as a whole. The
records stand in the order of their agents, each agent once, so two registries with the
same active policies are equal. -/
namespace Portcullis

/-- An agent's active policy. -/
structure PolicyRecord where
  agentId : String
  /-- The rules that the text spells, in order. -/
  rules : List Policy.Rule
  rawText : String
  createdAt : Instant
  sourceContext : SourceContext
  /-- Where the text came from. It decides nothing. -/
  provenance : Provenance
  deriving DecidableEq, Repr

/-- Put a record at its agent's place; an earlier record of that agent gives way. -/
def insertRecord (r : PolicyRecord) : List PolicyRecord → List PolicyRecord
  | [] => [r]
  | x :: rest =>
    if r.agentId < x.agentId then r :: x :: rest
    else if r.agentId = x.agentId then r :: rest
    else x :: insertRecord r rest

/-- The order of agents, each of them once. -/
def InOrder (records : List PolicyRecord) : Prop :=
  records.Pairwise fun a b => a.agentId < b.agentId

instance (records : List PolicyRecord) : Decidable (InOrder records) :=
  inferInstanceAs (Decidable (records.Pairwise _))

theorem mem_insertRecord {r x : PolicyRecord} {records : List PolicyRecord}
    (h : x ∈ insertRecord r records) : x = r ∨ x ∈ records := by
  induction records with
  | nil => exact .inl (by simpa [insertRecord] using h)
  | cons y rest ih =>
    simp only [insertRecord] at h
    split at h
    · simpa using h
    · split at h
      · rcases List.mem_cons.mp h with h | h
        · exact .inl h
        · exact .inr (List.mem_cons_of_mem _ h)
      · rcases List.mem_cons.mp h with h | h
        · exact .inr (h ▸ List.mem_cons_self ..)
        · exact (ih h).imp_right (List.mem_cons_of_mem _)

theorem inOrder_insertRecord {r : PolicyRecord} {records : List PolicyRecord}
    (h : InOrder records) : InOrder (insertRecord r records) := by
  induction records with
  | nil => simp [insertRecord, InOrder]
  | cons y rest ih =>
    obtain ⟨hy, hrest⟩ := List.pairwise_cons.mp h
    simp only [insertRecord]
    split
    · rename_i hlt
      refine List.pairwise_cons.mpr ⟨fun x hx => ?_, h⟩
      rcases List.mem_cons.mp hx with rfl | hx
      · exact hlt
      · exact String.lt_trans hlt (hy x hx)
    · split
      · rename_i heq
        exact List.pairwise_cons.mpr ⟨fun x hx => heq ▸ hy x hx, hrest⟩
      · rename_i hnot hne
        refine List.pairwise_cons.mpr ⟨fun x hx => ?_, ih hrest⟩
        rcases mem_insertRecord hx with rfl | hx
        · rcases Decidable.em (y.agentId < x.agentId) with hlt | hnlt
          · exact hlt
          · exact absurd (String.le_antisymm (String.not_lt.mp hnlt) (String.not_lt.mp hnot)) hne
        · exact hy x hx

structure Registry where
  records : List PolicyRecord
  inOrder : InOrder records
  deriving DecidableEq, Repr

namespace Registry

def empty : Registry := ⟨[], .nil⟩

instance : Inhabited Registry := ⟨empty⟩

/-- The active policy of an agent. -/
def get? (g : Registry) (agentId : String) : Option PolicyRecord :=
  g.records.find? fun r => r.agentId = agentId

/-- Make a record its agent's active policy. -/
def insert (r : PolicyRecord) (g : Registry) : Registry :=
  ⟨insertRecord r g.records, inOrder_insertRecord g.inOrder⟩

/-- The agents that have an active policy, in order. -/
def agentIds (g : Registry) : List String := g.records.map PolicyRecord.agentId

def size (g : Registry) : Nat := g.records.length

/-- Decide a request under an agent's policy. An agent without one is denied. -/
def explain (g : Registry) (agentId : String) (q : Request) : Policy.Evaluation :=
  match g.get? agentId with
  | some r => Policy.explain r.rules q
  | none => .denial

theorem find?_insertRecord (r : PolicyRecord) (records : List PolicyRecord) (agentId : String) :
    (insertRecord r records).find? (fun x => x.agentId = agentId) =
      if r.agentId = agentId then some r else records.find? fun x => x.agentId = agentId := by
  induction records with
  | nil => by_cases h : r.agentId = agentId <;> simp [insertRecord, h]
  | cons y rest ih =>
    simp only [insertRecord]
    split
    · by_cases h : r.agentId = agentId <;> simp [h]
    · split
      · rename_i heq
        by_cases h : r.agentId = agentId
        · simp [h]
        · have hy : ¬ y.agentId = agentId := heq ▸ h
          simp [h, hy]
      · rename_i hne
        by_cases h : y.agentId = agentId
        · have hr : ¬ r.agentId = agentId := fun hr => hne (hr.trans h.symm)
          simp [h, hr]
        · simp only [List.find?_cons, h, decide_false, ih]

theorem get?_insert (r : PolicyRecord) (g : Registry) (agentId : String) :
    (g.insert r).get? agentId = if r.agentId = agentId then some r else g.get? agentId :=
  find?_insertRecord r g.records agentId

end Registry

end Portcullis
