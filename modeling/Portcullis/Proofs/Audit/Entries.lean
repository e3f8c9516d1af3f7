import Portcullis.Audit.Entry
import Portcullis.Proofs.Json.Nesting
import Portcullis.Proofs.Json.Records
import Portcullis.Proofs.Time.Writing

/-! Entries of the audit trail as text.

An entry is read back from the value it is written as, and that value is one that reads back from
its compact text. So entries that are written alike are the same. -/
namespace Portcullis
open Json

/-! ### What entries hold -/

theorem Request.ofJson?_toJson (q : Request) : ofJson? q.toJson = some q := by
  rw [ofJson?, toJson, record?_ofFields (by simp [occurrences])]
  simp [Record.field?]

theorem Request.written_toJson (q : Request) : Written q.toJson :=
  .object (by simp [Written.text])

theorem Decision.ofWord?_word (d : Decision) : ofWord? d.word = some d := by
  cases d <;> rfl

theorem RiskTier.ofWord?_word (tier : RiskTier) : ofWord? tier.word = some tier := by
  cases tier <;> rfl

/-- A word that an enumeration is written as is read inside a value that is taken whole. -/
theorem Json.enumWithin?_ofString (named : String → Option α) (s : String) :
    (ofString s).enumWithin? named = named s := rfl

theorem Provenance.ofJsonWithin?_toJson (p : Provenance) : ofJsonWithin? p.toJson = some p := by
  cases p with
  | registered =>
    rw [ofJsonWithin?, toJson, untag?_ofFields_cons (by simp) rfl]
    rfl
  | generated rationale tier =>
    rw [ofJsonWithin?, toJson, untag?_ofFields_cons (by simp) rfl]
    simp only [Option.bind_eq_bind, Option.bind_some, ofVariant?]
    rw [record?_ofFields (by simp [occurrences])]
    simp [Record.field?, RiskTier.toJson, enumWithin?_ofString, RiskTier.ofWord?_word]

theorem Provenance.written_toJson (p : Provenance) : Written p.toJson := by
  cases p with
  | registered => exact .object (by simp [Written.text])
  | generated rationale tier => exact .object (by simp [Written.text, RiskTier.toJson])

namespace Audit

theorem instantOfJson?_instantToJson (t : Instant) : instantOfJson? (instantToJson t) = some t := by
  rw [instantOfJson?, instantToJson, text?_ofString, Option.bind_some, Instant.parse?_text]

theorem written_optionalText (s : Option String) : Written (Policy.optionalText s) := by
  cases s with
  | none => exact .null
  | some s => exact .text s

/-! ### Occurrences -/

theorem Occurrence.written_toJson (o : Occurrence) : Written o.toJson := by
  cases o with
  | policyRegistered agentId ruleCount provenance =>
    exact .object (by simp [Written.text, ofWord, Written.whole, provenance.written_toJson])
  | evaluated agentId request decision determiningRule =>
    exact .object (by
      simp [Written.text, request.written_toJson, Decision.toJson, written_optionalText])
  | generationFailed agentId reason => exact .object (by simp [Written.text])

theorem fits_provenance (p : Provenance) (room : Nat) : p.toJson.fits (room + 1) = true := by
  cases p with
  | registered => exact fits_ofFields (by simp)
  | generated rationale tier => exact fits_ofFields (by simp [RiskTier.toJson])

theorem fits_optionalText (s : Option String) (room : Nat) :
    (Policy.optionalText s).fits room = true := by
  cases s <;> rfl

theorem fits_request (q : Request) (room : Nat) : q.toJson.fits (room + 1) = true :=
  fits_ofFields (by simp)

/-- An occurrence is two levels deep. -/
theorem Occurrence.isData_toJson (o : Occurrence) {depth : Nat} (h : depth + 2 ≤ maxDepth) :
    o.toJson.isData depth = true := by
  obtain ⟨room, hroom⟩ : ∃ room, maxDepth - depth = room + 1 + 1 :=
    ⟨maxDepth - depth - 2, by omega⟩
  rw [isData, hroom]
  cases o with
  | policyRegistered agentId ruleCount provenance =>
    exact fits_ofFields (by simp [fits_provenance])
  | evaluated agentId request decision determiningRule =>
    exact fits_ofFields (by simp [fits_request, Decision.toJson, fits_optionalText])
  | generationFailed agentId reason => exact fits_ofFields (by simp)

theorem Occurrence.ofJsonAt?_toJson (o : Occurrence) {depth : Nat} (h : depth + 2 ≤ maxDepth) :
    ofJsonAt? depth o.toJson = some o := by
  have hguard : (guard (true = true) : Option Unit) = some () := rfl
  rw [ofJsonAt?, o.isData_toJson h, hguard]
  cases o with
  | policyRegistered agentId ruleCount provenance =>
    rw [toJson, kind, untag?_ofFields_cons (by simp) rfl]
    simp only [Option.bind_eq_bind, Option.bind_some, String.reduceEq, reduceIte]
    rw [record?_ofFields (by simp [occurrences])]
    simp [Record.field?, provenance.ofJsonWithin?_toJson]
  | evaluated agentId request decision determiningRule =>
    have hrule : (Policy.optionalText determiningRule).nullable? text? = some determiningRule := by
      cases determiningRule <;> rfl
    rw [toJson, kind, untag?_ofFields_cons (by simp) rfl]
    simp only [Option.bind_eq_bind, Option.bind_some, String.reduceEq, reduceIte]
    rw [record?_ofFields (by simp [occurrences])]
    simp [Record.field?, Record.optional?, request.ofJson?_toJson, Decision.toJson,
      enumWithin?_ofString, Decision.ofWord?_word, hrule]
  | generationFailed agentId reason =>
    rw [toJson, kind, untag?_ofFields_cons (by simp) rfl]
    simp only [Option.bind_eq_bind, Option.bind_some, String.reduceEq, reduceIte]
    rw [record?_ofFields (by simp [occurrences])]
    simp [Record.field?]

/-! ### Entries -/

/-- The fields an entry is written as. -/
def Entry.fields (e : Entry) : List (String × Json) :=
  [("kind", e.occurrence.toJson), ("timestamp", instantToJson e.time)]

theorem Entry.written_fields (e : Entry) : ∀ f ∈ e.fields, Written f.2 := by
  simp [fields, e.occurrence.written_toJson, instantToJson, Written.text]

theorem Entry.ofJsonAt?_toJson (e : Entry) {depth : Nat} (h : depth + 3 ≤ maxDepth) :
    ofJsonAt? depth e.toJson = some e := by
  have hroom : depth + 1 + 2 ≤ maxDepth := h
  have hoccurrence := e.occurrence.ofJsonAt?_toJson hroom
  rw [ofJsonAt?, toJson, record?_ofFields (by simp [occurrences])]
  simp [Record.field?, hoccurrence, instantOfJson?_instantToJson]

/-- **Entries that are written alike are the same.** -/
theorem Entry.compact_inj {a b : Entry} (h : a.toJson.compact = b.toJson.compact) : a = b := by
  have hjson : a.toJson = b.toJson :=
    Written.compact_inj (.object a.written_fields) (.object b.written_fields) h
  have hroom : 0 + 3 ≤ maxDepth := by decide
  have hread := a.ofJsonAt?_toJson hroom
  rw [hjson, b.ofJsonAt?_toJson hroom] at hread
  exact (Option.some_inj.mp hread).symm

/-- No entry's text ends with the text of another entry. -/
theorem Entry.compact_eq_append {a b : Entry} {front : List Char}
    (h : a.toJson.compact.toList = front ++ b.toJson.compact.toList) : front = [] := by
  rw [compact, compact, String.toList_ofList, String.toList_ofList] at h
  exact eq_nil_of_render_ofFields_eq_append a.written_fields b.written_fields h

end Audit

end Portcullis
