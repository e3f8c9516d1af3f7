import Portcullis.Proofs.Audit.Entries
import Portcullis.Proofs.Reply.Violations

/-! What replies are accepted, and what is said about the others.

A reply that is accepted holds a policy with three members and perhaps others (`Describes`). The
schema of replies, what a compiler makes of it and the record that is read then are three accounts
of one thing, and they agree: what the schema asks is all that may be wrong with a value
(`obeys_schema_iff`), a compiler that does as expected finds just that (`mem_violations_iff`), and
the record takes whatever passes (`Describes.ofJson?_canonical`). Where a value describes no policy,
there is one violation for each thing that is wrong with it, in a fixed order
(`schema_and_record_agree`). -/
namespace Portcullis.Reply
open Json

/-- A value is an object with the members of this policy, whatever others it has. -/
structure Describes (v : Json) (g : GeneratedPolicy) : Prop where
  policy : v.Holds "policy" (ofString g.policy)
  policy_ne_empty : g.policy ≠ ""
  rationale : v.Holds "rationale" (ofString g.rationale)
  riskTier : v.Holds "riskTier" (ofString g.riskTier.word)

/-! ### Policies -/

namespace Describes
variable {v : Json} {g : GeneratedPolicy}

/-- A value that describes a policy breaks nothing. -/
theorem not_breaks (h : Describes v g) (x : Violation) : ¬Breaks v x := by
  intro hx
  cases hx with
  | noObject hno =>
    obtain ⟨members, heq, -⟩ := h.policy.exists_object
    exact hno members heq
  | policyNoText hw hno => exact hno g.policy (hw.unique h.policy)
  | policyEmpty hw => exact h.policy_ne_empty (ofString_inj.mp (h.policy.unique hw))
  | rationaleNoText hw hno => exact hno g.rationale (hw.unique h.rationale)
  | noTier hw hno => exact hno g.riskTier (hw.unique h.riskTier)
  | missing hname hlacks =>
    rw [memberNames, List.mem_cons, List.mem_cons, List.mem_singleton] at hname
    rcases hname with rfl | rfl | rfl
    · exact h.policy.not_lacks hlacks
    · exact h.rationale.not_lacks hlacks
    · exact h.riskTier.not_lacks hlacks

/-- **The record takes what is accepted.** -/
theorem ofJson?_canonical (h : Describes v g) : GeneratedPolicy.ofJson? v.canonical = some g := by
  obtain ⟨members, rfl, hpolicy⟩ := h.policy.exists_object
  have hrationale := holds_object_iff.mp h.rationale
  have htier := holds_object_iff.mp h.riskTier
  obtain ⟨r, hr, hget⟩ := record?_canonical ["policy", "rationale", "riskTier"] members
  have hread : RiskTier.ofJson? (ofString g.riskTier.word) = some g.riskTier :=
    RiskTier.ofWord?_word g.riskTier
  rw [GeneratedPolicy.ofJson?, hr]
  simp [Record.field?, hget, hpolicy, hrationale, htier, hread]

/-- A value describes one policy at most. -/
theorem unique {g' : GeneratedPolicy} (h : Describes v g) (h' : Describes v g') : g = g' :=
  Option.some.inj (h.ofJson?_canonical.symm.trans h'.ofJson?_canonical)

end Describes

/-- An object that breaks nothing holds each member. -/
theorem exists_holds {members : List (Literal × Json)} (h : ∀ x, ¬Breaks (.object members) x)
    {name : String} (hname : name ∈ memberNames) : ∃ w, Holds (.object members) name w :=
  (holds_or_lacks members name).resolve_right fun hlacks => h _ (.missing hname hlacks)

/-- **A value describes a policy just if nothing is wrong with it.** -/
theorem exists_describes_iff {v : Json} : (∃ g, Describes v g) ↔ ∀ x, ¬Breaks v x := by
  constructor
  · intro h x
    obtain ⟨g, hg⟩ := h
    exact hg.not_breaks x
  · intro h
    obtain ⟨members, rfl⟩ : ∃ members, v = .object members :=
      Classical.byContradiction fun hno => h _ (.noObject fun members heq => hno ⟨members, heq⟩)
    obtain ⟨p, hp⟩ := exists_holds h (by decide : "policy" ∈ memberNames)
    obtain ⟨r, hr⟩ := exists_holds h (by decide : "rationale" ∈ memberNames)
    obtain ⟨t, ht⟩ := exists_holds h (by decide : "riskTier" ∈ memberNames)
    obtain ⟨policy, rfl⟩ : ∃ s, p = ofString s :=
      Classical.byContradiction fun hno => h _ (.policyNoText hp (not_exists.mp hno))
    obtain ⟨rationale, rfl⟩ : ∃ s, r = ofString s :=
      Classical.byContradiction fun hno => h _ (.rationaleNoText hr (not_exists.mp hno))
    obtain ⟨tier, rfl⟩ : ∃ tier : RiskTier, t = ofString tier.word :=
      Classical.byContradiction fun hno => h _ (.noTier ht (not_exists.mp hno))
    have hne : policy ≠ "" := by
      rintro rfl
      exact h _ (.policyEmpty hp)
    exact ⟨⟨policy, rationale, tier⟩, hp, hne, hr, ht⟩

/-! ### The schema -/

section
variable {w : Json}

/-- What the schema asks of a rationale. -/
theorem obeys_rationale_iff {room : Nat} (hw : w.fits room = true) :
    Obeys (ofFields [("type", ofString "string")]) w ↔ ∃ s, w = ofString s := by
  have hasks : Obeys (ofFields [("type", ofString "string")]) w ↔ w.typeName = "string" := by
    rw [obeys_ofFields_iff (by simp)]
    simp [ofString_inj]
  rw [hasks, typeName_eq_string_iff hw]

/-- What the schema asks of a policy's text. -/
theorem obeys_policy_iff {room : Nat} (hw : w.fits room = true) :
    Obeys (ofFields [("minLength", .number (.ofNat 1)), ("type", ofString "string")]) w ↔
      ∃ s, w = ofString s ∧ s ≠ "" := by
  have hasks :
      Obeys (ofFields [("minLength", .number (.ofNat 1)), ("type", ofString "string")]) w ↔
        w.typeName = "string" ∧ ∀ n s, n = 1 → w = ofString s → n ≤ s.length := by
    rw [obeys_ofFields_iff (by simp)]
    simp [ofString_inj, Numeral.ofNat_inj]
  rw [hasks, typeName_eq_string_iff hw]
  constructor
  · rintro ⟨⟨s, rfl⟩, hlength⟩
    refine ⟨s, rfl, ?_⟩
    rintro rfl
    exact absurd (hlength 1 "" rfl rfl) (by decide)
  · rintro ⟨s, rfl, hne⟩
    refine ⟨⟨s, rfl⟩, fun n s' hn heq => ?_⟩
    rw [hn, ← ofString_inj.mp heq]
    exact Nat.pos_of_ne_zero fun hzero => hne (String.length_eq_zero_iff.mp hzero)

/-- What the schema asks of a risk tier. -/
theorem obeys_tier_iff : Obeys (ofFields [("enum", .array (tierWords.map ofString))]) w ↔
    ∃ tier : RiskTier, w = ofString tier.word := by
  have hasks : Obeys (ofFields [("enum", .array (tierWords.map ofString))]) w ↔
      ∃ item ∈ tierWords.map ofString, w.canonical = item.canonical := by
    rw [obeys_ofFields_iff (by simp)]
    simp
  rw [hasks, tierWords, List.map_map]
  constructor
  · rintro ⟨item, hitem, heq⟩
    obtain ⟨tier, -, rfl⟩ := List.mem_map.mp hitem
    rw [Function.comp_apply, canonical_ofString, canonical_eq_ofString_iff] at heq
    exact ⟨tier, heq⟩
  · rintro ⟨tier, rfl⟩
    exact ⟨ofString tier.word, List.mem_map_of_mem (by cases tier <;> decide), rfl⟩

theorem obeys_schema : Obeys schema w ↔ w.typeName = "object" ∧
    (∀ name ∈ memberNames, ¬w.Lacks name) ∧
    ∀ name part u, (name, part) ∈ parts → w.Holds name u → Obeys part u := by
  have hschema : schema = ofFields [("properties", ofFields parts),
      ("required", .array (memberNames.map ofString)), ("type", ofString "object")] := rfl
  have hparts : (parts.map Prod.fst).Nodup := by decide
  rw [hschema, obeys_ofFields_iff (by simp)]
  simp [ofString_inj, map_ofString_inj, holds_ofFields_iff hparts]

end

/-- **The schema asks just for what is accepted.** -/
theorem obeys_schema_iff {v : Json} (hv : v.isData 0 = true) :
    Obeys schema v ↔ ∃ g, Describes v g := by
  rw [obeys_schema]
  constructor
  · rintro ⟨htype, hrequired, hparts⟩
    have hpolicy {p : Json} (hp : v.Holds "policy" p) : ∃ s, p = ofString s ∧ s ≠ "" :=
      (obeys_policy_iff (hp.fits hv)).mp (hparts "policy" _ p (by simp [parts]) hp)
    have hrationale {r : Json} (hr : v.Holds "rationale" r) : ∃ s, r = ofString s :=
      (obeys_rationale_iff (hr.fits hv)).mp (hparts "rationale" _ r (by simp [parts]) hr)
    have htier {t : Json} (ht : v.Holds "riskTier" t) : ∃ tier : RiskTier, t = ofString tier.word :=
      obeys_tier_iff.mp (hparts "riskTier" _ t (by simp [parts]) ht)
    rw [exists_describes_iff]
    intro x hx
    cases hx with
    | noObject hno =>
      obtain ⟨members, heq⟩ := exists_eq_object htype
      exact hno members heq
    | policyNoText hw hno =>
      obtain ⟨s, heq, -⟩ := hpolicy hw
      exact hno s heq
    | policyEmpty hw =>
      obtain ⟨s, heq, hne⟩ := hpolicy hw
      exact hne (ofString_inj.mp heq).symm
    | rationaleNoText hw hno =>
      obtain ⟨s, heq⟩ := hrationale hw
      exact hno s heq
    | noTier hw hno =>
      obtain ⟨tier, heq⟩ := htier hw
      exact hno tier heq
    | missing hname hlacks => exact hrequired _ hname hlacks
  · rintro ⟨g, hg⟩
    refine ⟨?_, fun name hname hlacks => hg.not_breaks _ (.missing hname hlacks), ?_⟩
    · obtain ⟨members, rfl, -⟩ := hg.policy.exists_object
      rfl
    · intro name part u hpart hu
      simp only [parts, List.mem_cons, List.not_mem_nil, or_false, Prod.mk.injEq] at hpart
      rcases hpart with ⟨rfl, rfl⟩ | ⟨rfl, rfl⟩ | ⟨rfl, rfl⟩
      · exact (obeys_policy_iff (hu.fits hv)).mpr
          ⟨g.policy, hu.unique hg.policy, hg.policy_ne_empty⟩
      · exact (obeys_rationale_iff (hu.fits hv)).mpr ⟨g.rationale, hu.unique hg.rationale⟩
      · exact obeys_tier_iff.mpr ⟨g.riskTier, hu.unique hg.riskTier⟩

/-! ### Reading -/

theorem isData_of_value? {body : String} {v : Json} (h : value? body = some v) :
    v.isData 0 = true := by
  rw [value?] at h
  obtain ⟨w, -, hw⟩ := Option.bind_eq_some_iff.mp h
  split at hw
  · rename_i hdata
    cases hw
    exact hdata
  · cases hw

section
variable {V : Validator} {words : Wording} {body : String} {v : Json}

/-- What is found right and describes a policy is read as that policy. -/
theorem Describes.decode_eq {g : GeneratedPolicy} (h : Describes v g) (hbody : value? body = some v)
    (hright : V.complaints v.canonical = []) : decode V words body = .ok g := by
  simp only [decode, hbody, hright, h.ofJson?_canonical]

/-- What is found wrong with a value is reported all at once. -/
theorem decode_eq_complaints (hbody : value? body = some v)
    (hwrong : V.complaints v.canonical ≠ []) :
    decode V words body = .error (.generationFailed ("generator response violates schema: " ++
      String.intercalate "; " ((V.complaints v.canonical).map complaintLine))) := by
  rw [decode, hbody]
  dsimp only
  split
  · rename_i hright
    exact absurd hright hwrong
  · rfl

end

/-- Nothing is found wrong with a value just if it describes a policy. -/
theorem violations_eq_nil_iff {v : Json} (hv : v.isData 0 = true) :
    violations v = [] ↔ ∃ g, Describes v g := by
  rw [exists_describes_iff, List.eq_nil_iff_forall_not_mem]
  exact forall_congr' fun x => not_congr (mem_violations_iff hv)

end Portcullis.Reply
