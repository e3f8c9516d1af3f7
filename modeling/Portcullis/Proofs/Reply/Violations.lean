import Portcullis.Proofs.Json.Schemas
import Portcullis.Reply

/-! What is found wrong with replies.

The schema of replies is about three members, and there are six things that may be wrong with a
value (`Breaks`). What a compiler makes of the schema is put together from what may be expected of
it keyword by keyword (`finds_schema`). **Then there is one violation for each thing that is
wrong, and for nothing else** (`mem_violations_iff`), **in a fixed order**
(`violations_ordered`). -/
namespace Portcullis.Reply
open Json

/-- The members of a policy, in the order in which they are checked. -/
def memberNames : List String := ["policy", "rationale", "riskTier"]

/-- What is wrong with a value, each way once: the keyword that it breaks, and the place. -/
inductive Breaks (v : Json) : Violation → Prop
  | noObject : (∀ members, v ≠ .object members) → Breaks v ⟨.type "object", ""⟩
  | policyNoText {w : Json} : v.Holds "policy" w → (∀ s, w ≠ ofString s) →
      Breaks v ⟨.type "string", "/policy"⟩
  | policyEmpty : v.Holds "policy" (ofString "") → Breaks v ⟨.minLength 1, "/policy"⟩
  | rationaleNoText {w : Json} : v.Holds "rationale" w → (∀ s, w ≠ ofString s) →
      Breaks v ⟨.type "string", "/rationale"⟩
  | noTier {w : Json} : v.Holds "riskTier" w → (∀ tier : RiskTier, w ≠ ofString tier.word) →
      Breaks v ⟨.enum ["LOW", "MEDIUM", "HIGH", "CRITICAL"], "/riskTier"⟩
  | missing {name : String} : name ∈ memberNames → v.Lacks name →
      Breaks v ⟨.required name, ""⟩

/-- Where a violation stands among others: wrong members come first, missing members behind them. -/
def rank (x : Violation) : Nat :=
  match x.fault with
  | .required name => memberNames.length + memberNames.idxOf name
  | _ => ["/policy", "/rationale", "/riskTier"].idxOf x.place

/-! ### The schema, keyword by keyword -/

/-- What is asked of a policy's text. -/
def policyKeywords : List Part :=
  [⟨"minLength", .number (.ofNat 1), ofMinLength 1⟩, ⟨"type", ofString "string", ofType "string"⟩]

/-- What is asked of a rationale. -/
def rationaleKeywords : List Part := [⟨"type", ofString "string", ofType "string"⟩]

/-- What is asked of a risk tier. -/
def tierKeywords : List Part :=
  [⟨"enum", .array (tierWords.map ofString), ofEnum tierWords⟩]

/-- What is asked of each member. -/
def memberParts : List Part :=
  [⟨"policy", ofParts policyKeywords, ofKeywords policyKeywords⟩,
    ⟨"rationale", ofParts rationaleKeywords, ofKeywords rationaleKeywords⟩,
    ⟨"riskTier", ofParts tierKeywords, ofKeywords tierKeywords⟩]

/-- What is asked of a reply. -/
def schemaKeywords : List Part :=
  [⟨"properties", ofParts memberParts, ofProperties memberParts⟩,
    ⟨"required", .array (memberNames.map ofString), ofRequired memberNames⟩,
    ⟨"type", ofString "object", ofType "object"⟩]

theorem schema_eq : schema = ofParts schemaKeywords := rfl

/-- What is found wrong with a reply. -/
def violations (v : Json) : List Violation := ofKeywords schemaKeywords v.canonical

theorem ofKeywords_policy (w : Json) :
    ofKeywords policyKeywords w = ofMinLength 1 w ++ ofType "string" w := by
  simp [ofKeywords, policyKeywords]

theorem ofKeywords_rationale (w : Json) : ofKeywords rationaleKeywords w = ofType "string" w := by
  simp [ofKeywords, rationaleKeywords]

theorem ofKeywords_tier (w : Json) : ofKeywords tierKeywords w = ofEnum tierWords w := by
  simp [ofKeywords, tierKeywords]

theorem violations_eq (v : Json) : violations v = ofProperties memberParts v.canonical ++
    (ofRequired memberNames v.canonical ++ ofType "object" v.canonical) := by
  simp [violations, ofKeywords, schemaKeywords]

/-- **A compiler that does as expected takes the schema and finds the violations.** -/
theorem finds_schema {C : Compiler} (hC : C.Lawful) :
    ∃ V, C.compile schema = .ok V ∧
      ∀ v : Json, (V.complaints v.canonical).map Complaint.violation = violations v := by
  have htext : C.Finds (ofFields [("type", ofString "string")]) (ofType "string") :=
    hC.type "string" (by simp)
  have hpolicy : C.Finds (ofParts policyKeywords) (ofKeywords policyKeywords) := by
    refine hC.keywords policyKeywords (by decide) fun part hpart => ?_
    simp only [policyKeywords, List.mem_cons, List.not_mem_nil, or_false] at hpart
    rcases hpart with rfl | rfl
    · exact ⟨by simp, hC.minLength 1 (by decide)⟩
    · exact ⟨by simp, htext⟩
  have hrationale : C.Finds (ofParts rationaleKeywords) (ofKeywords rationaleKeywords) := by
    refine hC.keywords rationaleKeywords (by decide) fun part hpart => ?_
    obtain rfl := List.mem_singleton.mp hpart
    exact ⟨by simp, htext⟩
  have htier : C.Finds (ofParts tierKeywords) (ofKeywords tierKeywords) := by
    refine hC.keywords tierKeywords (by decide) fun part hpart => ?_
    obtain rfl := List.mem_singleton.mp hpart
    exact ⟨by simp, hC.enum tierWords (by decide)⟩
  have hmembers : C.Finds (ofFields [("properties", ofParts memberParts)])
      (ofProperties memberParts) := by
    refine hC.properties memberParts (by decide) fun part hpart => ?_
    simp only [memberParts, List.mem_cons, List.not_mem_nil, or_false] at hpart
    rcases hpart with rfl | rfl | rfl
    · exact hpolicy
    · exact hrationale
    · exact htier
  rw [schema_eq]
  refine hC.keywords schemaKeywords (by decide) fun part hpart => ?_
  simp only [schemaKeywords, List.mem_cons, List.not_mem_nil, or_false] at hpart
  rcases hpart with rfl | rfl | rfl
  · exact ⟨by simp, hmembers⟩
  · exact ⟨by simp, hC.required memberNames (by decide)⟩
  · exact ⟨by simp, hC.type "object" (by simp)⟩

/-! ### What is found wrong with members -/

section
variable {w : Json} {x : Violation}

/-- A value within limits is a string just if it is a text. -/
theorem typeName_eq_string_iff {room : Nat} (hw : w.fits room = true) :
    w.typeName = "string" ↔ ∃ s, w = ofString s := by
  constructor
  · exact exists_eq_ofString hw
  · intro h
    obtain ⟨s, rfl⟩ := h
    rfl

theorem mem_policyKeywords_iff {room : Nat} (hw : w.fits room = true) :
    x ∈ ofKeywords policyKeywords w.canonical ↔
      w = ofString "" ∧ x = ⟨.minLength 1, ""⟩ ∨
        (∀ s, w ≠ ofString s) ∧ x = ⟨.type "string", ""⟩ := by
  have hnone : ∀ s : String, s.length < 1 ↔ s = "" := fun s => by
    rw [Nat.lt_one_iff, String.length_eq_zero_iff]
  simp only [ofKeywords_policy, List.mem_append, mem_ofMinLength_iff, mem_ofType_iff,
    canonical_eq_ofString_iff, typeName_canonical, ne_eq, typeName_eq_string_iff hw, hnone,
    not_exists]
  refine or_congr_left ⟨fun h => ?_, fun h => ⟨"", h.1, rfl, h.2⟩⟩
  obtain ⟨s, hs, rfl, hx⟩ := h
  exact ⟨hs, hx⟩

theorem mem_rationaleKeywords_iff {room : Nat} (hw : w.fits room = true) :
    x ∈ ofKeywords rationaleKeywords w.canonical ↔
      (∀ s, w ≠ ofString s) ∧ x = ⟨.type "string", ""⟩ := by
  simp only [ofKeywords_rationale, mem_ofType_iff, typeName_canonical, ne_eq,
    typeName_eq_string_iff hw, not_exists]

theorem mem_tierKeywords_iff : x ∈ ofKeywords tierKeywords w.canonical ↔
    (∀ tier : RiskTier, w ≠ ofString tier.word) ∧ x = ⟨.enum tierWords, ""⟩ := by
  have htiers : (∀ word ∈ tierWords, w ≠ ofString word) ↔
      ∀ tier : RiskTier, w ≠ ofString tier.word := by
    rw [tierWords, List.forall_mem_map]
    exact ⟨fun h tier => h tier (by cases tier <;> decide), fun h tier _ => h tier⟩
  simp only [ofKeywords_tier, mem_ofEnum_iff, ne_eq, canonical_eq_ofString_iff] at htiers ⊢
  rw [htiers]

end

/-! ### What is found wrong with replies -/

/-- The first step of a way leads to a member. -/
theorem under_member {name place : String} (h : pointerStep name ++ "" = place) (fault : Fault) :
    Violation.under name ⟨fault, ""⟩ = ⟨fault, place⟩ := by
  rw [Violation.under, h]

theorem mem_memberParts_iff {v : Json} (hv : v.isData 0 = true) {x : Violation} :
    x ∈ ofProperties memberParts v.canonical ↔
      (∃ w, v.Holds "policy" w ∧ (w = ofString "" ∧ x = ⟨.minLength 1, "/policy"⟩ ∨
        (∀ s, w ≠ ofString s) ∧ x = ⟨.type "string", "/policy"⟩)) ∨
      (∃ w, v.Holds "rationale" w ∧ (∀ s, w ≠ ofString s) ∧
        x = ⟨.type "string", "/rationale"⟩) ∨
      ∃ w, v.Holds "riskTier" w ∧ (∀ tier : RiskTier, w ≠ ofString tier.word) ∧
        x = ⟨.enum tierWords, "/riskTier"⟩ := by
  have hpolicy := under_member (by decide : pointerStep "policy" ++ "" = "/policy")
  have hrationale := under_member (by decide : pointerStep "rationale" ++ "" = "/rationale")
  have htier := under_member (by decide : pointerStep "riskTier" ++ "" = "/riskTier")
  rw [mem_ofProperties_canonical_iff]
  simp only [memberParts, List.mem_cons, List.not_mem_nil, or_false, exists_eq_or_imp,
    exists_eq_left]
  refine or_congr ?_ (or_congr ?_ ?_)
  · refine exists_congr fun w => and_congr_right fun hw => ?_
    simp only [mem_policyKeywords_iff (hw.fits hv), or_and_right, exists_or, and_assoc,
      exists_and_left, exists_eq_left, hpolicy, eq_comm]
  · refine exists_congr fun w => and_congr_right fun hw => ?_
    simp only [mem_rationaleKeywords_iff (hw.fits hv), and_assoc, exists_and_left, exists_eq_left,
      hrationale, eq_comm]
  · refine exists_congr fun w => and_congr_right fun hw => ?_
    simp only [mem_tierKeywords_iff, and_assoc, exists_and_left, exists_eq_left, htier, eq_comm]

/-- **There is a violation for each thing that is wrong, and for nothing else.** -/
theorem mem_violations_iff {v : Json} (hv : v.isData 0 = true) {x : Violation} :
    x ∈ violations v ↔ Breaks v x := by
  have hobject : v.typeName ≠ "object" ↔ ∀ members, v ≠ .object members := by
    cases v <;> simp [typeName]
  have hmem : x ∈ violations v ↔ x ∈ ofProperties memberParts v.canonical ∨
      (∃ name ∈ memberNames, v.Lacks name ∧ ⟨.required name, ""⟩ = x) ∨
      (∀ members, v ≠ .object members) ∧ x = ⟨.type "object", ""⟩ := by
    simp only [violations_eq, List.mem_append, mem_ofRequired_iff, lacks_canonical_iff,
      mem_ofType_iff, typeName_canonical, hobject]
  rw [hmem, mem_memberParts_iff hv]
  constructor
  · rintro ((⟨w, hw, ⟨rfl, rfl⟩ | ⟨hno, rfl⟩⟩ | ⟨w, hw, hno, rfl⟩ | ⟨w, hw, hno, rfl⟩) |
      ⟨name, hname, hlacks, rfl⟩ | ⟨hno, rfl⟩)
    · exact .policyEmpty hw
    · exact .policyNoText hw hno
    · exact .rationaleNoText hw hno
    · exact .noTier hw hno
    · exact .missing hname hlacks
    · exact .noObject hno
  · intro hx
    cases hx with
    | policyEmpty hw => exact .inl (.inl ⟨_, hw, .inl ⟨rfl, rfl⟩⟩)
    | policyNoText hw hno => exact .inl (.inl ⟨_, hw, .inr ⟨hno, rfl⟩⟩)
    | rationaleNoText hw hno => exact .inl (.inr (.inl ⟨_, hw, hno, rfl⟩))
    | noTier hw hno => exact .inl (.inr (.inr ⟨_, hw, hno, rfl⟩))
    | missing hname hlacks => exact .inr (.inl ⟨_, hname, hlacks, rfl⟩)
    | noObject hno => exact .inr (.inr ⟨hno, rfl⟩)

/-! ### The order of violations -/

/-- At one member there is one violation at most. -/
theorem length_found_le {part : Part} (h : part ∈ memberParts) (w : Json) :
    (part.found w).length ≤ 1 := by
  simp only [memberParts, List.mem_cons, List.not_mem_nil, or_false] at h
  rcases h with rfl | rfl | rfl
  · -- A text has the right type, and nothing else is too short.
    dsimp only
    rw [ofKeywords_policy]
    cases htext : w.text? with
    | none =>
      rw [ofMinLength, htext]
      exact length_ofType_le "string" w
    | some s =>
      obtain rfl := text?_eq_some_iff.mp htext
      have htype : ofType "string" (ofString s) = [] := rfl
      rw [htype, List.append_nil]
      exact length_ofMinLength_le 1 (ofString s)
  · dsimp only
    rw [ofKeywords_rationale]
    exact length_ofType_le "string" w
  · dsimp only
    rw [ofKeywords_tier]
    exact length_ofEnum_le tierWords w

theorem rank_under {part : Part} (h : part ∈ memberParts) {w : Json} {x : Violation}
    (hx : x ∈ part.found w) : rank (x.under part.name) = memberNames.idxOf part.name := by
  simp only [memberParts, List.mem_cons, List.not_mem_nil, or_false] at h
  rcases h with rfl | rfl | rfl
  · simp only [ofKeywords_policy, List.mem_append, mem_ofMinLength_iff, mem_ofType_iff] at hx
    rcases hx with ⟨_, -, -, rfl⟩ | ⟨-, rfl⟩ <;> decide
  · simp only [ofKeywords_rationale, mem_ofType_iff] at hx
    obtain ⟨-, rfl⟩ := hx
    decide
  · simp only [ofKeywords_tier, mem_ofEnum_iff] at hx
    obtain ⟨-, rfl⟩ := hx
    decide

/-- **Violations are listed in order, no two of one rank.** -/
theorem violations_ordered (v : Json) : (violations v).Pairwise fun x y => rank x < rank y := by
  have hparts : memberParts.Pairwise fun a b =>
      memberNames.idxOf a.name < memberNames.idxOf b.name := by
    decide
  have hnames : memberNames.Pairwise fun a b => memberNames.idxOf a < memberNames.idxOf b := by
    decide
  rw [violations_eq]
  cases v.canonical with
  | object members =>
    have hobject : ofType "object" (.object members) = [] := rfl
    rw [hobject, List.append_nil, List.pairwise_append]
    refine ⟨?_, ?_, ?_⟩
    · rw [ofProperties, List.pairwise_flatMap]
      refine ⟨fun part hpart => ?_, hparts.imp_of_mem fun ha hb hlt x hx y hy => ?_⟩
      · split
        · rename_i w _
          have hle := length_found_le hpart w
          cases hfound : part.found w with
          | nil => exact .nil
          | cons x rest =>
            rw [hfound, List.length_cons] at hle
            obtain rfl : rest = [] := List.length_eq_zero_iff.mp (by omega)
            exact List.pairwise_singleton _ _
        · exact .nil
      · have hrank : ∀ part ∈ memberParts, ∀ x ∈ ofProperties [part] (.object members),
            rank x = memberNames.idxOf part.name := by
          intro part hpart x hx
          obtain ⟨_, hin, w, -, z, hz, rfl⟩ := mem_ofProperties_iff.mp hx
          obtain rfl := List.mem_singleton.mp hin
          exact rank_under hpart hz
        rw [hrank _ ha x (by rwa [ofProperties, List.flatMap_singleton]),
          hrank _ hb y (by rwa [ofProperties, List.flatMap_singleton])]
        exact hlt
    · rw [ofRequired, List.pairwise_map]
      exact (hnames.filter _).imp fun hlt => Nat.add_lt_add_left hlt _
    · intro x hx y hy
      obtain ⟨part, hpart, w, -, z, hz, rfl⟩ := mem_ofProperties_iff.mp hx
      obtain ⟨name, -, -, rfl⟩ := mem_ofRequired_iff.mp hy
      have hname : part.name ∈ memberNames := List.mem_map_of_mem (f := Part.name) hpart
      rw [rank_under hpart hz]
      exact Nat.lt_add_right _ (List.idxOf_lt_length_of_mem hname)
  | null | bool _ | number _ | string _ | array _ => exact List.pairwise_singleton _ _

end Portcullis.Reply
