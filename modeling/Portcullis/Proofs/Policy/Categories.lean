import Portcullis.Proofs.Policy.Precedence

/-! How categories of principals are nested.

A category holds its own name and every name that goes on behind it with a separator, and such a
name may be a category itself. Two categories that hold the same principal both stand in front of
it, so the longer of them goes on from the shorter one, and with a separator. **Categories form a
forest** (`categories_form_forest`): each is below the categories in whose names it starts, which
stand in one line. A rule about a category is therefore about all that is below it. -/
namespace Portcullis.Policy
open Text

/-- A rule about the category admits the principal. -/
def InCategory (principal category : String) : Prop :=
  (PrincipalConstraint.category category).admits principal = true

/-- An order in which whatever is above the same is in one line. -/
structure Forest {α : Type} (below : α → α → Prop) : Prop where
  refl (a : α) : below a a
  trans {a b c : α} : below a b → below b c → below a c
  antisymm {a b : α} : below a b → below b a → a = b
  comparable {a b c : α} : below a b → below a c → below b c ∨ below c b

/-- What may stand behind the name of a category in the name of a principal. -/
def IsQualifier (rest : List Char) : Prop := ∀ c ∈ rest.head?, c ∈ categorySeparators

/-! ### Membership -/

theorem isQualifier_nil : IsQualifier [] := by
  intro c hc
  cases hc

theorem isQualifier_cons {c : Char} {rest : List Char} :
    IsQualifier (c :: rest) ↔ c ∈ categorySeparators := by
  simp [IsQualifier]

theorem IsQualifier.append {a b : List Char} (ha : IsQualifier a) (hb : IsQualifier b) :
    IsQualifier (a ++ b) := by
  cases a with
  | nil => exact hb
  | cons c a => exact isQualifier_cons.mpr (isQualifier_cons.mp ha)

theorem IsQualifier.front {a b : List Char} (h : IsQualifier (a ++ b)) : IsQualifier a := by
  cases a with
  | nil => exact isQualifier_nil
  | cons c a => exact isQualifier_cons.mpr (isQualifier_cons.mp h)

/-- A principal in a category starts with its name and goes on from there with a separator, if
it goes on. -/
theorem inCategory_iff_exists {principal category : String} :
    InCategory principal category ↔
      ∃ rest, principal.toList = category.toList ++ rest ∧ IsQualifier rest := by
  rw [InCategory, PrincipalConstraint.admits, belongs]
  constructor
  · intro h
    split at h
    · rename_i hafter
      exact ⟨[], after?_eq_some_iff.mp hafter, isQualifier_nil⟩
    · rename_i c rest hafter
      exact ⟨c :: rest, after?_eq_some_iff.mp hafter, isQualifier_cons.mpr (by simpa using h)⟩
    · cases h
  · rintro ⟨rest, hrest, hq⟩
    rw [after?_eq_some_iff.mpr hrest]
    cases rest with
    | nil => rfl
    | cons c rest => simpa using isQualifier_cons.mp hq

theorem toList_push_append (s : String) (c : Char) (rest : String) :
    (s.push c ++ rest).toList = s.toList ++ c :: rest.toList := by
  simp

/-- **A principal is in a category** if it has the category's name, or if the name goes on with a
separator. -/
theorem inCategory_iff {principal category : String} :
    InCategory principal category ↔ principal = category ∨
      ∃ separator ∈ ['-', ':', '/'], ∃ rest, principal = category.push separator ++ rest := by
  rw [inCategory_iff_exists]
  constructor
  · rintro ⟨rest, hrest, hq⟩
    cases rest with
    | nil => exact .inl (String.toList_inj.mp (by simpa using hrest))
    | cons c rest =>
      refine .inr ⟨c, isQualifier_cons.mp hq, String.ofList rest, String.toList_inj.mp ?_⟩
      rw [hrest, toList_push_append, String.toList_ofList]
  · rintro (rfl | ⟨separator, hseparator, rest, rfl⟩)
    · exact ⟨[], by simp, isQualifier_nil⟩
    · exact ⟨separator :: rest.toList, toList_push_append .., isQualifier_cons.mpr hseparator⟩

/-- A category stands in front of all its principals. -/
theorem InCategory.front {principal category : String} (h : InCategory principal category) :
    category.toList <+: principal.toList := by
  obtain ⟨rest, hrest, -⟩ := inCategory_iff_exists.mp h
  exact ⟨rest, hrest.symm⟩

/-- A name that goes on without a separator is another name. -/
theorem not_inCategory_of_notMem {separator : Char} (h : separator ∉ ['-', ':', '/'])
    (category rest : String) : ¬InCategory (category.push separator ++ rest) category := by
  intro hin
  obtain ⟨back, hback, hq⟩ := inCategory_iff_exists.mp hin
  rw [toList_push_append, List.append_cancel_left_eq] at hback
  rw [← hback] at hq
  exact h (isQualifier_cons.mp hq)

/-! ### The forest -/

theorem inCategory_refl (principal : String) : InCategory principal principal :=
  inCategory_iff.mpr (.inl rfl)

theorem InCategory.trans {a b c : String} (hab : InCategory a b) (hbc : InCategory b c) :
    InCategory a c := by
  obtain ⟨x, hx, hxq⟩ := inCategory_iff_exists.mp hab
  obtain ⟨y, hy, hyq⟩ := inCategory_iff_exists.mp hbc
  exact inCategory_iff_exists.mpr ⟨y ++ x, by rw [hx, hy, List.append_assoc], hyq.append hxq⟩

theorem InCategory.antisymm {a b : String} (hab : InCategory a b) (hba : InCategory b a) : a = b :=
  String.toList_inj.mp (hba.front.eq_of_length_le hab.front.length_le)

/-- Of two categories of a principal the longer one goes on from the shorter one as the
principal does. -/
theorem InCategory.comparable {a b c : String} (hb : InCategory a b) (hc : InCategory a c) :
    InCategory b c ∨ InCategory c b := by
  obtain ⟨x, hx, hxq⟩ := inCategory_iff_exists.mp hb
  obtain ⟨y, hy, hyq⟩ := inCategory_iff_exists.mp hc
  rcases List.append_eq_append_iff.mp (hx.symm.trans hy) with ⟨t, hct, rfl⟩ | ⟨t, hbt, rfl⟩
  · exact .inr (inCategory_iff_exists.mpr ⟨t, hct, hxq.front⟩)
  · exact .inl (inCategory_iff_exists.mpr ⟨t, hbt, hyq.front⟩)

theorem forest_inCategory : Forest InCategory where
  refl := inCategory_refl
  trans := InCategory.trans
  antisymm := InCategory.antisymm
  comparable := InCategory.comparable

/-! ### Rules about categories -/

/-- A rule about a category applies to the principals of the categories below it. -/
theorem applies_of_inCategory {r : Rule} {category sub : String} {q : Request}
    (hr : r.principal = .category category) (hsub : InCategory sub category)
    (hq : InCategory q.principal sub) (ha : r.action.admits q.action = true) :
    r.applies q = true := by
  have hprincipal : r.principal.admits q.principal = true := by
    rw [hr]
    exact hq.trans hsub
  rw [Rule.applies, hprincipal, ha]
  rfl

/-- **Categories form a forest.** A principal is in a category if it has the category's name or
goes on from it with a separator; what starts otherwise, or goes on with another character, is
not. A rule about a category speaks for the principals of every category below it: a forbid denies
what they ask for, and a permit opens unless some forbid applies. -/
theorem categories_form_forest :
    (∀ principal category, InCategory principal category ↔ principal = category ∨
      ∃ separator ∈ ['-', ':', '/'], ∃ rest, principal = category.push separator ++ rest) ∧
    Forest InCategory ∧
    (∀ principal category, ¬category.toList <+: principal.toList →
      ¬InCategory principal category) ∧
    (∀ category c rest, c ∉ ['-', ':', '/'] → ¬InCategory (category.push c ++ rest) category) ∧
    ∀ (rules : List Rule) (r : Rule) (category sub : String) (q : Request), r ∈ rules →
      r.principal = .category category → InCategory sub category → InCategory q.principal sub →
      r.action.admits q.action = true →
        (r.effect = .forbid → evaluate rules q = .deny) ∧
        (r.effect = .permit → (evaluate rules q = .permit ↔ ¬Speaks .forbid rules q)) := by
  refine ⟨fun _ _ => inCategory_iff, forest_inCategory, ?_, ?_, ?_⟩
  · exact fun principal category hfront hin => hfront hin.front
  · exact fun category c rest hc => not_inCategory_of_notMem hc category rest
  · intro rules r category sub q hr hcategory hsub hq haction
    have happlies := applies_of_inCategory hcategory hsub hq haction
    refine ⟨fun heffect => evaluate_of_forbid hr heffect happlies, fun heffect => ?_⟩
    rw [evaluate_permit_iff]
    exact and_iff_right ⟨r, hr, heffect, happlies⟩

/-- A forbid about `ops` bars a principal of the category `ops/eu`, and says nothing of
`opsroom`. -/
theorem categories_form_forest_region :
    let bar : Rule := ⟨"bar", .forbid, .category "ops", .unconstrained, 1⟩
    let opens : Rule := ⟨"opens", .permit, .unconstrained, .unconstrained, 2⟩
    let alice : Request := ⟨"pay", "ops/eu-alice", "vault", "teller"⟩
    let bob : Request := ⟨"pay", "opsroom", "vault", "teller"⟩
    InCategory "ops/eu" "ops" ∧ InCategory "ops/eu-alice" "ops/eu" ∧
      InCategory "ops/eu-alice" "ops" ∧ ¬InCategory "opsroom" "ops" ∧
      evaluate [opens, bar] alice = .deny ∧ evaluate [opens, bar] bob = .permit := by
  intro bar opens alice bob
  obtain ⟨hiff, hforest, -, hlookalike, hrules⟩ := categories_form_forest
  have hregion : InCategory "ops/eu" "ops" := (hiff _ _).mpr (.inr ⟨'/', by decide, "eu", rfl⟩)
  have halice : InCategory "ops/eu-alice" "ops/eu" :=
    (hiff _ _).mpr (.inr ⟨'-', by decide, "alice", rfl⟩)
  refine ⟨hregion, halice, hforest.trans halice hregion, ?_, ?_, by decide⟩
  · exact hlookalike "ops" 'r' "oom" (by decide)
  · exact (hrules [opens, bar] bar "ops" "ops/eu" alice (by simp) rfl hregion halice rfl).1 rfl

end Portcullis.Policy
