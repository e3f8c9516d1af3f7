import Portcullis.Policy.Evaluation

/-! What a decision depends on.

Rules are scanned in order and the scan stops at the first forbid that applies. The decision
knows nothing of that: it asks whether some permit applies and no forbid does
(`evaluate_permit_iff`), so it is the same for all lists in which the same rules apply. -/
namespace Portcullis.Policy

/-- Some rule of an effect applies to a request. -/
def Speaks (effect : Effect) (rules : List Rule) (q : Request) : Prop :=
  ∃ r ∈ rules, r.effect = effect ∧ r.applies q = true

theorem speaks_nil (effect : Effect) (q : Request) : ¬Speaks effect [] q := by
  rintro ⟨r, hr, -⟩
  cases hr

theorem speaks_cons (effect : Effect) (r : Rule) (rest : List Rule) (q : Request) :
    Speaks effect (r :: rest) q ↔ (r.effect = effect ∧ r.applies q = true) ∨ Speaks effect rest q := by
  simp [Speaks]

/-- Lists in which the same rules apply say the same. -/
theorem speaks_congr {a b : List Rule} {q : Request}
    (h : ∀ r, r.applies q = true → (r ∈ a ↔ r ∈ b)) (effect : Effect) :
    Speaks effect a q ↔ Speaks effect b q := by
  constructor
  · rintro ⟨r, hr, he, ha⟩
    exact ⟨r, (h r ha).mp hr, he, ha⟩
  · rintro ⟨r, hr, he, ha⟩
    exact ⟨r, (h r ha).mpr hr, he, ha⟩

/-- The scan has opened the gate, or opens it later, and no forbid comes in the way. -/
theorem scan_permit_iff (sofar : Evaluation) (q : Request) (rules : List Rule) :
    (sofar.scan q rules).decision = .permit ↔
      (sofar.decision = .permit ∨ Speaks .permit rules q) ∧ ¬Speaks .forbid rules q := by
  induction rules generalizing sofar with
  | nil => simp [Evaluation.scan, speaks_nil]
  | cons r rest ih =>
    rw [Evaluation.scan, speaks_cons, speaks_cons]
    by_cases ha : r.applies q = true
    · rw [if_pos ha]
      cases he : r.effect with
      | permit => simp [ih, ha]
      | forbid => simp [ha]
    · rw [if_neg ha, ih]
      simp [ha]

/-- **A request is permitted if and only if some permit applies and no forbid does.** -/
theorem evaluate_permit_iff (rules : List Rule) (q : Request) :
    evaluate rules q = .permit ↔ Speaks .permit rules q ∧ ¬Speaks .forbid rules q := by
  rw [evaluate, explain, scan_permit_iff]
  simp [Evaluation.denial]

theorem evaluate_deny_iff (rules : List Rule) (q : Request) :
    evaluate rules q = .deny ↔ ¬(Speaks .permit rules q ∧ ¬Speaks .forbid rules q) := by
  rw [← evaluate_permit_iff]
  cases evaluate rules q <;> simp

/-- A forbid that applies is the last word, wherever it stands. -/
theorem evaluate_of_forbid {rules : List Rule} {r : Rule} {q : Request} (hr : r ∈ rules)
    (he : r.effect = .forbid) (ha : r.applies q = true) : evaluate rules q = .deny :=
  (evaluate_deny_iff rules q).mpr fun h => h.2 ⟨r, hr, he, ha⟩

/-- Only which rules apply counts, not where they stand or how often. -/
theorem evaluate_congr {a b : List Rule} {q : Request}
    (h : ∀ r, r.applies q = true → (r ∈ a ↔ r ∈ b)) : evaluate a q = evaluate b q := by
  have hiff : evaluate a q = .permit ↔ evaluate b q = .permit := by
    rw [evaluate_permit_iff, evaluate_permit_iff, speaks_congr h, speaks_congr h]
  cases ha : evaluate a q with
  | permit => exact (hiff.mp ha).symm
  | deny =>
    cases hb : evaluate b q with
    | permit => rw [hiff.mpr hb] at ha; cases ha
    | deny => rfl

/-- A rule that does not apply may be put in or taken out. -/
theorem evaluate_silent {r : Rule} {q : Request} (h : r.applies q = false)
    (before after : List Rule) :
    evaluate (before ++ r :: after) q = evaluate (before ++ after) q := by
  apply evaluate_congr
  intro s hs
  have hne : s ≠ r := by
    rintro rfl
    rw [h] at hs
    cases hs
  simp [hne]

/-- A rule may be said again. -/
theorem evaluate_again {r : Rule} {before after : List Rule} (h : r ∈ before ++ after)
    (q : Request) : evaluate (before ++ r :: after) q = evaluate (before ++ after) q := by
  apply evaluate_congr
  intro s _
  by_cases hs : s = r
  · subst hs
    simp only [h, iff_true]
    exact List.mem_append_right _ (List.mem_cons_self ..)
  · simp [hs]

/-- **Forbids come first, denial is the default, and order is nothing.** The decision is
permit if and only if some permit applies and no forbid does. Rules in another order, a rule
that does not apply and is put in or taken out anywhere, and any rule said twice leave the
decision as it is. -/
theorem evaluate_order_free (rules : List Rule) (q : Request) :
    (evaluate rules q = .permit ↔
      (∃ r ∈ rules, r.effect = .permit ∧ r.applies q = true) ∧
        ¬∃ r ∈ rules, r.effect = .forbid ∧ r.applies q = true) ∧
    (∀ others, others.Perm rules → evaluate others q = evaluate rules q) ∧
    (∀ r before after, r.applies q = false → rules = before ++ after →
      evaluate (before ++ r :: after) q = evaluate rules q) ∧
    (∀ r before after, r.applies q = false → rules = before ++ r :: after →
      evaluate (before ++ after) q = evaluate rules q) ∧
    (∀ r before after, r ∈ rules → rules = before ++ after →
      evaluate (before ++ r :: after) q = evaluate rules q) := by
  refine ⟨evaluate_permit_iff rules q, ?_, ?_, ?_, ?_⟩
  · intro others hperm
    apply evaluate_congr
    intro r _
    exact hperm.mem_iff
  · rintro r before after hr rfl
    exact evaluate_silent hr before after
  · rintro r before after hr rfl
    exact (evaluate_silent hr before after).symm
  · rintro r before after hr rfl
    exact evaluate_again hr q

/-- A forbid behind two permits is heard, and is heard in front of them. Who it is not about is
permitted in either order, and without it too. -/
theorem evaluate_order_free_late_forbid :
    let opens : Rule := ⟨"opens", .permit, .unconstrained, .single "read", 1⟩
    let other : Rule := ⟨"other", .permit, .unconstrained, .single "write", 2⟩
    let bar : Rule := ⟨"bar", .forbid, .exact "eve", .unconstrained, 3⟩
    let eve : Request := ⟨"read", "eve", "ledger", "clerk"⟩
    let ana : Request := ⟨"read", "ana", "ledger", "clerk"⟩
    ([bar, opens, other].Perm [opens, other, bar] ∧ other.applies eve = false ∧
      bar.applies ana = false ∧ opens ∈ [opens, other, bar]) ∧
      (evaluate [bar, opens, other] eve = .deny ∧ evaluate [opens, bar] eve = .deny ∧
        evaluate [opens, other, other, bar] eve = .deny ∧
        evaluate [opens, other, opens, bar] eve = .deny) ∧
      (evaluate [opens, other, bar] ana = .permit ∧ evaluate [bar, opens, other] ana = .permit ∧
        evaluate [opens, other] ana = .permit ∧
        evaluate [opens, other, bar, bar] ana = .permit ∧
        evaluate [opens, other, opens, bar] ana = .permit) := by
  intro opens other bar eve ana
  have hperm : [bar, opens, other].Perm [opens, other, bar] := by decide
  have hsilent : other.applies eve = false := by decide
  have hbar : bar.applies ana = false := by decide
  have hmem : opens ∈ [opens, other, bar] := by decide
  have hdeny : evaluate [opens, other, bar] eve = .deny := by decide
  obtain ⟨-, horder, hin, hout, hagain⟩ := evaluate_order_free [opens, other, bar] eve
  obtain ⟨hpermits, horder', hin', hout', hagain'⟩ := evaluate_order_free [opens, other, bar] ana
  have hpermit : evaluate [opens, other, bar] ana = .permit :=
    hpermits.mpr (by decide)
  refine ⟨⟨hperm, hsilent, hbar, hmem⟩, ⟨?_, ?_, ?_, ?_⟩, hpermit, ?_, ?_, ?_, ?_⟩
  · rw [horder _ hperm, hdeny]
  · rw [← hdeny]
    exact hout other [opens] [bar] hsilent rfl
  · rw [← hdeny]
    exact hin other [opens, other] [bar] hsilent rfl
  · rw [← hdeny]
    exact hagain opens [opens, other] [bar] hmem rfl
  · rw [horder' _ hperm, hpermit]
  · rw [← hpermit]
    exact hout' bar [opens, other] [] hbar rfl
  · rw [← hpermit]
    exact hin' bar [opens, other, bar] [] hbar rfl
  · rw [← hpermit]
    exact hagain' opens [opens, other] [bar] hmem rfl

end Portcullis.Policy
