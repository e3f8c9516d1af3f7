import Portcullis.Policy.Evaluation

/-! Why a request is decided as it is.

An explanation is built while the rules are scanned: every permit that applies adds its name
and the first of them is kept, and a forbid replaces what was kept and ends the scan. Rules
that do not apply leave no trace (`scan_applying`), so an explanation can be read off the rules
that do: the first forbid among them with all that stand in front of it, or, if there is none,
the first permit with all the others (`explain_applying`). -/
namespace Portcullis.Policy

/-- The rules that apply to a request, in order. -/
def applying (rules : List Rule) (q : Request) : List Rule := rules.filter fun r => r.applies q

theorem applying_cons_of_applies {r : Rule} {q : Request} (h : r.applies q = true)
    (rest : List Rule) : applying (r :: rest) q = r :: applying rest q :=
  List.filter_cons_of_pos h

theorem applying_cons_of_silent {r : Rule} {q : Request} (h : ¬r.applies q = true)
    (rest : List Rule) : applying (r :: rest) q = applying rest q :=
  List.filter_cons_of_neg h

theorem applies_of_mem_applying {rules : List Rule} {q : Request} {r : Rule}
    (h : r ∈ applying rules q) : r.applies q = true :=
  (List.mem_filter.mp h).2

/-- Rules that do not apply are not heard. -/
theorem scan_applying (sofar : Evaluation) (q : Request) (rules : List Rule) :
    sofar.scan q (applying rules q) = sofar.scan q rules := by
  induction rules generalizing sofar with
  | nil => rfl
  | cons r rest ih =>
    by_cases ha : r.applies q = true
    · rw [applying_cons_of_applies ha, Evaluation.scan, Evaluation.scan, if_pos ha, if_pos ha]
      cases r.effect with
      | permit => exact ih _
      | forbid => rfl
    · rw [applying_cons_of_silent ha, Evaluation.scan, if_neg ha]
      exact ih sofar

/-- What is known once permits have been heard: the first determines the decision, unless a
rule was heard before it. -/
def Evaluation.heardPermits (sofar : Evaluation) : List Rule → Evaluation
  | [] => sofar
  | first :: others =>
    ⟨.permit, sofar.determiningRule.or (some first.id),
      sofar.matched ++ (first :: others).map Rule.id⟩

/-- The names heard are added behind those heard before. -/
theorem matched_heardPermits (sofar : Evaluation) (permits : List Rule) :
    (sofar.heardPermits permits).matched = sofar.matched ++ permits.map Rule.id := by
  cases permits with
  | nil => exact (List.append_nil _).symm
  | cons first others => rfl

/-- Permits are heard one after the other as they are heard together. -/
theorem heardPermits_cons (sofar : Evaluation) (first : Rule) (others : List Rule) :
    sofar.heardPermits (first :: others) = (sofar.heardPermits [first]).heardPermits others := by
  cases others with
  | nil => rfl
  | cons next others =>
    -- Once a rule determines the decision, no later permit does.
    cases sofar.determiningRule <;> simp [Evaluation.heardPermits]

/-- A scan passes the permits that stand in front. -/
theorem scan_permits {permits : List Rule} {q : Request}
    (ha : ∀ r ∈ permits, r.applies q = true) (hp : ∀ r ∈ permits, r.effect = .permit)
    (sofar : Evaluation) (rest : List Rule) :
    sofar.scan q (permits ++ rest) = (sofar.heardPermits permits).scan q rest := by
  induction permits generalizing sofar with
  | nil => rfl
  | cons first others ih =>
    obtain ⟨hfirst, hothers⟩ := List.forall_mem_cons.mp ha
    obtain ⟨heffect, hpermits⟩ := List.forall_mem_cons.mp hp
    rw [List.cons_append, Evaluation.scan, if_pos hfirst, heffect, heardPermits_cons]
    exact ih hothers hpermits _

theorem Effect.eq_permit {e : Effect} (h : e ≠ .forbid) : e = .permit := by
  cases e with
  | permit => rfl
  | forbid => exact absurd rfl h

/-- **An explanation names exactly the rules that decided.** If a forbid applies, the first that
does determines a denial, and matched are the rules that apply up to it. If permits apply and no
forbid does, the first permit determines the decision and all of them are matched. If no rule
applies, no rule is named. -/
theorem explain_applying (rules : List Rule) (q : Request) :
    (∀ bar, (applying rules q).find? (fun r => r.effect = .forbid) = some bar →
      explain rules q =
        ⟨.deny, some bar.id,
          ((applying rules q).takeWhile (fun r => r.effect = .permit) ++ [bar]).map Rule.id⟩) ∧
    ((applying rules q).find? (fun r => r.effect = .forbid) = none →
      ∀ first ∈ (applying rules q).head?,
        explain rules q = ⟨.permit, some first.id, (applying rules q).map Rule.id⟩) ∧
    (applying rules q = [] → explain rules q = ⟨.deny, none, []⟩) := by
  have hscan : explain rules q = Evaluation.denial.scan q (applying rules q) :=
    (scan_applying _ q rules).symm
  have happlies : ∀ r ∈ applying rules q, r.applies q = true := fun _ => applies_of_mem_applying
  generalize applying rules q = M at hscan happlies
  refine ⟨?_, ?_, ?_⟩
  · intro bar hfind
    obtain ⟨hbar, permits, rest, rfl, hfront⟩ := List.find?_eq_some_iff_append.mp hfind
    have hbar : bar.effect = .forbid := by simpa using hbar
    have hpermits : ∀ r ∈ permits, r.effect = .permit :=
      fun r hr => Effect.eq_permit (by simpa using hfront r hr)
    have htake : (permits ++ bar :: rest).takeWhile (fun r => r.effect = .permit) = permits := by
      rw [List.takeWhile_append_of_pos (by simpa using hpermits),
        List.takeWhile_cons_of_neg (by simp [hbar]), List.append_nil]
    rw [hscan, htake, scan_permits (fun r hr => happlies r (List.mem_append_left _ hr)) hpermits,
      Evaluation.scan, if_pos (happlies bar (by simp)), hbar, List.map_append]
    exact congrArg _ (congrArg (· ++ [bar.id]) (matched_heardPermits .denial permits))
  · intro hfind first hfirst
    have hpermits : ∀ r ∈ M, r.effect = .permit :=
      fun r hr => Effect.eq_permit (by simpa using List.find?_eq_none.mp hfind r hr)
    have hall := scan_permits happlies hpermits .denial []
    rw [List.append_nil] at hall
    rw [hscan, hall]
    cases M with
    | nil => cases hfirst
    | cons head others =>
      obtain rfl : head = first := by simpa using hfirst
      rfl
  · rintro rfl
    exact hscan

/-- Two permits of the same name and a forbid between them. Where the forbid applies, the permit
behind it is not heard. -/
theorem explain_applying_repeated :
    let opens : Rule := ⟨"policy0", .permit, .unconstrained, .single "read", 1⟩
    let bar : Rule := ⟨"bar", .forbid, .exact "eve", .unconstrained, 2⟩
    let again : Rule := ⟨"policy0", .permit, .unconstrained, .unconstrained, 3⟩
    let eve : Request := ⟨"read", "eve", "ledger", "clerk"⟩
    let bob : Request := ⟨"read", "bob", "ledger", "clerk"⟩
    applying [opens, bar, again] eve = [opens, bar, again] ∧
      explain [opens, bar, again] eve = ⟨.deny, some "bar", ["policy0", "bar"]⟩ ∧
      applying [opens, bar, again] bob = [opens, again] ∧
      explain [opens, bar, again] bob = ⟨.permit, some "policy0", ["policy0", "policy0"]⟩ ∧
      applying [bar] bob = [] ∧ explain [bar] bob = ⟨.deny, none, []⟩ := by
  intro opens bar again eve bob
  have heve : applying [opens, bar, again] eve = [opens, bar, again] := by decide
  have hbob : applying [opens, bar, again] bob = [opens, again] := by decide
  have hnone : applying [bar] bob = [] := by decide
  obtain ⟨hdeny, -, -⟩ := explain_applying [opens, bar, again] eve
  obtain ⟨-, hpermit, -⟩ := explain_applying [opens, bar, again] bob
  obtain ⟨-, -, hdenial⟩ := explain_applying [bar] bob
  rw [heve] at hdeny
  rw [hbob] at hpermit
  exact ⟨heve, hdeny bar rfl, hbob, hpermit rfl opens rfl, hnone, hdenial hnone⟩

end Portcullis.Policy
