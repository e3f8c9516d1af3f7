import Portcullis.Proofs.Gatehouse
import Portcullis.Proofs.Policy.Precedence
import Portcullis.Proofs.Policy.Resynchronisation
import Portcullis.Proofs.Policy.Writing

/-! A forbid that stands on a line of its own is in force, whatever stands around it.

The opener brings any reader back, the statement ends on its line, and the forbid behind it
ends every scan that reaches it. So no text before or after it can keep it from denying. -/
namespace Portcullis.Policy
open Text

/-- **The text around a forbid cannot disarm it.** Its rule stands behind those of the text in
front of it. What both its constraints admit is denied under the rules of the whole text, and
by every gatehouse that took the text, as long as that is the agent's active policy. -/
theorem forbid_in_force {before line after : String} {principal : PrincipalConstraint}
    {action : ActionConstraint} (hb : EndsLine before.toList)
    (hl : StatementLine .forbid principal action line.toList) (ha : StartsBreak after.toList) :
    (rules (before ++ line ++ after))[(rules before).length]? =
        some ⟨(nameLeft before).getD (placeName (rules before).length), .forbid, principal, action,
          lineCount before + 1⟩ ∧
      ∀ q, principal.admits q.principal = true → action.admits q.action = true →
        evaluate (rules (before ++ line ++ after)) q = .deny ∧
        ∀ {σ : Type} (S : Audit.Sink σ) (g : Gatehouse σ) (now : Moments) (s : Submission)
          (record : PolicyRecord), s.text = before ++ line ++ after →
          (g.register S now s).outcome = .done record →
          (g.register S now s).after.registry.get? s.agentId = some record ∧
            ∀ (later : Gatehouse σ) (hour : Moments),
              later.registry.get? s.agentId = some record → later.Denies S hour s.agentId q := by
  have hrules := rules_append hb (.inl (opensFirst_statementLine hl ha))
  obtain ⟨rest, hdrafts⟩ := drafts_statementLine hl ha (nameLeft before)
  have hrule : (rules (before ++ line ++ after))[(rules before).length]? =
      some ⟨(nameLeft before).getD (placeName (rules before).length), .forbid, principal, action,
        lineCount before + 1⟩ := by
    rw [String.append_assoc, hrules, hdrafts, List.getElem?_append_right (Nat.le_refl _), Nat.sub_self,
      UInt64.add_comm]
    rfl
  refine ⟨hrule, ?_⟩
  intro q hp hq
  have hdeny : evaluate (rules (before ++ line ++ after)) q = .deny := by
    apply evaluate_of_forbid (List.mem_of_getElem? hrule) rfl
    rw [Rule.applies, hp, hq]
    rfl
  refine ⟨hdeny, ?_⟩
  intro σ S g now s record htext hdone
  obtain ⟨rfl, hactive⟩ := Gatehouse.register_done hdone
  refine ⟨hactive, ?_⟩
  intro later hour hlater
  -- The record was read from the text once, when the submission was taken.
  apply Gatehouse.denies_of_get? hlater
  show evaluate (rules s.text) q = .deny
  rw [htext]
  exact hdeny

/-- A policy that permits everything to everybody, twice, with a forbid in between. In front of
the forbid a line leaves a literal and a list open. -/
def besieged : Submission where
  agentId := "teller"
  text := "permit(principal, action, resource);\npermit(principal in [Bank::\"eve, action" ++ "\n" ++
    "forbid(principal, action == Bank::\"pay\", resource);" ++
    "\npermit(principal, action, resource);\n) // \""
  context := ⟨"serve", .basic, []⟩
  provenance := .registered

/-- A gatehouse takes the besieged policy and denies what the forbid in it is about. What it is not
about is permitted. -/
theorem forbid_in_force_besieged :
    let before := "permit(principal, action, resource);\npermit(principal in [Bank::\"eve, action"
    let line := "forbid(principal, action == Bank::\"pay\", resource);"
    let after := "\npermit(principal, action, resource);\n) // \""
    let step := (Gatehouse.opening ()).register .none .epoch besieged
    (EndsLine (before ++ "\n").toList ∧
      StatementLine .forbid .unconstrained (.single "pay") line.toList ∧
      StartsBreak after.toList) ∧
    step.outcome = .done (besieged.toRecord .epoch) ∧
    evaluate (rules besieged.text) ⟨"read", "eve", "vault", "teller"⟩ = .permit ∧
    evaluate (rules besieged.text) ⟨"pay", "eve", "vault", "teller"⟩ = .deny ∧
    step.after.Denies .none .epoch "teller" ⟨"pay", "eve", "vault", "teller"⟩ := by
  intro before line after step
  let bank : Path := .word ['B', 'a', 'n', 'k'] (.of_all (by decide) (by decide))
  let bar : Rule := ⟨"", .forbid, .unconstrained, .single "pay", 0⟩
  have hb : EndsLine (before ++ "\n").toList := endsLine_newline before
  have hl : StatementLine .forbid .unconstrained (.single "pay") line.toList := by
    show StatementLine _ _ _ "forbid(principal, action == Bank::\"pay\", resource);".toList
    exact bar.statementLine bank bank
  have ha : StartsBreak after.toList := by
    show StartsBreak "\npermit(principal, action, resource);\n) // \"".toList
    exact .inr (.inl ⟨_, rfl⟩)
  have hopens : opensStatement besieged.text = true := by decide +kernel
  have hpermit : evaluate (rules besieged.text) ⟨"read", "eve", "vault", "teller"⟩ = .permit := by
    decide +kernel
  obtain ⟨-, hforce⟩ := forbid_in_force hb hl ha
  obtain ⟨hdeny, hstore⟩ := hforce ⟨"pay", "eve", "vault", "teller"⟩ (by decide) (by decide)
  have hdone : step.outcome = .done (besieged.toRecord .epoch) := by
    show ((Gatehouse.opening ()).register .none .epoch besieged).outcome = _
    rw [Gatehouse.register, if_pos hopens]
    rfl
  obtain ⟨hactive, hdenies⟩ := hstore _ _ _ besieged _ rfl hdone
  exact ⟨⟨hb, hl, ha⟩, hdone, hpermit, hdeny, hdenies _ _ hactive⟩

end Portcullis.Policy
