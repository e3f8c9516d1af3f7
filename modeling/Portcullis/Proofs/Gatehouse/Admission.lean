import Portcullis.Proofs.Gatehouse.Proceeding
import Portcullis.Proofs.Policy.Places
import Portcullis.Proofs.Policy.Tracing

/-! What is turned away at the gate has nothing in it.

Before a policy is read it is searched for an opener, in comments, literals and across line
breaks too. A reader looks line by line, without comments, and from where it stands. Still the
search never contradicts the reader: whatever a reader finds starts with an opener on one line,
and what stands on a line stands in the text (`Layout.opensStatement`). So a text without an
opener leaves an empty report, and no other text is turned away (`admission_agrees`). -/
namespace Portcullis
open Text

namespace Policy

/-- An opener stands in a text if the text has a word, blanks and a parenthesis somewhere. -/
theorem containsOpener_iff_exists {text : List Char} :
    containsOpener text = true ↔ ∃ before effect gap rest, allBlank gap = true ∧
      text = before ++ (Effect.word effect ++ (gap ++ '(' :: rest)) := by
  induction text with
  | nil =>
    constructor
    · intro h
      cases h
    · rintro ⟨before, effect, gap, rest, -, h⟩
      simp at h
  | cons c text ih =>
    rw [containsOpener, Bool.or_eq_true, ih, Option.isSome_iff_exists]
    constructor
    · rintro (⟨⟨effect, rest⟩, ho⟩ | ⟨before, effect, gap, rest, hg, rfl⟩)
      · obtain ⟨gap, hg, htext⟩ := opener?_eq_some_iff.mp ho
        exact ⟨[], effect, gap, rest, hg, htext⟩
      · exact ⟨c :: before, effect, gap, rest, hg, rfl⟩
    · rintro ⟨before, effect, gap, rest, hg, htext⟩
      cases before with
      | nil => exact .inl ⟨⟨effect, rest⟩, opener?_eq_some_iff.mpr ⟨gap, hg, htext⟩⟩
      | cons d before =>
        obtain ⟨rfl, rfl⟩ := List.cons.inj htext
        exact .inr ⟨before, effect, gap, rest, hg, rfl⟩

/-- An opener in a piece of a text is one in the text. -/
theorem containsOpener_of_infix {piece text : List Char} (hp : piece <:+: text)
    (h : containsOpener piece = true) : containsOpener text = true := by
  obtain ⟨front, back, rfl⟩ := hp
  obtain ⟨before, effect, gap, rest, hg, rfl⟩ := containsOpener_iff_exists.mp h
  exact containsOpener_iff_exists.mpr ⟨front ++ before, effect, gap, rest ++ back, hg, by simp⟩

section
variable {document : String} {statements : List Statement}

/-- **A document in which a statement opens is one in which an opener is found.** -/
theorem Layout.opensStatement (h : Layout document statements) (hne : statements ≠ []) :
    opensStatement document = true := by
  obtain ⟨s, hs⟩ := List.exists_mem_of_ne_nil statements hne
  obtain ⟨hfirst, hlast⟩ := h.within hs
  obtain ⟨n, hn⟩ : ∃ n, s.place = n + 1 := ⟨s.place - 1, by omega⟩
  obtain ⟨raw, hraw⟩ : ∃ raw, (lines document.toList)[n]? = some raw :=
    ⟨_, List.getElem?_eq_getElem (by omega)⟩
  have hcount : 0 < statements.countP fun s => s.place = n + 1 :=
    List.countP_pos_iff.mpr ⟨s, hs, decide_eq_true hn⟩
  have hline : containsOpener (withoutComment raw) = true :=
    (containsOpener_iff _).mpr (Nat.lt_of_lt_of_le hcount (h.countP_le hraw))
  have hfront : withoutComment raw <:+: raw := (withoutCommentFrom_front .outside raw).isInfix
  have hmem : raw ∈ lines document.toList := List.mem_of_getElem? hraw
  exact containsOpener_of_infix (hfront.trans (infix_of_mem_lines hmem)) hline

end

/-- A text that opens no statement anywhere leaves nothing to report. -/
theorem report_of_opensNothing {document : String} (h : opensStatement document = false) :
    report document = ⟨[], []⟩ := by
  obtain ⟨statements, hlayout, hps⟩ := passages_layout document
  have hnil : statements = [] := by
    cases statements with
    | nil => rfl
    | cons s others =>
      rw [hlayout.opensStatement (List.cons_ne_nil s others)] at h
      cases h
  rw [report_of_passages hps, hnil]
  rfl

end Policy

/-- An operation that hands in a policy is not turned away at the gate: if the sink keeps the
registration, the policy is its agent's active one, and if the operation fails, that is the sink's
answer. -/
structure Operation.Admitted {σ : Type} (S : Audit.Sink σ) (g : Gatehouse σ) (now : Moments)
    (op : Operation) (s : Submission) : Prop where
  kept : (S.record g.sink (s.entry now.entered)).1 = .kept →
    (op.perform S g now).outcome = .done (.record (s.toRecord now.made)) ∧
      (op.perform S g now).after.registry.get? s.agentId = some (s.toRecord now.made)
  failed : ∀ failure, (op.perform S g now).outcome = .failed failure →
    (S.record g.sink (s.entry now.entered)).1 = .refused failure

/-- A policy whose text opens a statement is admitted. -/
theorem Operation.admitted_of_opens {σ : Type} (S : Audit.Sink σ) (g : Gatehouse σ)
    (now : Moments) {op : Operation} {s : Submission} (hs : op.errand = .register s)
    (ho : Policy.opensStatement s.text = true) : op.Admitted S g now s := by
  rcases (op.proceeds S g now).of_submission hs with
    ⟨hclosed, -⟩ | ⟨-, ⟨hr, hdone, hactive⟩ | ⟨failure, hr, hfailed⟩ | ⟨hr, hbroke⟩⟩
  · rw [ho] at hclosed
    cases hclosed
  · refine ⟨fun _ => ⟨hdone, ?_⟩, fun failure hfailed => ?_⟩
    · exact (congrFun hactive s.agentId).trans (if_pos rfl)
    · rw [hdone] at hfailed
      cases hfailed
  · refine ⟨fun hkept => ?_, fun failure' hfailed' => ?_⟩
    · rw [hr] at hkept
      cases hkept
    · rw [hfailed] at hfailed'
      cases hfailed'
      exact hr
  · refine ⟨fun hkept => ?_, fun failure hfailed => ?_⟩
    · rw [hr] at hkept
      cases hkept
    · rw [hbroke] at hfailed
      cases hfailed

/-- **The gate never contradicts the reader.** A text in which no opener is found leaves no rule
and nothing discarded. So a document that leaves either is accepted if the sink keeps its
registration, and then is its agent's active policy; if it is not accepted, that was the sink's
answer. This is so whether its author hands it in or a generator made it, and however else it is
handed in. -/
theorem admission_agrees (document : String) :
    (Policy.opensStatement document = false →
      (Policy.report document).rules = [] ∧ (Policy.report document).discarded = []) ∧
    ((Policy.report document).rules ≠ [] ∨ (Policy.report document).discarded ≠ [] →
      ∀ {σ : Type} (S : Audit.Sink σ) (g : Gatehouse σ) (now : Moments),
        (∀ agentId context, (Operation.put agentId document context).Admitted S g now
          ⟨agentId, document, context, .registered⟩) ∧
        (∀ agentId rationale tier context,
          (Operation.putGenerated agentId ⟨document, rationale, tier⟩ context).Admitted S g now
            ⟨agentId, document, context, .generated rationale tier⟩) ∧
        ∀ (op : Operation) (s : Submission), op.errand = .register s → s.text = document →
          op.Admitted S g now s) := by
  refine ⟨fun h => by rw [Policy.report_of_opensNothing h]; exact ⟨rfl, rfl⟩, ?_⟩
  intro hreport σ S g now
  have hopens : Policy.opensStatement document = true := by
    -- Otherwise there were nothing in the report.
    cases ho : Policy.opensStatement document with
    | true => rfl
    | false =>
      rw [Policy.report_of_opensNothing ho] at hreport
      rcases hreport with hrules | hdiscarded
      · exact absurd rfl hrules
      · exact absurd rfl hdiscarded
  refine ⟨fun agentId context => ?_, fun agentId rationale tier context => ?_, ?_⟩
  · exact Operation.admitted_of_opens S g now rfl hopens
  · exact Operation.admitted_of_opens S g now rfl hopens
  · intro op s hs htext
    exact Operation.admitted_of_opens S g now hs (htext ▸ hopens)

/-- A document that leaves no rule, for its one statement is never closed, is taken even so: from
its author, and from a generator that calls it critical. -/
theorem admission_agrees_unclosed :
    let document := "// a draft" ++ "\n" ++ "permit(principal, action"
    let context : SourceContext := ⟨"serve", .basic, []⟩
    let g : Gatehouse Unit := .opening ()
    let put : Operation := .put "clerk" document context
    let putGenerated : Operation := .putGenerated "clerk" ⟨document, "drafted", .critical⟩ context
    ((Policy.report document).rules = [] ∧ (Policy.report document).discarded ≠ []) ∧
      (put.perform .none g .epoch).outcome =
        .done (.record ⟨"clerk", [], document, .epoch, context, .registered⟩) ∧
      (putGenerated.perform .none g .epoch).outcome =
        .done (.record ⟨"clerk", [], document, .epoch, context, .generated "drafted" .critical⟩) := by
  intro document context g put putGenerated
  have hrules : (Policy.report document).rules = [] := by decide +kernel
  have hdiscarded : (Policy.report document).discarded ≠ [] := by decide +kernel
  obtain ⟨hput, hgenerated, -⟩ :=
    (admission_agrees document).2 (.inr hdiscarded) .none g .epoch
  have hrecord : ∀ provenance, Submission.toRecord ⟨"clerk", document, context, provenance⟩ .epoch =
      ⟨"clerk", [], document, .epoch, context, provenance⟩ := by
    intro provenance
    rw [Submission.toRecord, Policy.rules, hrules]
  have hauthor := ((hput "clerk" context).kept rfl).1
  have hmade := ((hgenerated "clerk" "drafted" .critical context).kept rfl).1
  exact ⟨⟨hrules, hdiscarded⟩, hauthor.trans (by rw [← hrecord]; rfl),
    hmade.trans (by rw [← hrecord]; rfl)⟩

end Portcullis
