import Portcullis.Proofs.Audit.Journal
import Portcullis.Proofs.Gatehouse.Submitting

/-! Policies on request, and what becomes of a generator's answer.

If the answer is no policy (`Delivery.Fails`), the gatehouse puts the reason on record and does
nothing else. If it is one (`Delivery.Delivers`), the policy is handed in as if the caller had done
so.

What a step offers its sink is told by a tally beside the sink, which lists all entries, kept or
refused (`Operation.offered`). The sink is any machine, so it may refuse what it likes. -/
namespace Portcullis

/-! ### What a sink is offered -/

namespace Audit

variable {σ : Type}

/-- A sink that takes or refuses every entry, and does not break off. -/
def Sink.Answers (S : Sink σ) : Prop := ∀ sink entry, (S.record sink entry).1 ≠ .broke

theorem Sink.Answers.tallied {S : Sink σ} (h : S.Answers) : S.tallied.Answers :=
  fun x entry => h x.1 entry

/-- A ledger that breaks off at nothing takes or refuses every entry. -/
theorem Sink.limited_answers (H : Digest) (capacity : Option Nat) (refuse : List String) :
    (Sink.limited H ⟨capacity, refuse, []⟩).Answers := by
  intro ledger entry
  rw [limited]
  dsimp only
  split
  · simp
  split
  · simp
  · simp

/-- A full ledger says so and stays as it is. -/
theorem Sink.limited_full (H : Digest) {limits : Limits} {ledger : Ledger} (entry : Entry)
    (h : limits.isFull ledger.accepted.length = true) :
    (Sink.limited H limits).record ledger entry =
      (.refused (.auditWriteFailed "disk full"), ledger) := by
  rw [limited]
  exact if_pos h

end Audit

variable {σ : Type}

/-- The gatehouse with an empty tally beside its sink. -/
def Gatehouse.tallying (g : Gatehouse σ) : Gatehouse (σ × List Audit.Entry) :=
  ⟨g.policies, g.sink, []⟩

/-- The entries that an operation offers the sink, in order. -/
def Operation.offered (S : Audit.Sink σ) (g : Gatehouse σ) (now : Moments) (op : Operation) :
    List Audit.Entry :=
  (op.perform S.tallied g.tallying now).after.sink.2

/-- What an operation comes to with a tally tells what it comes to without, and what it offers. -/
theorem Operation.of_tallied {S : Audit.Sink σ} {g : Gatehouse σ} {now : Moments} {op : Operation}
    {outcome : Outcome Answer} {after : Gatehouse (σ × List Audit.Entry)}
    (h : (op.perform S.tallied g.tallying now).outcome = outcome ∧
      (op.perform S.tallied g.tallying now).after = after) :
    (op.perform S g now).outcome = outcome ∧ (op.perform S g now).after = after.withoutJournal ∧
      op.offered S g now = after.sink.2 := by
  obtain ⟨rfl, rfl⟩ := h
  have hsame := Gatehouse.perform_beside S.tallied_beside g.tallying now op
  exact ⟨hsame.outcome.symm, hsame.after.symm, rfl⟩

/-! ### Requests for a policy -/

section
variable {S : Audit.Sink σ} {G : Generator} {agentId : String} {context : SourceContext}

/-- A failure is put on record, and that is all. -/
theorem Generator.fail_eq (hS : S.Answers) (g : Gatehouse σ) (now : Moments)
    (agentId reason : String) :
    (fail S g now agentId reason).outcome = .failed (.generationFailed reason) ∧
      (fail S g now agentId reason).after =
        ⟨g.policies, (S.record g.sink ⟨.generationFailed agentId reason, now.entered⟩).2⟩ := by
  have hanswer := hS g.sink ⟨.generationFailed agentId reason, now.entered⟩
  unfold fail
  dsimp only
  split
  · rename_i sink hr
    rw [hr]
    exact ⟨rfl, rfl⟩
  · rename_i failure sink hr
    rw [hr]
    exact ⟨rfl, rfl⟩
  · rename_i sink hr
    rw [hr] at hanswer
    exact absurd rfl hanswer

theorem Operation.requestPolicy_fails (hS : S.Answers) (g : Gatehouse σ) (now : Moments)
    {reason : String}
    (h : (G.answer (G.request agentId context)).Fails G.timeout reason) :
    ((requestPolicy G agentId context).perform S g now).outcome =
        .failed (.generationFailed reason) ∧
      ((requestPolicy G agentId context).perform S g now).after =
        ⟨g.policies, (S.record g.sink ⟨.generationFailed agentId reason, now.entered⟩).2⟩ := by
  obtain ⟨houtcome, hafter⟩ := Generator.fail_eq hS g now agentId reason
  have hperform : (requestPolicy G agentId context).perform S g now =
      (Generator.fail S g now agentId reason).map .record := by
    rw [perform, Generator.provide, Delivery.within_of_fails h]
  rw [hperform]
  exact ⟨congrArg (Outcome.map Answer.record) houtcome, hafter⟩

theorem Operation.requestPolicy_delivers (S : Audit.Sink σ) (g : Gatehouse σ) (now : Moments)
    {policy : GeneratedPolicy}
    (h : (G.answer (G.request agentId context)).Delivers G.timeout policy) :
    ((requestPolicy G agentId context).perform S g now).outcome =
        ((putGenerated agentId policy context).perform S g now).outcome ∧
      ((requestPolicy G agentId context).perform S g now).after =
        ((putGenerated agentId policy context).perform S g now).after := by
  rw [perform, perform, Generator.provide, Delivery.within_of_delivers h]
  exact ⟨rfl, rfl⟩

/-- A generated text that opens no statement is turned away, and nobody is told. -/
theorem Operation.putGenerated_rejected (S : Audit.Sink σ) (g : Gatehouse σ) (now : Moments)
    (agentId : String) (context : SourceContext) {policy : GeneratedPolicy}
    (h : Policy.opensStatement policy.policy = false) :
    ((putGenerated agentId policy context).perform S g now).outcome =
        .failed (policy.submission agentId context).rejection ∧
      ((putGenerated agentId policy context).perform S g now).after = g := by
  have hclosed : ¬Policy.opensStatement (policy.submission agentId context).text = true := by
    rw [GeneratedPolicy.submission, h]
    exact Bool.false_ne_true
  rw [perform, Gatehouse.register, if_neg hclosed]
  exact ⟨rfl, rfl⟩

end

/-- **A failed generation is reported, audited once and changes nothing.** In front of a sink that
takes or refuses every entry, a request for a policy fails or is what its generator delivers. If
the generator is late or fails, the request fails as a generation, with the generator's own reason,
the message of another failure or the message about the time; the sink is offered one entry, about
that agent and with that reason, and whatever it makes of the entry, the answer and the policies
are the same. If the generator delivers, the request comes to what handing in its policy with the
context of the request comes to, entry by entry; and a text that opens no statement is turned away,
with no entry and nothing changed. -/
theorem failed_generation_reported (S : Audit.Sink σ) (hS : S.Answers) (G : Generator)
    (g : Gatehouse σ) (now : Moments) (agentId task : String) (level : AuthenticationLevel)
    (roles : List String) :
    let asked : Operation := .requestPolicy G agentId ⟨task, level, roles⟩
    let d := G.answer ⟨agentId, task, level, roles, G.vocabulary⟩
    let step := asked.perform S g now
    ((∃ reason, d.Fails G.timeout reason) ∨ ∃ policy, d.Delivers G.timeout policy) ∧
    (∀ reason, d.Fails G.timeout reason →
      let entry : Audit.Entry := ⟨.generationFailed agentId reason, now.entered⟩
      step.outcome = .failed (.generationFailed reason) ∧
      step.after = ⟨g.policies, (S.record g.sink entry).2⟩ ∧
      asked.offered S g now = [entry]) ∧
    (∀ policy, d.Delivers G.timeout policy →
      let put : Operation := .putGenerated agentId policy ⟨task, level, roles⟩
      (step.outcome = (put.perform S g now).outcome ∧ step.after = (put.perform S g now).after ∧
        asked.offered S g now = put.offered S g now) ∧
      (Policy.opensStatement policy.policy = false →
        step.outcome = .failed (.invalidPolicy
          ("policy for agent '" ++ agentId ++ "' contains no permit( or forbid( statement")) ∧
        step.after = g ∧ asked.offered S g now = [])) := by
  intro asked d step
  have hd : d = G.answer (G.request agentId ⟨task, level, roles⟩) := rfl
  refine ⟨d.fails_or_delivers G.timeout, fun reason hfails => ?_, fun policy hdelivers => ?_⟩
  · rw [hd] at hfails
    exact Operation.of_tallied (Operation.requestPolicy_fails hS.tallied g.tallying now hfails)
  · rw [hd] at hdelivers
    obtain ⟨houtcome, hafter⟩ := Operation.requestPolicy_delivers S g now hdelivers
    have htally := Operation.requestPolicy_delivers S.tallied g.tallying now hdelivers
    have hoffered : asked.offered S g now =
        (Operation.putGenerated agentId policy ⟨task, level, roles⟩).offered S g now :=
      congrArg (fun after => after.sink.2) htally.2
    refine ⟨⟨houtcome, hafter, hoffered⟩, fun hcloses => ?_⟩
    have hrejected :=
      Operation.putGenerated_rejected S.tallied g.tallying now agentId ⟨task, level, roles⟩ hcloses
    exact Operation.of_tallied ⟨htally.1.trans hrejected.1, htally.2.trans hrejected.2⟩

/-- In front of a full disk, a generator that misses its setting fails the request in its own
words, is audited in the same words, and leaves an agent's policy as it was. So does one that has
a quarter of a millisecond and takes a nanosecond more. -/
theorem failed_generation_reported_unset :
    let S := Audit.Sink.limited Audit.sha256 ⟨some 0, [], []⟩
    let unset : Generator :=
      ⟨fun _ => ⟨.ofSeconds 2, .error (.configuration "no key")⟩, .standard, .ofSeconds 30⟩
    let hasty : Generator :=
      ⟨fun _ => ⟨⟨250001⟩, .ok ⟨"permit(", "late", .low⟩⟩, .standard, ⟨250000⟩⟩
    let g : Gatehouse Audit.Ledger := .opening (.empty "t")
    let asked (G : Generator) : Operation := .requestPolicy G "clerk" ⟨"serve", .basic, ["night"]⟩
    let d (G : Generator) := G.answer ⟨"clerk", "serve", .basic, ["night"], G.vocabulary⟩
    let reported (G : Generator) (reason : String) : Prop :=
      ((asked G).perform S g .epoch).outcome = .failed (.generationFailed reason) ∧
        ((asked G).perform S g .epoch).after = g ∧
        (asked G).offered S g .epoch = [⟨.generationFailed "clerk" reason, .epoch⟩]
    let message := "configuration error: no key"
    let late := "generator did not respond within 250\u00b5s"
    (S.Answers ∧ (d unset).Fails unset.timeout message ∧ (d hasty).Fails hasty.timeout late) ∧
      reported unset message ∧ reported hasty late := by
  intro S unset hasty g asked d reported message late
  have hS : S.Answers := Audit.Sink.limited_answers _ _ _
  have hunset : (d unset).Fails unset.timeout message :=
    .otherwise (d := d unset) (by decide) (rfl : (d unset).reply = .error (.configuration "no key"))
      (by simp)
  have hasty_late : (d hasty).Fails hasty.timeout late := by
    have htext : late = "generator did not respond within " ++ hasty.timeout.text := by decide
    rw [htext]
    exact .late (by decide)
  have hreported : ∀ (G : Generator) (reason : String), (d G).Fails G.timeout reason →
      reported G reason := by
    intro G reason hfails
    obtain ⟨houtcome, hafter, hoffered⟩ :=
      (failed_generation_reported S hS G g .epoch "clerk" "serve" .basic ["night"]).2.1 reason hfails
    refine ⟨houtcome, ?_, hoffered⟩
    rw [hafter, Audit.Sink.limited_full _ _ (by decide)]
  exact ⟨⟨hS, hunset, hasty_late⟩, hreported _ _ hunset, hreported _ _ hasty_late⟩

end Portcullis
