import Portcullis.Codec.Audit
import Portcullis.Codec.Registry
import Portcullis.Codec.Settings
import Portcullis.Proofs.Audit.Entries
import Portcullis.Proofs.Codec.Faithful
import Portcullis.Proofs.Policy.Writing

/-! Every type that is written as JSON reads back.

The codecs are faithful one after the other, the parts of a record before the record. A record
is read back because it gives every field once and the codecs of its fields are faithful, and a
tagged value because its tag tells the variant. So every value is given back by its compact text
(`wire_round_trips`), a sealed log among them. -/
namespace Portcullis
open Json

/-! ### Requests and decisions -/

theorem Request.faithful : Faithful toJson ofJson? where
  written := written_toJson
  read_write := ofJson?_toJson

theorem Decision.faithful : Faithful toJson ofJson? := .named ofWord?_word

theorem DecisionResponse.faithful : Faithful toJson ofJson? where
  written r := .object (by simp [Decision.faithful.written])
  read_write r := by
    rw [ofJson?, toJson, record?_ofFields (by simp [occurrences])]
    simp [Record.field?, Decision.faithful.read_write]

namespace Policy

/-! ### Rules -/

theorem Effect.ofName?_name (e : Effect) : ofName? e.name = some e := by
  cases e <;> rfl

theorem Effect.faithful : Faithful toJson ofJson? := .named ofName?_name

theorem PrincipalConstraint.faithful : Faithful toJson ofJson? where
  written c := by
    cases c <;> exact .object (by simp [Written.text])
  read_write c := by
    cases c with
    | unconstrained =>
      rw [ofJson?, toJson, tagAndContent?_tag (by decide)]
      rfl
    | category name | exact name =>
      rw [ofJson?, toJson, tagAndContent?_content (by decide)]
      simp

/-- A set is written in the order of its names and is the same when they are put in again. -/
theorem NameSet.faithful : Faithful toJson ofJson? where
  written s := Faithful.text.list.written s.toList
  read_write s := by
    show (list? text? (.array (s.toList.map ofString))).map ofList = some s
    rw [Faithful.text.list.read_write, Option.map_some, ofList_toList]

theorem ActionConstraint.faithful : Faithful toJson ofJson? where
  written c := by
    cases c with
    | unconstrained => exact .object (by simp [Written.text])
    | single name => exact .object (by simp [Written.text])
    | oneOf names => exact .object (by simp [Written.text, NameSet.faithful.written])
  read_write c := by
    cases c with
    | unconstrained =>
      rw [ofJson?, toJson, tagAndContent?_tag (by decide)]
      rfl
    | single name =>
      rw [ofJson?, toJson, tagAndContent?_content (by decide)]
      simp
    | oneOf names =>
      rw [ofJson?, toJson, tagAndContent?_content (by decide)]
      simp [NameSet.faithful.read_write]

theorem Rule.faithful : Faithful toJson ofJson? where
  written r := .object (by
    simp [Written.text, Effect.faithful.written, PrincipalConstraint.faithful.written,
      ActionConstraint.faithful.written, Faithful.word.written])
  read_write r := by
    rw [ofJson?, toJson, record?_ofFields (by simp [occurrences])]
    simp [Record.field?, Effect.faithful.read_write, PrincipalConstraint.faithful.read_write,
      ActionConstraint.faithful.read_write]

theorem RuleSet.faithful : Faithful toJson ofJson? where
  written s := .object (by simp [Rule.faithful.list.written s.rules])
  read_write s := by
    rw [ofJson?, toJson, record?_ofFields (by simp [occurrences])]
    simp [Record.field?, Rule.faithful.list.read_write s.rules]

/-! ### Reports and evaluations -/

theorem DiscardReason.faithful : Faithful toJson ofJson? where
  written r := by
    cases r <;> exact .object (by simp [Written.text])
  read_write r := by
    cases r with
    | unterminated | unbalanced | noConstraints =>
      rw [ofJson?, toJson, tagAndContent?_tag (by decide)]
      rfl
    | malformedClause text | unsupportedConditions text =>
      rw [ofJson?, toJson, tagAndContent?_content (by decide)]
      simp

theorem Discarded.faithful : Faithful toJson ofJson? where
  written d := .object (by simp [Faithful.word.written, DiscardReason.faithful.written])
  read_write d := by
    rw [ofJson?, toJson, record?_ofFields (by simp [occurrences])]
    simp [Record.field?, DiscardReason.faithful.read_write]

theorem Report.faithful : Faithful toJson ofJson? where
  written r := .object (by
    simp [Rule.faithful.list.written r.rules, Discarded.faithful.list.written r.discarded])
  read_write r := by
    rw [ofJson?, toJson, record?_ofFields (by simp [occurrences])]
    simp [Record.field?, Rule.faithful.list.read_write r.rules,
      Discarded.faithful.list.read_write r.discarded]

/-- Null is no text, so a text that may be missing is read back. -/
theorem optionalText_faithful : Faithful optionalText (nullable? text?) where
  written := Audit.written_optionalText
  read_write s := by
    cases s <;> rfl

theorem Evaluation.faithful : Faithful toJson ofJson? where
  written e := .object (by
    simp [Decision.faithful.written, optionalText_faithful.written,
      Faithful.text.list.written e.matched])
  read_write e := by
    rw [ofJson?, toJson, record?_ofFields (by simp [occurrences])]
    simp [Record.field?, Record.optional?, Decision.faithful.read_write,
      optionalText_faithful.read_write, Faithful.text.list.read_write e.matched]

end Policy

/-! ### Agents and generation -/

theorem AuthenticationLevel.faithful : Faithful toJson ofJson? := .named ofWord?_word

theorem SourceContext.faithful : Faithful toJson ofJson? where
  written c := .object (by
    simp [Written.text, AuthenticationLevel.faithful.written, Faithful.text.list.written c.roles])
  read_write c := by
    rw [ofJson?, toJson, record?_ofFields (by simp [occurrences])]
    simp [Record.field?, AuthenticationLevel.faithful.read_write,
      Faithful.text.list.read_write c.roles]

theorem Vocabulary.faithful : Faithful toJson ofJson? where
  written v := .object (by
    simp [Written.text, Faithful.text.list.written v.actions,
      Faithful.text.list.written v.resources])
  read_write v := by
    rw [ofJson?, toJson, record?_ofFields (by simp [occurrences])]
    simp [Record.fieldOr?, Faithful.text.list.read_write v.actions,
      Faithful.text.list.read_write v.resources]

theorem GenerationRequest.faithful : Faithful toJson ofJson? where
  written q := .object (by
    simp [Written.text, AuthenticationLevel.faithful.written, Faithful.text.list.written q.roles,
      Vocabulary.faithful.written])
  read_write q := by
    rw [ofJson?, toJson, record?_ofFields (by simp [occurrences])]
    simp [Record.field?, AuthenticationLevel.faithful.read_write,
      Faithful.text.list.read_write q.roles, Vocabulary.faithful.read_write]

theorem RiskTier.faithful : Faithful toJson ofJson? := .named ofWord?_word

theorem GeneratedPolicy.faithful : Faithful toJson ofJson? where
  written g := .object (by simp [Written.text, RiskTier.faithful.written])
  read_write g := by
    rw [ofJson?, toJson, record?_ofFields (by simp [occurrences])]
    simp [Record.field?, RiskTier.faithful.read_write]

/-- Provenance is one level deep, and its tag comes first. -/
theorem Provenance.ofJsonAt?_toJson (p : Provenance) {depth : Nat} (h : depth + 1 ≤ maxDepth) :
    ofJsonAt? depth p.toJson = some p := by
  have hguard : (guard (true = true) : Option Unit) = some () := rfl
  obtain ⟨room, hroom⟩ : ∃ room, maxDepth - depth = room + 1 := ⟨maxDepth - depth - 1, by omega⟩
  have hdata : p.toJson.isData depth = true := by
    rw [isData, hroom, Audit.fits_provenance]
  rw [ofJsonAt?, hdata, hguard, ← ofJsonWithin?_toJson p, ofJsonWithin?]
  cases p with
  | registered =>
    rw [toJson, untag?_ofFields_cons (by simp) rfl, untag?_ofFields_cons (by simp) rfl]
    rfl
  | generated rationale tier =>
    rw [toJson, untag?_ofFields_cons (by simp) rfl, untag?_ofFields_cons (by simp) rfl]
    rfl

theorem Provenance.faithful : Faithful toJson ofJson? where
  written := written_toJson
  read_write p := p.ofJsonAt?_toJson (by decide)

theorem PolicyRecord.faithful : Faithful toJson ofJson? where
  written r := .object (by
    simp [Written.text, Policy.Rule.faithful.list.written r.rules, Audit.instantToJson,
      SourceContext.faithful.written, Provenance.written_toJson])
  read_write r := by
    have hroom : 1 + 1 ≤ maxDepth := by decide
    have hprovenance := r.provenance.ofJsonAt?_toJson hroom
    rw [ofJson?, toJson, record?_ofFields (by simp [occurrences])]
    simp [Record.field?, Policy.Rule.faithful.list.read_write r.rules,
      Audit.instantOfJson?_instantToJson, SourceContext.faithful.read_write, hprovenance]

/-! ### Settings -/

theorem GeneratorSettings.faithful : Faithful toJson ofJson? where
  written s := .object (by
    simp [Written.text, Faithful.word.written, Policy.optionalText_faithful.written])
  read_write s := by
    rw [ofJson?, toJson, record?_ofFields (by simp [occurrences])]
    simp [Record.fieldOr?, Policy.optionalText_faithful.read_write]

theorem Settings.faithful : Faithful toJson ofJson? where
  written s := .object (by
    simp [GeneratorSettings.faithful.written, Vocabulary.faithful.written])
  read_write s := by
    rw [ofJson?, toJson, record?_ofFields (by simp [occurrences])]
    simp [Record.fieldOr?, GeneratorSettings.faithful.read_write, Vocabulary.faithful.read_write]

/-! ### The audit trail -/

namespace Audit

theorem Occurrence.faithful : Faithful toJson ofJson? where
  written := written_toJson
  read_write o := o.ofJsonAt?_toJson (by decide)

/-- An entry is read wherever there is room for the three levels that it has. -/
theorem Entry.faithfulAt {depth : Nat} (h : depth + 3 ≤ maxDepth) :
    Faithful toJson (ofJsonAt? depth) where
  written e := .object e.written_fields
  read_write e := e.ofJsonAt?_toJson h

theorem Entry.faithful : Faithful toJson ofJson? :=
  have hroom : 0 + 3 ≤ maxDepth := by decide
  faithfulAt hroom

theorem Event.faithfulAt {depth : Nat} (h : depth + 4 ≤ maxDepth) :
    Faithful toJson (ofJsonAt? depth) where
  written e := .object (by
    simp [Written.text, Faithful.word.written, (Entry.faithfulAt h).written])
  read_write e := by
    have hroom : depth + 1 + 3 ≤ maxDepth := by omega
    have hentry := (Entry.faithfulAt hroom).read_write e.entry
    rw [ofJsonAt?, toJson, record?_ofFields (by simp [occurrences])]
    simp [Record.field?, hentry]

theorem Event.faithful : Faithful toJson ofJson? :=
  have hroom : 0 + 4 ≤ maxDepth := by decide
  faithfulAt hroom

/-- The events of a log stand two levels deep. -/
theorem Log.faithful_events :
    Faithful (fun events => .array (events.map Event.toJson)) (list? (Event.ofJsonAt? 2)) :=
  have hroom : 2 + 4 ≤ maxDepth := by decide
  (Event.faithfulAt hroom).list

theorem Log.faithful : Faithful toJson ofJson? where
  written l := .object (by
    simp [Written.text, instantToJson, faithful_events.written l.events])
  read_write l := by
    rw [ofJson?, toJson, record?_ofFields (by simp [occurrences])]
    simp [Record.field?, faithful_events.read_write l.events, instantOfJson?_instantToJson]

end Audit

/-! ### The wire format -/

/-- Everything that is written as JSON is given back by its compact text. -/
structure WireFormat : Prop where
  request : GivesBack Request.toJson Request.ofJson?
  decision : GivesBack Decision.toJson Decision.ofJson?
  decisionResponse : GivesBack DecisionResponse.toJson DecisionResponse.ofJson?
  effect : GivesBack Policy.Effect.toJson Policy.Effect.ofJson?
  principalConstraint :
    GivesBack Policy.PrincipalConstraint.toJson Policy.PrincipalConstraint.ofJson?
  actionConstraint : GivesBack Policy.ActionConstraint.toJson Policy.ActionConstraint.ofJson?
  rule : GivesBack Policy.Rule.toJson Policy.Rule.ofJson?
  ruleSet : GivesBack Policy.RuleSet.toJson Policy.RuleSet.ofJson?
  discardReason : GivesBack Policy.DiscardReason.toJson Policy.DiscardReason.ofJson?
  discarded : GivesBack Policy.Discarded.toJson Policy.Discarded.ofJson?
  report : GivesBack Policy.Report.toJson Policy.Report.ofJson?
  evaluation : GivesBack Policy.Evaluation.toJson Policy.Evaluation.ofJson?
  authenticationLevel : GivesBack AuthenticationLevel.toJson AuthenticationLevel.ofJson?
  sourceContext : GivesBack SourceContext.toJson SourceContext.ofJson?
  vocabulary : GivesBack Vocabulary.toJson Vocabulary.ofJson?
  generationRequest : GivesBack GenerationRequest.toJson GenerationRequest.ofJson?
  riskTier : GivesBack RiskTier.toJson RiskTier.ofJson?
  generatedPolicy : GivesBack GeneratedPolicy.toJson GeneratedPolicy.ofJson?
  provenance : GivesBack Provenance.toJson Provenance.ofJson?
  policyRecord : GivesBack PolicyRecord.toJson PolicyRecord.ofJson?
  generatorSettings : GivesBack GeneratorSettings.toJson GeneratorSettings.ofJson?
  settings : GivesBack Settings.toJson Settings.ofJson?
  occurrence : GivesBack Audit.Occurrence.toJson Audit.Occurrence.ofJson?
  entry : GivesBack Audit.Entry.toJson Audit.Entry.ofJson?
  event : GivesBack Audit.Event.toJson Audit.Event.ofJson?
  log : GivesBack Audit.Log.toJson Audit.Log.ofJson?

/-- **Every value is given back by its compact text.** So a sealed log is read again as the
log that it was, and its events are a chain of their own just when they were one before. -/
theorem wire_round_trips :
    WireFormat ∧
    ∀ (H : Audit.Digest) (l : Audit.Log),
      ∃ again, ofText? Audit.Log.ofJson? l.toJson.compact = some again ∧ again = l ∧
        (Audit.verify H again.events = true ↔ Audit.verify H l.events = true) where
  left :=
    { request := Request.faithful.givesBack
      decision := Decision.faithful.givesBack
      decisionResponse := DecisionResponse.faithful.givesBack
      effect := Policy.Effect.faithful.givesBack
      principalConstraint := Policy.PrincipalConstraint.faithful.givesBack
      actionConstraint := Policy.ActionConstraint.faithful.givesBack
      rule := Policy.Rule.faithful.givesBack
      ruleSet := Policy.RuleSet.faithful.givesBack
      discardReason := Policy.DiscardReason.faithful.givesBack
      discarded := Policy.Discarded.faithful.givesBack
      report := Policy.Report.faithful.givesBack
      evaluation := Policy.Evaluation.faithful.givesBack
      authenticationLevel := AuthenticationLevel.faithful.givesBack
      sourceContext := SourceContext.faithful.givesBack
      vocabulary := Vocabulary.faithful.givesBack
      generationRequest := GenerationRequest.faithful.givesBack
      riskTier := RiskTier.faithful.givesBack
      generatedPolicy := GeneratedPolicy.faithful.givesBack
      provenance := Provenance.faithful.givesBack
      policyRecord := PolicyRecord.faithful.givesBack
      generatorSettings := GeneratorSettings.faithful.givesBack
      settings := Settings.faithful.givesBack
      occurrence := Audit.Occurrence.faithful.givesBack
      entry := Audit.Entry.faithful.givesBack
      event := Audit.Event.faithful.givesBack
      log := Audit.Log.faithful.givesBack }
  right _ l := ⟨l, Audit.Log.faithful.givesBack l, rfl, Iff.rfl⟩

end Portcullis
