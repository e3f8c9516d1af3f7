import Portcullis.Proofs.Policy.Tracing

/-! Statements with conditions.

A trailer is read to its first semicolon, and literals do not count there as they do in a
scope. A statement with conditions is always discarded for them, but only for their text up
to that semicolon; where it stands in a literal, the rest of the literal is read as policy
text. So a line that holds nothing but such a statement leaves nothing but that one discard
when, and only when, no statement opens behind the first semicolon
(`report_conditioned`). -/
namespace Portcullis.Policy
open Text

/-- Whether literals are closed in the text of conditions and semicolons stand in them only,
for a scan that stands at `quoting`. -/
def closedFrom : Quoting → List Char → Bool
  | quoting, [] => quoting = .outside
  | .escaped, _ :: rest => closedFrom .inside rest
  | .inside, c :: rest =>
    closedFrom (if c = '\\' then .escaped else if c = '"' then .outside else .inside) rest
  | .outside, c :: rest => c ≠ ';' && closedFrom (if c = '"' then .inside else .outside) rest

/-- A statement with conditions that has a line to itself, without a comment. -/
structure Conditioned (effect : Effect) (scope conditions line : List Char) : Prop where
  spelled : ∃ gap, allBlank gap = true ∧
    line = effect.word ++ (gap ++ '(' :: (scope ++ ')' :: (conditions ++ [';'])))
  whole : Whole scope
  closed : closedFrom .outside conditions = true
  visible : ¬allBlank conditions = true
  unbroken : '\n' ∉ line
  bare : withoutComment line = line

/-- If conditions are blank up to the first semicolon, they are blank. -/
theorem blank_of_closed {conditions before after : List Char}
    (h : closedFrom .outside conditions = true) (hcut : conditions ++ [';'] = before ++ ';' :: after)
    (hb : allBlank before = true) : allBlank conditions = true := by
  induction conditions generalizing before with
  | nil => rfl
  | cons c conditions ih =>
    rw [closedFrom, Bool.and_eq_true, decide_eq_true_eq] at h
    cases before with
    | nil => exact absurd (List.cons.inj hcut).1 h.1
    | cons d before =>
      obtain ⟨rfl, hrest⟩ := List.cons.inj hcut
      rw [allBlank_cons, Bool.and_eq_true] at hb ⊢
      -- A blank opens no literal, so the scan is still outside.
      have hquote : c ≠ '"' := by
        rintro rfl
        exact absurd hb.1 (by decide)
      rw [if_neg hquote] at h
      exact ⟨hb.1, ih h.2 hrest hb.2⟩

section
variable {effect : Effect} {scope conditions line : List Char}

theorem Conditioned.opens (h : Conditioned effect scope conditions line) :
    opener? (trimStart line) = some (effect, scope ++ ')' :: (conditions ++ [';'])) := by
  obtain ⟨gap, hg, hline⟩ := h.spelled
  exact opens_iff.mpr ⟨[], gap, rfl, hg, hline⟩

/-- Such a line is all that is seen of a document that consists of it. -/
theorem Conditioned.visibleLines_eq (h : Conditioned effect scope conditions line) :
    visibleLines (String.ofList line) = [⟨1, line⟩] := by
  have hvisible : ¬allBlank line = true := by
    intro hb
    have hopens := h.opens
    rw [trimStart_eq_nil_iff.mpr hb] at hopens
    cases hopens
  have hne : line ≠ [] := by
    rintro rfl
    exact hvisible rfl
  rw [visibleLines, String.toList_ofList, (lines_unbroken hne h.unbroken []).1, visibleFrom,
    h.bare, if_neg hvisible]
  rfl

/-- The statement ends at the first semicolon behind its scope, and what follows that is
laid out as if it were the rest of the document. -/
theorem Conditioned.layout {before after : List Char}
    (h : Conditioned effect scope conditions line)
    (hcut : conditions ++ [';'] = before ++ ';' :: after) (hsemi : ';' ∉ before)
    {statements : List Statement} (hlayout : Layout (String.ofList line) statements) :
    ∃ others, statements = ⟨1, effect, none, .delimited scope before⟩ :: others ∧
      Laid none ⟨1, after⟩ [] others := by
  rw [Layout, h.visibleLines_eq] at hlayout
  cases hlayout with
  | statement ho => cases ho
  | line _ hlaid =>
    cases hlaid with
    | last ho =>
      rw [h.opens] at ho
      cases ho
    | statement ho hstretch hothers =>
      rw [h.opens] at ho
      cases ho
      have hend : Stretch [] ⟨1, scope ++ ')' :: (conditions ++ [';'])⟩ []
          (.delimited scope before) ⟨1, after⟩ [] :=
        .delimited (by rw [hcut]; rfl) h.whole hsemi
      obtain ⟨rfl, rfl, rfl⟩ := hstretch.unique hend
      exact ⟨_, rfl, hothers⟩

/-- Such a statement is discarded for the front of its conditions. -/
theorem Conditioned.reading {before after : List Char}
    (h : Conditioned effect scope conditions line)
    (hcut : conditions ++ [';'] = before ++ ';' :: after) :
    (⟨1, effect, none, .delimited scope before⟩ : Statement).reading =
      .discarded ⟨1, .unsupportedConditions (String.ofList (trim before))⟩ := by
  have hbroken : Nesting.none.breaks scope = false := by
    obtain ⟨gap, -, hline⟩ := h.spelled
    refine Nesting.breaks_of_notMem (fun hmem => h.unbroken ?_) _
    rw [hline]
    simp [hmem]
  have hblank : trim before ≠ [] :=
    fun hb => h.visible (blank_of_closed h.closed hcut (trim_eq_nil_iff.mp hb))
  rw [Statement.reading, Opening.outcome, Opening.close, hbroken, if_neg Bool.false_ne_true]
  cases ht : trim before with
  | nil => exact absurd ht hblank
  | cons c text => rfl

end

/-- **A statement with conditions is discarded for them, up to their first semicolon.** That
this is all there is to a line with nothing else on it holds when no statement opens behind
that semicolon, and only then. -/
theorem report_conditioned {effect : Effect} {scope conditions line before after : List Char}
    (h : Conditioned effect scope conditions line)
    (hcut : conditions ++ [';'] = before ++ ';' :: after) (hsemi : ';' ∉ before) :
    (report (String.ofList line)).discarded.head? =
        some ⟨1, .unsupportedConditions (String.ofList (trim before))⟩ ∧
      ((report (String.ofList line)).rules = [] ∧
          (report (String.ofList line)).discarded.length = 1 ↔
        opener? (trimStart after) = none) := by
  obtain ⟨statements, hlayout, hps⟩ := passages_layout (String.ofList line)
  obtain ⟨others, rfl, hothers⟩ := h.layout hcut hsemi hlayout
  have hlength := length_entries others
  rw [report_of_passages hps, List.filterMap_cons, List.filterMap_cons, h.reading hcut]
  refine ⟨rfl, ?_⟩
  show numbered 0 (others.filterMap fun s => s.reading.draft?) = [] ∧
    (others.filterMap fun s => s.reading.discarded?).length + 1 = 1 ↔ _
  rw [← List.length_eq_zero_iff, length_numbered]
  constructor
  · rintro ⟨hrules, hdiscarded⟩
    cases hothers with
    | last ho => exact ho
    | statement =>
      rw [List.length_cons] at hlength
      omega
  · intro ho
    cases hothers with
    | last => exact ⟨rfl, rfl⟩
    | statement ho' =>
      rw [ho] at ho'
      cases ho'

/-! ### A statement in a literal -/

def notedScope : List Char := "principal == NS::Client::\"ops\"".toList

/-- Conditions that compare a note with a text in which another statement stands. -/
def notedConditions : List Char :=
  " when \x7b note == \"a;permit(principal);\" \x7d".toList

def notedLine : List Char :=
  Effect.permit.word ++ '(' :: (notedScope ++ ')' :: (notedConditions ++ [';']))

theorem noted_conditioned : Conditioned .permit notedScope notedConditions notedLine where
  spelled := ⟨[], rfl, rfl⟩
  whole := by
    have hscan : scanScope .none (notedScope ++ [')']) = .closed notedScope [] := by decide +kernel
    obtain ⟨-, hthrough, hgoes⟩ := goesOn_of_closed (by decide +kernel) hscan
    exact ⟨hgoes, hthrough⟩
  closed := by decide +kernel
  visible := by decide +kernel
  unbroken := by decide +kernel
  bare := by decide +kernel

/-- The discard tells of the conditions up to the semicolon in the literal, and is not all
there is. -/
theorem report_conditioned_noted :
    Conditioned .permit notedScope notedConditions notedLine ∧
      (report (String.ofList notedLine)).discarded.head? =
        some ⟨1, .unsupportedConditions "when \x7b note == \"a"⟩ ∧
      ¬((report (String.ofList notedLine)).rules = [] ∧
        (report (String.ofList notedLine)).discarded.length = 1) := by
  have hcut : notedConditions ++ [';'] = " when \x7b note == \"a".toList ++
      ';' :: "permit(principal);\" \x7d;".toList := by decide +kernel
  obtain ⟨hhead, hiff⟩ := report_conditioned noted_conditioned hcut (by decide +kernel)
  refine ⟨noted_conditioned, hhead.trans ?_, fun h => ?_⟩
  · decide +kernel
  · exact absurd (hiff.mp h) (by decide +kernel)

/-- **The statement in the literal becomes a rule**, and permits everything. -/
theorem literal_becomes_rule :
    Conditioned .permit notedScope notedConditions notedLine ∧
      report (String.ofList notedLine) =
        ⟨[⟨"policy0", .permit, .unconstrained, .unconstrained, 1⟩],
          [⟨1, .unsupportedConditions "when \x7b note == \"a"⟩]⟩ := by
  refine ⟨noted_conditioned, ?_⟩
  decide +kernel

end Portcullis.Policy
