import Portcullis.Proofs.Policy.Layout

/-! What is seen of a text, whatever its line breaks and comments.

A reader goes by the lines of a document that are visible, without their comments. Put together
they are the text it gathers (`gathered`). A gap, that is blanks, line breaks and comments, is
gathered as blanks, and not as nothing unless it is empty (`Gap.ahead`); text on one line without
a comment is gathered as it stands (`Solid.ahead`). -/
namespace Portcullis.Policy
open Text

/-! ### Gathered text -/

/-- The text of visible lines, with a line feed behind each. -/
def gathered (seen : List Line) : List Char := seen.flatMap fun line => line.text ++ ['\n']

/-- What is seen of lines of a document. -/
def seen (raws : List (List Char)) : List Char := gathered (visibleFrom 1 raws)

/-- What is seen of a text from inside a visible line on. -/
def ahead (text : List Char) : List Char :=
  withoutComment (firstLine text) ++ '\n' :: seen (linesBelow text)

@[simp] theorem gathered_cons (line : Line) (below : List Line) :
    gathered (line :: below) = line.text ++ '\n' :: gathered below := by
  simp [gathered]

theorem visibleFrom_unseen {raw : List Char} (h : allBlank (withoutComment raw) = true)
    (place : Nat) (raws : List (List Char)) :
    visibleFrom place (raw :: raws) = visibleFrom (place + 1) raws :=
  if_pos h

/-- The numbers of the lines do not matter. -/
theorem gathered_visibleFrom (place : Nat) (raws : List (List Char)) :
    gathered (visibleFrom place raws) = seen raws := by
  have hany : ∀ place place',
      gathered (visibleFrom place raws) = gathered (visibleFrom place' raws) := by
    induction raws with
    | nil => exact fun _ _ => rfl
    | cons raw raws ih =>
      intro place place'
      rw [visibleFrom, visibleFrom]
      split
      · exact ih _ _
      · rw [gathered_cons, gathered_cons, ih]
  exact hany place 1

/-! ### Text on one line -/

/-- Text on one line that is no comment, and in which none starts. -/
structure Solid (text : List Char) : Prop where
  oneLine : OneLine text
  visible : allBlank text = false
  bare : ∀ rest, withoutComment (text ++ rest) = text ++ withoutComment rest

/-- Text whose first line is visible, so that it is seen the same from the start of a line and
from inside one. -/
structure Showing (text : List Char) : Prop where
  head : text.head? ≠ some '\n'
  same : seen (lines text) = ahead text

section
variable {text : List Char} (h : Solid text) (rest : List Char)
include h

theorem Solid.ahead : ahead (text ++ rest) = text ++ ahead rest := by
  rw [Policy.ahead, firstLine, linesBelow, lines_first h.oneLine, List.headD_cons, h.bare,
    List.append_assoc]
  rfl

/-- It is a line with whatever follows it there. -/
theorem Solid.visibleFrom (place : Nat) :
    visibleFrom place (lines (text ++ rest)) =
      ⟨place, text ++ withoutComment (firstLine rest)⟩ ::
        Policy.visibleFrom (place + 1) (linesBelow rest) := by
  have hvisible : ¬allBlank (text ++ withoutComment (firstLine rest)) = true := by
    simp [h.visible]
  rw [lines_first h.oneLine, Policy.visibleFrom, h.bare, if_neg hvisible]

theorem Solid.seen : seen (lines (text ++ rest)) = text ++ Policy.ahead rest := by
  rw [Policy.seen, h.visibleFrom, gathered_cons, gathered_visibleFrom, List.append_assoc]
  rfl

theorem Solid.showing : Showing (text ++ rest) where
  head := by
    obtain ⟨⟨hne, hline, -⟩, -, -⟩ := h
    cases text with
    | nil => exact absurd rfl hne
    | cons c text =>
      rw [List.mem_cons, not_or] at hline
      simpa using Ne.symm hline.1
  same := by rw [h.seen, h.ahead]

end

/-! ### Gaps -/

/-- What may stand between two tokens: blanks, line breaks among them, and comments up to the
end of their line. -/
inductive Gap : List Char → Prop where
  | nil : Gap []
  | blank {c rest} : isBlank c = true → Gap rest → Gap (c :: rest)
  | comment {words rest} : '\n' ∉ words → Gap rest →
      Gap ('/' :: '/' :: (words ++ '\n' :: rest))

/-- Lines, with a text in front of the first. -/
def indent (lead : List Char) : List Line → List Line
  | [] => []
  | line :: below => ⟨line.place, lead ++ line.text⟩ :: below

theorem gathered_indent (lead : List Char) (seen : List Line) :
    gathered (indent lead seen) = gathered seen ∨
      gathered (indent lead seen) = lead ++ gathered seen := by
  cases seen with
  | nil => exact .inl rfl
  | cons line below => exact .inr (by simp [indent])

theorem withoutComment_blank {c : Char} (hc : isBlank c = true) (rest : List Char) :
    withoutComment (c :: rest) = c :: withoutComment rest := by
  have hblank : allBlank [c] = true := by
    rw [allBlank_cons, hc]
    rfl
  exact withoutCommentFrom_sealed (@Sealed.blank false _ hblank) rest

/-- A blank at the start of a line is seen if something is seen of the line. -/
theorem visibleFrom_blank {c : Char} (hc : isBlank c = true) (hline : c ≠ '\n')
    (rest : List Char) (place : Nat) :
    visibleFrom place (lines (c :: rest)) = visibleFrom place (lines rest) ∨
      visibleFrom place (lines (c :: rest)) = indent [c] (visibleFrom place (lines rest)) := by
  by_cases hret : c = '\r' ∧ rest.head? = some '\n'
  · -- The carriage return belongs to the line end.
    obtain ⟨rfl, hhead⟩ := hret
    cases rest with
    | nil => cases hhead
    | cons d rest =>
      obtain rfl : d = '\n' := by simpa using hhead
      rw [lines_return_newline, lines_newline]
      exact .inl rfl
  · rw [lines_cons_first hline fun hr hhead => hret ⟨hr, hhead⟩, firstLine, linesBelow]
    cases lines rest with
    | nil =>
      rw [List.headD_nil, List.tail_nil]
      have hblank : allBlank (withoutComment [c]) = true := by
        rw [withoutComment_blank hc, allBlank_cons, hc]
        rfl
      exact .inl (visibleFrom_unseen hblank place [])
    | cons first others =>
      have hblank : allBlank (withoutComment (c :: first)) = allBlank (withoutComment first) := by
        rw [withoutComment_blank hc, allBlank_cons, hc, Bool.true_and]
      rw [List.headD_cons, List.tail_cons, visibleFrom, visibleFrom, hblank,
        withoutComment_blank hc]
      split
      · exact .inl rfl
      · exact .inr rfl

theorem lines_comment {words : List Char} (h : '\n' ∉ words) (rest : List Char) :
    ∃ line, lines ('/' :: '/' :: (words ++ '\n' :: rest)) = line :: lines rest ∧
      withoutComment line = [] := by
  obtain ⟨line, hline⟩ := lines_ended h rest
  refine ⟨'/' :: '/' :: line, ?_, rfl⟩
  have hslash : ∀ after : List Char, '/' = '\r' → after.head? ≠ some '\n' := by
    intro after hret
    exact absurd hret (by decide)
  rw [lines_cons_first (by decide) (hslash _), firstLine, linesBelow,
    lines_cons_first (by decide) (hslash _), firstLine, linesBelow, hline]
  rfl

/-- **At the start of a line, a gap is seen as blanks** in front of what follows it, as many
lines further down as it breaks. -/
theorem Gap.visibleFrom {gap : List Char} (h : Gap gap) (rest : List Char) (place : Nat) :
    ∃ lead, allBlank lead = true ∧ visibleFrom place (lines (gap ++ rest)) =
      indent lead (Policy.visibleFrom (place + gap.count '\n') (lines rest)) := by
  induction h generalizing place with
  | nil =>
    refine ⟨[], rfl, ?_⟩
    rw [List.nil_append, List.count_nil, Nat.add_zero]
    cases Policy.visibleFrom place (lines rest) <;> rfl
  | @blank c gap hc _ ih =>
    by_cases hline : c = '\n'
    · subst hline
      obtain ⟨lead, hlead, hvisible⟩ := ih (place + 1)
      refine ⟨lead, hlead, ?_⟩
      rw [List.cons_append, lines_newline, visibleFrom_unseen rfl, hvisible,
        List.count_cons_self, Nat.add_assoc, Nat.add_comm 1]
    · obtain ⟨lead, hlead, hvisible⟩ := ih place
      rw [List.count_cons_of_ne hline, List.cons_append]
      rcases visibleFrom_blank hc hline (gap ++ rest) place with hsame | hindent
      · exact ⟨lead, hlead, hsame.trans hvisible⟩
      · refine ⟨c :: lead, ?_, ?_⟩
        · rw [allBlank_cons, hc, hlead]
          rfl
        · rw [hindent, hvisible]
          cases Policy.visibleFrom (place + gap.count '\n') (lines rest) <;> rfl
  | @comment words gap hwords _ ih =>
    obtain ⟨lead, hlead, hvisible⟩ := ih (place + 1)
    obtain ⟨line, hlines, hline⟩ := lines_comment hwords (gap ++ rest)
    refine ⟨lead, hlead, ?_⟩
    have hcount : ('/' :: '/' :: (words ++ '\n' :: gap)).count '\n' = 1 + gap.count '\n' := by
      simp [List.count_eq_zero.mpr hwords, Nat.add_comm]
    rw [hcount, ← Nat.add_assoc, ← hvisible]
    show Policy.visibleFrom place (lines ('/' :: '/' :: (words ++ '\n' :: gap ++ rest))) = _
    rw [List.append_assoc, List.cons_append, hlines]
    exact visibleFrom_unseen (by rw [hline]; rfl) place _

theorem Gap.seen {gap : List Char} (h : Gap gap) (rest : List Char) :
    ∃ lead, allBlank lead = true ∧
      Policy.seen (lines (gap ++ rest)) = lead ++ Policy.seen (lines rest) := by
  obtain ⟨lead, hlead, hvisible⟩ := h.visibleFrom rest 1
  rw [Policy.seen, hvisible]
  rcases gathered_indent lead (Policy.visibleFrom (1 + gap.count '\n') (lines rest)) with hg | hg
  · exact ⟨[], rfl, by rw [hg, gathered_visibleFrom]; rfl⟩
  · exact ⟨lead, hlead, by rw [hg, gathered_visibleFrom]⟩

theorem ahead_newline (rest : List Char) : ahead ('\n' :: rest) = '\n' :: seen (lines rest) := by
  rw [ahead, firstLine, linesBelow, lines_newline]
  rfl

theorem ahead_blank {c : Char} (hc : isBlank c = true) (hline : c ≠ '\n') {rest : List Char}
    (hret : c = '\r' → rest.head? ≠ some '\n') : ahead (c :: rest) = c :: ahead rest := by
  rw [ahead, firstLine, linesBelow, lines_cons_first hline hret, List.headD_cons,
    withoutComment_blank hc]
  rfl

/-- **Inside a line, a gap is seen as blanks**, and not as nothing unless it is empty. What
follows it is seen from there or from the start of a line. -/
theorem Gap.ahead {gap : List Char} (h : Gap gap) {rest : List Char}
    (hrest : rest.head? ≠ some '\n') :
    ∃ lead, allBlank lead = true ∧ (gap ≠ [] → lead ≠ []) ∧
      (Policy.ahead (gap ++ rest) = lead ++ Policy.ahead rest ∨
        Policy.ahead (gap ++ rest) = lead ++ Policy.seen (lines rest)) := by
  induction h with
  | nil => exact ⟨[], rfl, id, .inl rfl⟩
  | @blank c gap hc hgap ih =>
    obtain ⟨lead, hlead, hne, hahead⟩ := ih
    by_cases hline : c = '\n'
    · subst hline
      obtain ⟨lead, hlead, hseen⟩ := hgap.seen rest
      refine ⟨'\n' :: lead, ?_, fun _ => List.cons_ne_nil _ _, .inr ?_⟩
      · rw [allBlank_cons, hc, hlead]
        rfl
      · rw [List.cons_append, ahead_newline, hseen]
        rfl
    · by_cases hret : c = '\r' ∧ (gap ++ rest).head? = some '\n'
      · -- The carriage return is not seen, but the line end it belongs to is.
        obtain ⟨rfl, hhead⟩ := hret
        have hgap : gap ≠ [] := by
          rintro rfl
          exact hrest hhead
        refine ⟨lead, hlead, fun _ => hne hgap, ?_⟩
        have hsame : Policy.ahead ('\r' :: (gap ++ rest)) = Policy.ahead (gap ++ rest) := by
          cases hbreak : gap ++ rest with
          | nil =>
            rw [hbreak] at hhead
            cases hhead
          | cons d after =>
            rw [hbreak] at hhead
            obtain rfl : d = '\n' := by simpa using hhead
            rw [Policy.ahead, firstLine, linesBelow, lines_return_newline, ahead_newline]
            rfl
        rw [List.cons_append, hsame]
        exact hahead
      · refine ⟨c :: lead, ?_, fun _ => List.cons_ne_nil _ _, ?_⟩
        · rw [allBlank_cons, hc, hlead]
          rfl
        · rw [List.cons_append, ahead_blank hc hline fun hr hhead => hret ⟨hr, hhead⟩]
          exact hahead.imp (congrArg (c :: ·)) (congrArg (c :: ·))
  | @comment words gap hwords hgap ih =>
    obtain ⟨lead, hlead, hseen⟩ := hgap.seen rest
    obtain ⟨line, hlines, hline⟩ := lines_comment hwords (gap ++ rest)
    refine ⟨'\n' :: lead, ?_, fun _ => List.cons_ne_nil _ _, .inr ?_⟩
    · rw [allBlank_cons, hlead]
      decide
    · show Policy.ahead ('/' :: '/' :: (words ++ '\n' :: gap ++ rest)) = _
      rw [List.append_assoc, List.cons_append, Policy.ahead, firstLine, linesBelow, hlines,
        List.headD_cons, hline, List.tail_cons, hseen]
      rfl

/-- Inside a line, what shows behind a gap is seen behind blanks. -/
theorem Gap.showing {gap : List Char} (h : Gap gap) {rest : List Char} (hrest : Showing rest) :
    ∃ lead, allBlank lead = true ∧ (gap ≠ [] → lead ≠ []) ∧
      Policy.ahead (gap ++ rest) = lead ++ Policy.ahead rest := by
  obtain ⟨lead, hlead, hne, hahead | hahead⟩ := h.ahead hrest.head
  · exact ⟨lead, hlead, hne, hahead⟩
  · exact ⟨lead, hlead, hne, by rw [hahead, hrest.same]⟩

/-- What may stand between the last token and the end of a document: a gap, and behind it a
comment that no line break ends. -/
inductive Rear : List Char → Prop where
  | gap {gap} : Gap gap → Rear gap
  | comment {gap words} : Gap gap → '\n' ∉ words → Rear (gap ++ '/' :: '/' :: words)

/-- Nothing but blanks is seen of the end of a document. -/
theorem Rear.ahead {text : List Char} (h : Rear text) : allBlank (ahead text) = true := by
  have hend : ∀ {gap rest : List Char}, Gap gap → rest.head? ≠ some '\n' →
      allBlank (Policy.ahead rest) = true → allBlank (seen (lines rest)) = true →
        allBlank (Policy.ahead (gap ++ rest)) = true := by
    intro gap rest hgap hhead hinside hstart
    obtain ⟨lead, hlead, -, hahead | hahead⟩ := hgap.ahead hhead
    · rw [hahead, allBlank_append, hlead, hinside]
      rfl
    · rw [hahead, allBlank_append, hlead, hstart]
      rfl
  cases h with
  | @gap gap hgap =>
    have hblank : allBlank (Policy.ahead []) = true := by decide
    have := hend hgap (by simp) hblank rfl
    rwa [List.append_nil] at this
  | @comment gap words hgap hwords =>
    have hline : '\n' ∉ '/' :: '/' :: words := by simpa using hwords
    have hlines : lines ('/' :: '/' :: words) = ['/' :: '/' :: words] :=
      (lines_unbroken (List.cons_ne_nil _ _) hline []).1
    refine hend hgap (by simp) ?_ ?_
    · rw [Policy.ahead, firstLine, linesBelow, hlines]
      rfl
    · rw [hlines]
      rfl

end Portcullis.Policy
