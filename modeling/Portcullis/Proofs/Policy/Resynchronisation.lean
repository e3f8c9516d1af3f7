import Portcullis.Proofs.Policy.Displacement
import Portcullis.Proofs.Policy.Scanning

/-! Where a reader finds its way again.

A document may be cut in front of a line that starts with an opener and behind a line that
is `);`. Whatever the part in front leaves open is discarded at the cut as it would be at
the end of a document, so the whole is reported as its parts are, the second with later
lines and later places (`passages_append`). Of the first part the second learns one thing
only: the name of an annotation that no statement has taken. -/
namespace Portcullis.Policy
open Text

/-- The lines on which something stands, without their comments. -/
def visible (texts : List (List Char)) : List (List Char) :=
  (texts.map withoutComment).filter fun text => !allBlank text

/-- The first line on which something stands starts with an opener. -/
def OpensFirst (document : String) : Prop :=
  ∃ text ∈ (visible (lines document.toList)).head?, (opener? (trimStart text)).isSome = true

/-- The last line on which something stands is `);`. -/
def ClosesLast (document : String) : Prop :=
  ∃ text ∈ (visible (lines document.toList)).getLast?, trim text = [')', ';']

/-- How many lines a document has. -/
def lineCount (document : String) : UInt64 := UInt64.ofNat (lines document.toList).length

/-- The name of an annotation that waits for a statement at the end of a document. -/
def nameLeft (document : String) : Option String := (readerAfter document).pending

theorem visible_cons_of_blank {text : List Char} (h : allBlank (withoutComment text) = true)
    (rest : List (List Char)) : visible (text :: rest) = visible rest := by
  rw [visible, List.map_cons, List.filter_cons_of_neg (by simp [h]), visible]

theorem visible_cons {text : List Char} (h : ¬allBlank (withoutComment text) = true)
    (rest : List (List Char)) :
    visible (text :: rest) = withoutComment text :: visible rest := by
  rw [visible, List.map_cons, List.filter_cons_of_pos (by simp [h]), visible]

/-! ### Lines that bring a reader back -/

theorem abandon_fst (r : Reader) (reason : DiscardReason) :
    (r.abandon reason).1 = ⟨.outside, r.pending⟩ := by
  obtain ⟨phase, pending⟩ := r
  cases phase <;> rfl

/-- Lines that open a statement first abandon the one that is open. -/
theorem readLines_opener {texts : List (List Char)} {first : List Char}
    (h : first ∈ (visible texts).head?) (ho : (opener? (trimStart first)).isSome = true)
    (r : Reader) (line : UInt64) :
    r.readLines line texts =
      (r.abandon .unterminated).2 ++ Reader.readLines ⟨.outside, r.pending⟩ line texts := by
  induction texts generalizing line with
  | nil => cases h
  | cons text rest ih =>
    by_cases hb : allBlank (withoutComment text) = true
    · rw [visible_cons_of_blank hb] at h
      rw [readLines_cons, readLine_blank hb, readLines_cons, readLine_blank hb, ih h]
      rfl
    · rw [visible_cons hb, List.head?_cons, Option.mem_some_iff] at h
      subst h
      have hnone : (⟨.outside, r.pending⟩ : Reader).abandon .unterminated =
          (⟨.outside, r.pending⟩, []) := rfl
      rw [readLines_cons, readLine_opener ho, readLines_cons, readLine_opener ho, abandon_fst,
        hnone, List.nil_append, List.append_assoc]

/-- A line that opens no statement leaves a reader outside that was outside. -/
theorem Followed.outside {line : UInt64} {pending : Option String} {text : List Char}
    {last : Reader} {ps : List Passage} (h : Followed line ⟨.outside, pending⟩ text last ps)
    (ho : opener? (trimStart text) = none) : last.phase = .outside := by
  cases h with
  | opens hs => rw [ho] at hs; cases hs
  | annotates => rfl
  | strays => rfl
  | rests => rfl

/-- Whatever is open in front of it, the line `);` is its end. -/
theorem readLine_closes {raw : List Char} (h : trim (withoutComment raw) = [')', ';'])
    (r : Reader) (line : UInt64) : (r.readLine line raw).1.phase = .outside := by
  obtain ⟨front, back, hf, hb, htext⟩ := exists_of_trim_closer h
  have hclosed := closer_opens_nothing h
  have ho : ¬(opener? (trimStart (withoutComment raw))).isSome = true := by simp [hclosed]
  have hv : ¬allBlank (withoutComment raw) = true := by
    rw [← trim_eq_nil_iff, h]
    exact List.cons_ne_nil _ _
  by_cases hu : r.phase.isUnbalanced = true
  · rw [readLine_closer hv ho ⟨h, hu⟩, abandon_fst]
  rw [readLine_inner hv ho fun hc => hu hc.2]
  obtain ⟨phase, pending⟩ := r
  cases phase with
  | outside => exact (Reader.followed _ line _).outside hclosed
  | scope o body nesting broken =>
    -- Nothing is left open in this scope, so the line closes it and ends the statement.
    have hn : broken = false ∧ nesting = .none := by simpa [Phase.isUnbalanced] using hu
    obtain ⟨rfl, rfl⟩ := hn
    have hs : scanScope .none (withoutComment raw) = .closed front (';' :: back) := by
      rw [htext]
      exact scanScope_end (.blank hf) _
    rw [(Followed.closes hs (.ends rfl (.rests hb))).follow_eq]
  | trailer o body broken sofar =>
    have hsemi : ';' ∉ front ++ [')'] := by
      simpa using not_mem_of_allBlank hf (c := ';') (by decide)
    have hs : atSemicolon? (withoutComment raw) = some (front ++ [')'], back) := by
      rw [htext, ← atSemicolon?_append hsemi back, List.append_assoc]
      rfl
    rw [(Followed.ends hs (.rests hb)).follow_eq]

theorem advance_blank {texts : List (List Char)} (h : visible texts = []) (r : Reader)
    (line : UInt64) : (r.advance line texts).1 = r := by
  induction texts generalizing line with
  | nil => rfl
  | cons text rest ih =>
    by_cases hb : allBlank (withoutComment text) = true
    · rw [visible_cons_of_blank hb] at h
      rw [Reader.advance, readLine_blank hb]
      exact ih h (line + 1)
    · rw [visible_cons hb] at h
      cases h

/-- Lines that close a statement last leave the reader outside. -/
theorem advance_closes {texts : List (List Char)} {closing : List Char}
    (h : closing ∈ (visible texts).getLast?) (hc : trim closing = [')', ';']) (r : Reader)
    (line : UInt64) : (r.advance line texts).1.phase = .outside := by
  induction texts generalizing r line with
  | nil => cases h
  | cons text rest ih =>
    by_cases hb : allBlank (withoutComment text) = true
    · rw [visible_cons_of_blank hb] at h
      exact ih h _ _
    · rw [visible_cons hb] at h
      by_cases hr : visible rest = []
      · -- This line is the last one to be seen, and the reader comes out of it outside.
        rw [hr, List.getLast?_singleton, Option.mem_some_iff] at h
        subst h
        rw [Reader.advance, advance_blank hr]
        exact readLine_closes hc r line
      · rw [List.getLast?_cons_of_ne_nil hr] at h
        exact ih h _ _

/-! ### Documents -/

/-- **What a reader passes in a text that is cut where it finds its way again.** -/
theorem passages_append {before after : String} (hb : EndsLine before.toList)
    (h : OpensFirst after ∨ ClosesLast before) :
    passages (before ++ after) =
      passages before ++
        (lend (nameLeft before) (passages after)).map (Passage.shift (lineCount before)) := by
  have hcut : ∀ line, (readerAfter before).readLines line (lines after.toList) =
      ((readerAfter before).abandon .unterminated).2 ++
        Reader.readLines ⟨.outside, nameLeft before⟩ line (lines after.toList) := by
    intro line
    rcases h with ⟨first, hfirst, ho⟩ | ⟨closing, hlast, hc⟩
    · exact readLines_opener hfirst ho (readerAfter before) line
    · have hout : (readerAfter before).phase = .outside := advance_closes hlast hc .start 1
      rw [abandon_outside hout, List.nil_append, nameLeft, ← hout]
  -- Behind the cut it is a fresh reader that holds the name and counts on from the first part.
  have hfresh : (⟨.outside, nameLeft before⟩ : Reader) =
      (Reader.start.lend (nameLeft before)).shift (lineCount before) := rfl
  rw [passages, String.toList_append, lines_append hb, readLines_append, ← readerAfter, ← lineCount,
    hcut, hfresh, readLines_shift, readLines_lend, ← List.append_assoc, readerAfter,
    ← readLines_eq]
  rfl

theorem filterMap_draft?_shift (n : UInt64) (ps : List Passage) :
    (ps.map (Passage.shift n)).filterMap Passage.draft? =
      (ps.filterMap Passage.draft?).map (Draft.shift n) := by
  rw [List.filterMap_map, List.map_filterMap]
  congr 1
  funext p
  cases p with
  | ended reading => cases reading <;> rfl
  | _ => rfl

theorem filterMap_discarded?_shift (n : UInt64) (ps : List Passage) :
    (ps.map (Passage.shift n)).filterMap Passage.discarded? =
      (ps.filterMap Passage.discarded?).map (Discarded.shift n) := by
  rw [List.filterMap_map, List.map_filterMap]
  congr 1
  funext p
  cases p with
  | ended reading => cases reading <;> rfl
  | _ => rfl

/-- A name is lent to rules only. -/
theorem filterMap_discarded?_lend (name : Option String) (ps : List Passage) :
    (lend name ps).filterMap Passage.discarded? = ps.filterMap Passage.discarded? := by
  fun_induction lend name ps with
  | case1 => rfl
  | case2 o rest ih => exact ih
  | case3 reading rest => cases reading <;> rfl
  | case4 line rest ih => exact ih

/-- The drafts of a document that is read with a name ready. -/
def draftsWith (name : Option String) (document : String) : List Draft :=
  (lend name (passages document)).filterMap Passage.draft?

/-- A name that is ready changes the first draft at most, and that only if it has no name. -/
theorem draftsWith_cases (name : Option String) (document : String) :
    draftsWith name document = draftsWith none document ∨
      ∃ first rest, draftsWith none document = first :: rest ∧
        draftsWith name document = {first with opening := first.opening.lend name} :: rest := by
  rw [draftsWith, draftsWith, lend_none]
  fun_induction lend name (passages document) with
  | case1 => exact .inl rfl
  | case2 o rest ih => exact ih
  | case3 reading rest =>
    cases reading with
    | accepted o principal action => exact .inr ⟨_, _, rfl, rfl⟩
    | discarded block => exact .inl rfl
  | case4 line rest ih => exact ih

theorem drafts_append {before after : String} (hb : EndsLine before.toList)
    (h : OpensFirst after ∨ ClosesLast before) :
    drafts (before ++ after) =
      drafts before ++ (draftsWith (nameLeft before) after).map (Draft.shift (lineCount before)) := by
  rw [drafts, passages_append hb h, List.filterMap_append, filterMap_draft?_shift, draftsWith]
  rfl

theorem rules_append {before after : String} (hb : EndsLine before.toList)
    (h : OpensFirst after ∨ ClosesLast before) :
    rules (before ++ after) =
      rules before ++
        numbered (rules before).length
          ((draftsWith (nameLeft before) after).map (Draft.shift (lineCount before))) := by
  rw [rules_eq, rules_eq, drafts_append hb h, numbered_append, length_numbered, Nat.zero_add]

/-- **A text is reported as its parts are when it is cut where a reader finds its way.** The
second part's discarded statements and rules stand as many lines further down as the first
part has; its rules without a name are named by their places behind the rules of the first;
and a name that the first part leaves goes to the first statement of the second, which
changes its first draft at most. -/
theorem report_append {before after : String} (hb : EndsLine before.toList)
    (h : OpensFirst after ∨ ClosesLast before) :
    (report (before ++ after)).discarded =
        (report before).discarded ++
          (report after).discarded.map (Discarded.shift (lineCount before)) ∧
      (report after).rules = numbered 0 (draftsWith none after) ∧
      (report (before ++ after)).rules =
        (report before).rules ++
          numbered (report before).rules.length
            ((draftsWith (nameLeft before) after).map (Draft.shift (lineCount before))) ∧
      (draftsWith (nameLeft before) after = draftsWith none after ∨
        ∃ first rest, draftsWith none after = first :: rest ∧
          draftsWith (nameLeft before) after =
            {first with opening := first.opening.lend (nameLeft before)} :: rest) := by
  refine ⟨?_, ?_, rules_append hb h, draftsWith_cases _ after⟩
  · rw [report_eq, report_eq, report_eq, passages_append hb h, List.filterMap_append,
      filterMap_discarded?_shift, filterMap_discarded?_lend]
  · rw [report_eq, draftsWith, lend_none, drafts]

/-- A list that is never closed costs one statement, and the annotation behind it names the
statement that opens next. -/
theorem report_append_broken_list :
    EndsLine ("permit(principal in [\n);\n@id(\"night\")" ++ "\n").toList ∧
      OpensFirst "forbid(principal, action);" ∧
      report ("permit(principal in [\n);\n@id(\"night\")" ++ "\n" ++ "forbid(principal, action);") =
        ⟨[⟨"night", .forbid, .unconstrained, .unconstrained, 4⟩], [⟨1, .unbalanced⟩]⟩ := by
  have hb := endsLine_newline "permit(principal in [\n);\n@id(\"night\")"
  have ho : OpensFirst "forbid(principal, action);" := ⟨_, rfl, by decide⟩
  obtain ⟨hdiscarded, -, hrules, -⟩ := report_append hb (.inl ho)
  refine ⟨hb, ho, ?_⟩
  refine (Report.mk.injEq ..).mpr ⟨hrules.trans ?_, hdiscarded.trans ?_⟩
  · decide +kernel
  · decide +kernel

/-! ### A statement on the first line -/

section
variable {effect : Effect} {principal : PrincipalConstraint} {action : ActionConstraint}
  {line after : String}

theorem passages_statementLine (h : StatementLine effect principal action line.toList)
    (ha : StartsBreak after.toList) :
    passages (line ++ after) =
      .opened ⟨effect, 1, none⟩ :: .ended (.accepted ⟨effect, 1, none⟩ principal action) ::
        Reader.start.readLines 2 (lines (afterBreak after.toList)) := by
  rw [passages, String.toList_append, lines_line h.oneLine ha, readLines_cons, Reader.start,
    h.readLine]
  rfl

theorem drafts_statementLine (h : StatementLine effect principal action line.toList)
    (ha : StartsBreak after.toList) (name : Option String) :
    ∃ rest, draftsWith name (line ++ after) = ⟨⟨effect, 1, name⟩, principal, action⟩ :: rest := by
  rw [draftsWith, passages_statementLine h ha]
  exact ⟨_, rfl⟩

theorem opensFirst_statementLine (h : StatementLine effect principal action line.toList)
    (ha : StartsBreak after.toList) : OpensFirst (line ++ after) := by
  refine ⟨line.toList, ?_, h.opener⟩
  have hb : ¬allBlank (withoutComment line.toList) = true := by
    rw [h.withoutComment, h.visible]
    decide
  rw [String.toList_append, lines_line h.oneLine ha, visible_cons hb, h.withoutComment]
  rfl

end

end Portcullis.Policy
