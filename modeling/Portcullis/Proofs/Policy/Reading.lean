import Portcullis.Proofs.Policy.Following
import Portcullis.Proofs.Text.LineBreaks

/-! Reading lines, and what a report makes of the passages.

`Reader.advance` reads lines and stays ready for more, so readings compose
(`readLines_append`). A report keeps of all passages the drafts of rules, which it names by
their places, and the discarded statements (`report_eq`). -/
namespace Portcullis.Policy
open Text

/-! ### One line -/

theorem abandon_outside {r : Reader} (h : r.phase = .outside) (reason : DiscardReason) :
    r.abandon reason = (r, []) := by
  rw [Reader.abandon, h]
  rfl

/-- A line that is blank without its comment is not noticed. -/
theorem readLine_blank {raw : List Char} (h : allBlank (withoutComment raw) = true) (r : Reader)
    (line : UInt64) : r.readLine line raw = (r, []) := by
  rw [Reader.readLine, if_pos h]

/-- A line that starts with an opener is read as if no statement were open, once the open
one is abandoned. -/
theorem readLine_opener {raw : List Char}
    (h : (opener? (trimStart (withoutComment raw))).isSome = true) (r : Reader) (line : UInt64) :
    r.readLine line raw =
      (((r.abandon .unterminated).1.follow line (withoutComment raw)).1,
        (r.abandon .unterminated).2 ++
          ((r.abandon .unterminated).1.follow line (withoutComment raw)).2) := by
  have hb : allBlank (withoutComment raw) ≠ true := by
    intro hb
    rw [trimStart_eq_nil_iff.mpr hb] at h
    cases h
  rw [Reader.readLine, if_neg hb, if_pos h]

/-- The line `);` gives up a statement that has something left open. -/
theorem readLine_closer {r : Reader} {raw : List Char}
    (hb : ¬allBlank (withoutComment raw) = true)
    (ho : ¬(opener? (trimStart (withoutComment raw))).isSome = true)
    (hc : trim (withoutComment raw) = [')', ';'] ∧ r.phase.isUnbalanced = true) (line : UInt64) :
    r.readLine line raw = r.abandon .unbalanced := by
  rw [Reader.readLine, if_neg hb, if_neg ho, if_pos hc]

theorem readLine_inner {r : Reader} {raw : List Char}
    (hb : ¬allBlank (withoutComment raw) = true)
    (ho : ¬(opener? (trimStart (withoutComment raw))).isSome = true)
    (hc : ¬(trim (withoutComment raw) = [')', ';'] ∧ r.phase.isUnbalanced = true))
    (line : UInt64) : r.readLine line raw = r.follow line (withoutComment raw) := by
  rw [Reader.readLine, if_neg hb, if_neg ho, if_neg hc]

/-- Outside a statement a line is just followed. -/
theorem readLine_outside {r : Reader} (h : r.phase = .outside) (line : UInt64)
    (raw : List Char) : r.readLine line raw = r.follow line (withoutComment raw) := by
  obtain ⟨phase, pending⟩ := r
  obtain rfl : phase = .outside := h
  by_cases hb : allBlank (withoutComment raw) = true
  · rw [readLine_blank hb, (Followed.rests hb).follow_eq]
  · by_cases ho : (opener? (trimStart (withoutComment raw))).isSome = true
    · rw [readLine_opener ho, abandon_outside rfl]
      rfl
    · exact readLine_inner hb ho (by simp [Phase.isUnbalanced]) line

/-! ### A line with a statement -/

/-- A well-formed statement on one line. -/
structure StatementLine (effect : Effect) (principal : PrincipalConstraint)
    (action : ActionConstraint) (line : List Char) : Prop where
  spelled : ∃ clauses, StatementText effect clauses line ∧ Constrain clauses principal action
  unbroken : '\n' ∉ line

section
variable {effect : Effect} {principal : PrincipalConstraint} {action : ActionConstraint}
  {line : List Char}

theorem StatementLine.visible (h : StatementLine effect principal action line) :
    allBlank line = false := by
  obtain ⟨⟨clauses, hs, -⟩, -⟩ := h
  obtain ⟨-, -, -⟩ := hs
  cases effect <;> rfl

theorem StatementLine.oneLine (h : StatementLine effect principal action line) :
    OneLine line where
  visible := by
    rintro rfl
    exact absurd h.visible (by decide)
  unbroken := h.unbroken
  last := by
    obtain ⟨⟨clauses, hs, -⟩, -⟩ := h
    obtain @⟨gap, scope, trailer, -, -, -⟩ := hs
    have hend : effect.word ++ (gap ++ '(' :: (scope ++ ')' :: (trailer ++ [';']))) =
        effect.word ++ (gap ++ '(' :: (scope ++ ')' :: trailer)) ++ [';'] := by simp
    rw [hend, List.getLast?_concat]
    decide

theorem StatementLine.withoutComment (h : StatementLine effect principal action line) :
    withoutComment line = line := by
  obtain ⟨⟨clauses, hs, -⟩, -⟩ := h
  exact withoutComment_sealed hs.sealed

theorem StatementLine.opener (h : StatementLine effect principal action line) :
    (opener? (trimStart line)).isSome = true := by
  obtain ⟨⟨clauses, hs, -⟩, -⟩ := h
  obtain ⟨hg, -, -⟩ := hs
  rw [(isWord_effect effect).trimStart_append, opener?_word hg]
  rfl

/-- A reader outside a statement passes the whole statement of a line. -/
theorem StatementLine.readLine (h : StatementLine effect principal action line)
    (pending : Option String) (number : UInt64) :
    Reader.readLine ⟨.outside, pending⟩ number line =
      (⟨.outside, none⟩,
        [.opened ⟨effect, number, pending⟩,
          .ended (.accepted ⟨effect, number, pending⟩ principal action)]) := by
  obtain ⟨clauses, hs, hc⟩ := h.spelled
  have hrest : Followed number ⟨.outside, none⟩ [] ⟨.outside, none⟩ [] := .rests rfl
  have hf := Followed.statement hs hc pending [] hrest
  rw [List.append_nil] at hf
  rw [readLine_outside rfl, h.withoutComment, hf.follow_eq]

end

/-! ### A line with a name -/

/-- A line that gives a name: the literal between its parentheses spells it. -/
structure AnnotationLine (name line : List Char) : Prop where
  spelled : ∃ body, Spells name body ∧ line = idWord ++ '(' :: '"' :: (body ++ ['"', ')'])
  unbroken : '\n' ∉ line

section
variable {name line : List Char}

theorem AnnotationLine.sealed (h : AnnotationLine name line) : Sealed false line := by
  obtain ⟨⟨body, hs, rfl⟩, -⟩ := h
  have hname : Sealed true ('"' :: (body ++ ['"'])) := .literal hs .nil
  have hgroup : Sealed false ('(' :: ('"' :: (body ++ ['"']) ++ [')'])) := .parens hname .nil
  rw [List.cons_append, List.append_assoc] at hgroup
  exact .plain (by decide) (.plain (by decide) (.plain (by decide) hgroup))

theorem AnnotationLine.oneLine (h : AnnotationLine name line) : OneLine line where
  visible := by
    obtain ⟨⟨body, -, rfl⟩, -⟩ := h
    exact List.cons_ne_nil _ _
  unbroken := h.unbroken
  last := by
    obtain ⟨⟨body, -, rfl⟩, -⟩ := h
    have hend : idWord ++ '(' :: '"' :: (body ++ ['"', ')']) =
        idWord ++ '(' :: '"' :: (body ++ ['"']) ++ [')'] := by simp
    rw [hend, List.getLast?_concat]
    decide

/-- The line starts with the word that gives names. -/
theorem AnnotationLine.trimStart_eq (h : AnnotationLine name line) : trimStart line = line := by
  obtain ⟨⟨body, -, rfl⟩, -⟩ := h
  exact trimStart_cons_of_not_blank (by decide) _

theorem AnnotationLine.opener?_eq_none (h : AnnotationLine name line) :
    opener? (trimStart line) = none := by
  rw [h.trimStart_eq]
  obtain ⟨⟨body, -, rfl⟩, -⟩ := h
  rfl

/-- **The line is an annotation with its name.** -/
theorem AnnotationLine.annotation?_eq (h : AnnotationLine name line) :
    annotation? line = some name := by
  obtain ⟨⟨body, hs, rfl⟩, -⟩ := h
  have harguments : argument? idWord (idWord ++ '(' :: '"' :: (body ++ ['"', ')'])) =
      some ('"' :: (body ++ ['"', ')'])) := @argument?_word [] rfl idWord _
  have hliteral : literal? (trimStart ('"' :: (body ++ ['"', ')']))) = some (name, [')']) := by
    rw [trimStart_cons_of_not_blank (by decide)]
    exact literalBody?_of_spells hs [')']
  rw [annotation?, harguments, Option.bind_some, hliteral]
  rfl

/-- A reader outside a statement keeps the name of the line ready. -/
theorem AnnotationLine.readLine (h : AnnotationLine name line) (pending : Option String)
    (number : UInt64) :
    Reader.readLine ⟨.outside, pending⟩ number line = (⟨.outside, some (String.ofList name)⟩, []) := by
  have ha : annotation? (trimStart line) = some name := by rw [h.trimStart_eq, h.annotation?_eq]
  rw [readLine_outside rfl, withoutComment_sealed h.sealed,
    (Followed.annotates h.opener?_eq_none ha).follow_eq]

end

/-! ### Many lines -/

/-- Read lines and stay ready for more. -/
def Reader.advance (r : Reader) (line : UInt64) : List (List Char) → Reader × List Passage
  | [] => (r, [])
  | text :: rest =>
    (((r.readLine line text).1.advance (line + 1) rest).1,
      (r.readLine line text).2 ++ ((r.readLine line text).1.advance (line + 1) rest).2)

theorem readLines_cons (r : Reader) (line : UInt64) (text : List Char) (rest : List (List Char)) :
    r.readLines line (text :: rest) =
      (r.readLine line text).2 ++ (r.readLine line text).1.readLines (line + 1) rest := rfl

theorem readLines_append (r : Reader) (line : UInt64) (before after : List (List Char)) :
    r.readLines line (before ++ after) =
      (r.advance line before).2 ++
        (r.advance line before).1.readLines (line + UInt64.ofNat before.length) after := by
  induction before generalizing r line with
  | nil => simp [Reader.advance]
  | cons text rest ih =>
    have hline : line + 1 + UInt64.ofNat rest.length = line + UInt64.ofNat (rest.length + 1) := by
      rw [UInt64.ofNat_add, UInt64.add_assoc, UInt64.add_comm 1]
      rfl
    rw [List.cons_append, readLines_cons, ih, Reader.advance, List.append_assoc, hline]
    rfl

theorem advance_append_fst (r : Reader) (line : UInt64) (before after : List (List Char)) :
    (r.advance line (before ++ after)).1 =
      ((r.advance line before).1.advance (line + UInt64.ofNat before.length) after).1 := by
  induction before generalizing r line with
  | nil => simp [Reader.advance]
  | cons text rest ih =>
    have hline : line + 1 + UInt64.ofNat rest.length = line + UInt64.ofNat (rest.length + 1) := by
      rw [UInt64.ofNat_add, UInt64.add_assoc, UInt64.add_comm 1]
      rfl
    rw [List.cons_append, Reader.advance, ih, Reader.advance, hline]
    rfl

/-- At the end of the document an open statement is abandoned. -/
theorem readLines_eq (r : Reader) (line : UInt64) (texts : List (List Char)) :
    r.readLines line texts =
      (r.advance line texts).2 ++ ((r.advance line texts).1.abandon .unterminated).2 := by
  have := readLines_append r line texts []
  rwa [List.append_nil] at this

/-- What a reader has behind it after a text. -/
def readerAfter (document : String) : Reader :=
  (Reader.start.advance 1 (lines document.toList)).1

/-! ### Drafts and names -/

/-- A statement that was accepted, before it has a name. -/
structure Draft where
  opening : Opening
  principal : PrincipalConstraint
  action : ActionConstraint
  deriving DecidableEq, Repr

/-- The rule that a draft becomes at its place among the rules. -/
def Draft.rule (d : Draft) (place : Nat) : Rule :=
  ⟨d.opening.id.getD (placeName place), d.opening.effect, d.principal, d.action, d.opening.line⟩

/-- The rules that drafts become if so many rules came before. -/
def numbered (place : Nat) : List Draft → List Rule
  | [] => []
  | d :: rest => d.rule place :: numbered (place + 1) rest

def Passage.draft? : Passage → Option Draft
  | .ended (.accepted opening principal action) => some ⟨opening, principal, action⟩
  | _ => none

def Passage.discarded? : Passage → Option Discarded
  | .ended (.discarded block) => some block
  | _ => none

/-- The drafts of a document's rules, in order. -/
def drafts (document : String) : List Draft := (passages document).filterMap Passage.draft?

theorem numbered_append (place : Nat) (a b : List Draft) :
    numbered place (a ++ b) = numbered place a ++ numbered (place + a.length) b := by
  induction a generalizing place with
  | nil => rfl
  | cons d rest ih =>
    have hplace : place + 1 + rest.length = place + (rest.length + 1) := by omega
    rw [List.cons_append, numbered, ih, hplace]
    rfl

@[simp] theorem length_numbered (place : Nat) (ds : List Draft) :
    (numbered place ds).length = ds.length := by
  induction ds generalizing place with
  | nil => rfl
  | cons d rest ih => simp [numbered, ih]

theorem rules_nameRules (place : Nat) (ps : List Passage) :
    (nameRules place ps).filterMap Finding.rule? =
      numbered place (ps.filterMap Passage.draft?) := by
  fun_induction nameRules place ps with
  | case1 => rfl
  | case2 place opening rest ih => exact ih
  | case3 place opening principal action rest ih => exact congrArg _ ih
  | case4 place block rest ih => exact ih
  | case5 place line rest ih => exact ih

theorem discarded_nameRules (place : Nat) (ps : List Passage) :
    (nameRules place ps).filterMap Finding.discarded? = ps.filterMap Passage.discarded? := by
  fun_induction nameRules place ps with
  | case1 => rfl
  | case2 place opening rest ih => exact ih
  | case3 place opening principal action rest ih => exact ih
  | case4 place block rest ih => exact congrArg _ ih
  | case5 place line rest ih => exact ih

/-- **A report names the drafts by their places and lists what was discarded.** -/
theorem report_eq (document : String) :
    report document =
      ⟨numbered 0 (drafts document), (passages document).filterMap Passage.discarded?⟩ := by
  rw [report, Report.ofFindings, findings, rules_nameRules, discarded_nameRules, drafts]

theorem rules_eq (document : String) : rules document = numbered 0 (drafts document) := by
  rw [rules, report_eq]

end Portcullis.Policy
