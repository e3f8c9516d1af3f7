import Portcullis.Proofs.Policy.Resynchronisation
import Portcullis.Proofs.Policy.Writing

/-! Which statement an annotation names.

An annotation on a line of its own names the statement on the line below it, as long as the
text in front of it leaves no statement open (`annotation_names_next`). A statement that is open
takes the line as text of its own: nothing is named by it then, since what is left of the
line behind the end of a statement never starts an annotation (`AnnotationLine.nameless`). The
statement below opens in either case, and without a name it is named by its place. -/
namespace Portcullis.Policy
open Text

/-! ### Names that are ready -/

/-- While a statement is open no name is ready: the statement took it when it opened. -/
theorem Followed.pending_inside {line : UInt64} {r last : Reader} {text : List Char}
    {ps : List Passage} (h : Followed line r text last ps)
    (hr : r.phase ≠ .outside → r.pending = none) :
    last.phase ≠ .outside → last.pending = none := by
  induction h with
  | opens _ _ ih => exact ih fun _ => rfl
  | annotates => exact fun hlast => absurd rfl hlast
  | strays => exact fun hlast => absurd rfl hlast
  | rests => exact fun hlast => absurd rfl hlast
  | closes _ _ ih => exact ih fun _ => hr (by simp)
  | stays => exact fun _ => hr (by simp)
  | ends _ _ ih => exact ih fun hout => absurd rfl hout
  | waits => exact fun _ => hr (by simp)

theorem readLine_pending_inside {r : Reader} (hr : r.phase ≠ .outside → r.pending = none)
    (line : UInt64) (raw : List Char) :
    (r.readLine line raw).1.phase ≠ .outside → (r.readLine line raw).1.pending = none := by
  by_cases hb : allBlank (withoutComment raw) = true
  · rwa [readLine_blank hb]
  by_cases ho : (opener? (trimStart (withoutComment raw))).isSome = true
  · rw [readLine_opener ho, abandon_fst]
    exact (Reader.followed _ line _).pending_inside fun hout => absurd rfl hout
  by_cases hc : trim (withoutComment raw) = [')', ';'] ∧ r.phase.isUnbalanced = true
  · rw [readLine_closer hb ho hc, abandon_fst]
    exact fun hout => absurd rfl hout
  · rw [readLine_inner hb ho hc]
    exact (r.followed line _).pending_inside hr

theorem advance_pending_inside {r : Reader} (hr : r.phase ≠ .outside → r.pending = none)
    (line : UInt64) (texts : List (List Char)) :
    (r.advance line texts).1.phase ≠ .outside → (r.advance line texts).1.pending = none := by
  induction texts generalizing r line with
  | nil => exact hr
  | cons text rest ih => exact ih (readLine_pending_inside hr line text) (line + 1)

/-- No annotation starts anywhere in the text. -/
def Nameless (text : List Char) : Prop := ∀ u, u <:+ text → annotation? (trimStart u) = none

theorem Nameless.of_suffix {text rest : List Char} (h : Nameless text) (hrest : rest <:+ text) :
    Nameless rest :=
  fun u hu => h u (hu.trans hrest)

theorem closed_suffix {n : Nesting} {text body rest : List Char}
    (h : scanScope n text = .closed body rest) : rest <:+ text :=
  ⟨body ++ [')'], by rw [scanScope_closed h]; simp⟩

theorem atSemicolon?_suffix {text before rest : List Char}
    (h : atSemicolon? text = some (before, rest)) : rest <:+ text :=
  ⟨before ++ [';'], by rw [(atSemicolon?_eq_some_iff.mp h).1]; simp⟩

/-- Where no annotation starts no name is made ready. -/
theorem Followed.pending_none {line : UInt64} {r last : Reader} {text : List Char}
    {ps : List Passage} (h : Followed line r text last ps) (hr : r.pending = none)
    (hclean : Nameless text) : last.pending = none := by
  induction h with
  | opens ho _ ih => exact ih rfl (hclean.of_suffix (opens_suffix ho))
  | annotates _ ha =>
    rw [hclean _ List.suffix_rfl] at ha
    cases ha
  | strays => exact hr
  | rests => exact hr
  | closes hs _ ih => exact ih hr (hclean.of_suffix (closed_suffix hs))
  | stays => exact hr
  | ends hs _ ih => exact ih hr (hclean.of_suffix (atSemicolon?_suffix hs))
  | waits => exact hr

/-- A statement that is open takes the front of a line: a name is made ready behind it only. -/
theorem Followed.pending_none_inside {line : UInt64} {r last : Reader} {text : List Char}
    {ps : List Passage} (h : Followed line r text last ps) (hinside : r.phase ≠ .outside)
    (hr : r.pending = none)
    (hclean : ∀ rest, rest <:+ text → rest.length < text.length → Nameless rest) :
    last.pending = none := by
  cases h with
  | opens => exact absurd rfl hinside
  | annotates => exact absurd rfl hinside
  | strays => exact absurd rfl hinside
  | rests => exact absurd rfl hinside
  | closes hs hrest =>
    exact hrest.pending_none hr (hclean _ (closed_suffix hs) (scanScope_closed_length hs))
  | stays => exact hr
  | ends hs hrest =>
    exact hrest.pending_none hr (hclean _ (atSemicolon?_suffix hs) (atSemicolon?_length hs))
  | waits => exact hr

/-! ### The line of an annotation -/

/-- Inside a literal a quote stands behind a backslash: one that does not ends the literal. -/
theorem Spells.closing {value body tail front rest : List Char} (h : Spells value body)
    (htail : '"' ∉ tail) (hfront : front.getLast? ≠ some '\\')
    (hsplit : body ++ '"' :: tail = front ++ '"' :: rest) : rest = tail := by
  induction h generalizing front with
  | nil =>
    cases front with
    | nil => exact (List.cons.inj hsplit).2.symm
    | cons c front =>
      obtain ⟨-, rfl⟩ := List.cons.inj hsplit
      exact absurd (List.mem_append_right front List.mem_cons_self) htail
  | plain hq _ _ ih =>
    cases front with
    | nil => exact absurd (List.cons.inj hsplit).1 hq
    | cons c front =>
      refine ih (fun hlast => hfront ?_) (List.cons.inj hsplit).2
      rw [List.getLast?_cons, hlast]
      rfl
  | escaped _ ih =>
    match front, hfront, hsplit with
    | [], _, hsplit => cases hsplit
    | [c], hfront, hsplit =>
      obtain ⟨rfl, -⟩ := List.cons.inj hsplit
      exact absurd rfl hfront
    | c :: d :: front, hfront, hsplit =>
      refine ih (fun hlast => hfront ?_) (List.cons.inj (List.cons.inj hsplit).2).2
      rw [List.getLast?_cons_cons, List.getLast?_cons, hlast]
      rfl

/-- Where an annotation starts its word stands, and a quote with no backslash in front of it
that opens a literal. -/
theorem exists_of_annotation? {text name : List Char} (h : annotation? (trimStart text) = some name) :
    ∃ lead middle value, text = lead ++ '@' :: (middle ++ '"' :: value) ∧
      ('@' :: middle).getLast? ≠ some '\\' ∧ (literalBody? value).isSome = true := by
  obtain ⟨arguments, harguments, hname⟩ := Option.bind_eq_some_iff.mp h
  obtain ⟨⟨value, rest⟩, hliteral, -⟩ := Option.bind_eq_some_iff.mp hname
  obtain ⟨gap, -, hword⟩ := argument?_eq_some_iff.mp harguments
  obtain ⟨lead, -, hlead⟩ := exists_front text
  obtain ⟨before, hbefore, hback⟩ := exists_front arguments
  cases htrim : trimStart arguments with
  | nil =>
    rw [htrim] at hliteral
    cases hliteral
  | cons c body =>
    rw [htrim] at hliteral hback
    by_cases hc : c = '"'
    · subst hc
      refine ⟨lead, ['i', 'd'] ++ (gap ++ '(' :: before), body, ?_, ?_, ?_⟩
      · rw [hword, hback] at hlead
        rw [hlead]
        simp [idWord]
      · have hlast : ('@' :: (['i', 'd'] ++ (gap ++ '(' :: before))) =
            ('@' :: 'i' :: 'd' :: gap) ++ '(' :: before := rfl
        rw [hlast, List.getLast?_append, List.getLast?_cons, Option.some_or, ← List.getLast?_cons]
        intro hmem
        have hslash : '\\' ∈ '(' :: before := List.mem_of_getLast? hmem
        rw [List.mem_cons] at hslash
        rcases hslash with hslash | hslash
        · cases hslash
        · exact not_mem_of_allBlank hbefore (by decide) hslash
      · rw [show literalBody? body = some (value, rest) from hliteral]
        rfl
    · rw [literal?] at hliteral
      · cases hliteral
      · rintro tail heq
        exact hc (List.cons.inj heq).1

/-- Behind its first character no annotation starts on the line of an annotation. -/
theorem AnnotationLine.nameless {name line rest : List Char} (h : AnnotationLine name line)
    (hrest : rest <:+ line) (hlt : rest.length < line.length) : Nameless rest := by
  intro u hu
  obtain ⟨⟨body, hs, rfl⟩, -⟩ := h
  rw [Option.eq_none_iff_forall_ne_some]
  intro other hother
  obtain ⟨lead, middle, value, rfl, hlast, hvalue⟩ := exists_of_annotation? hother
  obtain ⟨front, hfront⟩ := hu.trans hrest
  have hne : front ++ lead ≠ [] := by
    intro hnil
    obtain ⟨rfl, rfl⟩ := List.append_eq_nil_iff.mp hnil
    rw [← hfront] at hlt
    exact absurd hu.length_le (Nat.not_le.mpr (by simpa using hlt))
  -- The word of the annotation stands in the literal, and its quote is the one that ends that.
  have hinside : ∃ before, body ++ ['"', ')'] = before ++ '@' :: (middle ++ '"' :: value) := by
    rw [← List.append_assoc] at hfront
    cases hw : front ++ lead with
    | nil => exact absurd hw hne
    | cons c before =>
      rw [hw] at hfront
      have htail : before ++ '@' :: (middle ++ '"' :: value) =
          ['i', 'd', '(', '"'] ++ (body ++ ['"', ')']) := (List.cons.inj hfront).2
      rcases List.append_eq_append_iff.mp htail with ⟨t, ht, hback⟩ | ⟨t, -, hback⟩
      · cases t with
        | nil => exact ⟨[], hback.symm⟩
        | cons d t =>
          obtain ⟨rfl, -⟩ := List.cons.inj hback
          have hmem : '@' ∈ ['i', 'd', '(', '"'] := by
            rw [ht]
            exact List.mem_append_right before List.mem_cons_self
          exact absurd hmem (by decide)
      · exact ⟨t, hback⟩
  obtain ⟨before, hbefore⟩ := hinside
  have hquote : body ++ '"' :: [')'] = (before ++ '@' :: middle) ++ '"' :: value := by
    rw [hbefore]
    simp
  have hslash : (before ++ '@' :: middle).getLast? ≠ some '\\' := by
    rwa [List.getLast?_append, List.getLast?_cons, Option.some_or, ← List.getLast?_cons]
  rw [hs.closing (by decide) hslash hquote] at hvalue
  cases hvalue

/-- A statement that is open takes the line of an annotation, and no name is ready behind it. -/
theorem AnnotationLine.readLine_inside {name line : List Char} (h : AnnotationLine name line)
    {r : Reader} (hinside : r.phase ≠ .outside) (hr : r.pending = none) (number : UInt64) :
    (r.readLine number line).1.pending = none := by
  have hvisible : ¬allBlank (withoutComment line) = true := by
    rw [withoutComment_sealed h.sealed]
    obtain ⟨⟨body, -, rfl⟩, -⟩ := h
    have hat : isBlank '@' = false := by decide
    simp [idWord, hat]
  have hopens : ¬(opener? (trimStart (withoutComment line))).isSome = true := by
    rw [withoutComment_sealed h.sealed, h.opener?_eq_none]
    decide
  have hcloser : trim (withoutComment line) ≠ [')', ';'] := by
    rw [withoutComment_sealed h.sealed, trim, h.trimStart_eq]
    obtain ⟨⟨body, -, rfl⟩, -⟩ := h
    rw [idWord, List.cons_append, trimEnd_cons_of_not_blank (by decide)]
    exact fun heq => absurd (List.cons.inj heq).1 (by decide)
  rw [readLine_inner hvisible hopens fun hc => hcloser hc.1, withoutComment_sealed h.sealed]
  exact (r.followed number line).pending_none_inside hinside hr fun _ => h.nameless

/-! ### The line in front of a statement -/

/-- The text leaves a statement open. -/
def LeavesOpen (document : String) : Prop := (readerAfter document).phase ≠ .outside

instance (document : String) : Decidable (LeavesOpen document) :=
  inferInstanceAs (Decidable (_ ≠ _))

section
variable {before note stop : String} {name : List Char}

/-- A line that an end follows adds itself to the lines in front of it. -/
theorem lines_note (hb : EndsLine before.toList) (hn : AnnotationLine name note.toList)
    (hstop : stop = "" ∨ stop = "\n" ∨ stop = "\r\n") :
    lines (before ++ note ++ stop).toList = lines before.toList ++ [note.toList] := by
  have hbreak : StartsBreak stop.toList ∧ lines (afterBreak stop.toList) = [] := by
    rcases hstop with rfl | rfl | rfl
    · exact ⟨.inl rfl, rfl⟩
    · exact ⟨.inr (.inl ⟨[], rfl⟩), rfl⟩
    · exact ⟨.inr (.inr ⟨[], rfl⟩), rfl⟩
  rw [String.append_assoc, String.toList_append, lines_append hb, String.toList_append,
    lines_line hn.oneLine hbreak.1, hbreak.2]

theorem endsLine_stop (hstop : stop = "\n" ∨ stop = "\r\n") (text : String) :
    EndsLine (text ++ stop).toList := by
  rcases hstop with rfl | rfl
  · exact endsLine_newline text
  · exact .inr ⟨text.toList ++ ['\r'], by simp⟩

theorem readerAfter_note (hb : EndsLine before.toList) (hn : AnnotationLine name note.toList)
    (hstop : stop = "" ∨ stop = "\n" ∨ stop = "\r\n") :
    readerAfter (before ++ note ++ stop) =
      ((readerAfter before).readLine (1 + lineCount before) note.toList).1 := by
  rw [readerAfter, lines_note hb hn hstop, advance_append_fst]
  rfl

theorem passages_note (hb : EndsLine before.toList) (hn : AnnotationLine name note.toList)
    (hstop : stop = "" ∨ stop = "\n" ∨ stop = "\r\n") :
    passages (before ++ note ++ stop) =
      (Reader.start.advance 1 (lines before.toList)).2 ++
        (readerAfter before).readLines (1 + lineCount before) [note.toList] := by
  rw [passages, lines_note hb hn hstop, readLines_append]
  rfl

/-- Outside statements the line passes nothing. -/
theorem report_note_outside (hb : EndsLine before.toList) (hn : AnnotationLine name note.toList)
    (hstop : stop = "" ∨ stop = "\n" ∨ stop = "\r\n") (hout : ¬LeavesOpen before) :
    report (before ++ note ++ stop) = report before := by
  have hphase : (readerAfter before).phase = .outside := Decidable.not_not.mp hout
  have hreader : readerAfter before = ⟨.outside, (readerAfter before).pending⟩ := by rw [← hphase]
  have hpassages : passages (before ++ note ++ stop) = passages before := by
    have hbefore : passages before = (Reader.start.advance 1 (lines before.toList)).2 ++
        ((readerAfter before).abandon .unterminated).2 := readLines_eq ..
    rw [passages_note hb hn hstop, hbefore, abandon_outside hphase, hreader, readLines_cons,
      hn.readLine]
    rfl
  rw [report_eq, report_eq, drafts, drafts, hpassages]

/-- It is the same with or without the end of the line. -/
theorem report_note_stop (hb : EndsLine before.toList) (hn : AnnotationLine name note.toList)
    (hstop : stop = "" ∨ stop = "\n" ∨ stop = "\r\n") :
    report (before ++ note ++ stop) = report (before ++ note) := by
  have hpassages : passages (before ++ note ++ stop) = passages (before ++ note ++ "") := by
    rw [passages_note hb hn hstop, passages_note hb hn (.inl rfl)]
  rw [report_eq, drafts, hpassages, String.append_empty, ← drafts, ← report_eq]

end

/-- A statement on the last line adds its rule to those of the text in front of it, with the
name that the text leaves. -/
theorem report_statementLine {before line : String} {effect : Effect}
    {principal : PrincipalConstraint} {action : ActionConstraint} (hb : EndsLine before.toList)
    (hl : StatementLine effect principal action line.toList) :
    report (before ++ line) =
      ⟨rules before ++ [⟨(nameLeft before).getD (placeName (rules before).length), effect,
        principal, action, lineCount before + 1⟩], (report before).discarded⟩ := by
  have hpassages := passages_statementLine hl (.inl rfl : StartsBreak "".toList)
  have hopens := opensFirst_statementLine hl (.inl rfl : StartsBreak "".toList)
  rw [String.append_empty] at hpassages hopens
  obtain ⟨hdiscarded, -, hrules, -⟩ := report_append hb (.inl hopens)
  refine (Report.mk.injEq ..).mpr ⟨hrules.trans ?_, hdiscarded.trans ?_⟩
  · rw [draftsWith, hpassages, UInt64.add_comm (lineCount before)]
    rfl
  · rw [report_eq line, hpassages]
    exact List.append_nil _

/-- **An annotation names the statement on the line below it, if no statement is open in front
of the annotation.** The statement is then the only one that has the name from there. Behind
text that leaves a statement open, the line of the annotation is text of that statement; the
statement below opens there too, and is named by its place. -/
theorem annotation_names_next {before note stop line : String} {name : List Char}
    {effect : Effect} {principal : PrincipalConstraint} {action : ActionConstraint}
    (hb : EndsLine before.toList) (hn : AnnotationLine name note.toList)
    (hstop : stop = "\n" ∨ stop = "\r\n")
    (hl : StatementLine effect principal action line.toList) :
    (¬LeavesOpen before →
      report (before ++ note ++ stop ++ line) =
        ⟨rules before ++
          [⟨String.ofList name, effect, principal, action, lineCount before + 2⟩],
          (report before).discarded⟩) ∧
    (LeavesOpen before →
      report (before ++ note ++ stop ++ line) =
        ⟨rules (before ++ note) ++
          [⟨placeName (rules (before ++ note)).length, effect, principal, action,
            lineCount before + 2⟩],
          (report (before ++ note)).discarded⟩) := by
  have hlines := lines_note hb hn (.inr hstop)
  have hcount : lineCount (before ++ note ++ stop) + 1 = lineCount before + 2 := by
    rw [lineCount, hlines, List.length_append, UInt64.ofNat_add, UInt64.add_assoc]
    rfl
  have hreport := report_statementLine (endsLine_stop hstop (before ++ note)) hl
  have hreader := readerAfter_note hb hn (.inr hstop)
  rw [hcount, nameLeft, hreader] at hreport
  constructor
  · intro hout
    have hphase : (readerAfter before).phase = .outside := Decidable.not_not.mp hout
    have hreaderBefore : readerAfter before = ⟨.outside, (readerAfter before).pending⟩ := by
      rw [← hphase]
    rw [hreaderBefore, hn.readLine, rules, report_note_outside hb hn (.inr hstop) hout] at hreport
    exact hreport
  · intro hopen
    have hpending : (readerAfter before).pending = none :=
      advance_pending_inside (fun hout => absurd rfl hout) 1 _ hopen
    rw [hn.readLine_inside hopen hpending, rules, report_note_stop hb hn (.inr hstop)] at hreport
    exact hreport

/-- The line that forbids everything. -/
def barsAll : String := "forbid(principal, action, resource);"

theorem barsAll_statementLine :
    StatementLine .forbid .unconstrained .unconstrained barsAll.toList :=
  let bank : Path := .word ['B', 'a', 'n', 'k'] (.of_all (by decide) (by decide))
  (⟨"", .forbid, .unconstrained, .unconstrained, 0⟩ : Rule).statementLine bank bank

/-- A line with a name that holds a quote. -/
def namesNight : String := "@id(\"the \\\"night\\\"\")"

theorem namesNight_annotationLine : AnnotationLine "the \"night\"".toList namesNight.toList :=
  (⟨"the \"night\"", .forbid, .unconstrained, .unconstrained, 0⟩ : Rule).annotationLine

/-- Behind a list that is never closed, given up at its end, the name is taken as it stands. -/
theorem annotation_names_next_given_up :
    EndsLine ("permit(principal in [\n);" ++ "\n").toList ∧
      AnnotationLine "the \"night\"".toList namesNight.toList ∧
      StatementLine .forbid .unconstrained .unconstrained barsAll.toList ∧
      ¬LeavesOpen ("permit(principal in [\n);" ++ "\n") ∧
      report ("permit(principal in [\n);" ++ "\n" ++ namesNight ++ "\n" ++ barsAll) =
        ⟨[⟨"the \"night\"", .forbid, .unconstrained, .unconstrained, 4⟩], [⟨1, .unbalanced⟩]⟩ := by
  have hb := endsLine_newline "permit(principal in [\n);"
  have hout : ¬LeavesOpen ("permit(principal in [\n);" ++ "\n") := by decide +kernel
  obtain ⟨hnamed, -⟩ := annotation_names_next hb namesNight_annotationLine (.inl rfl)
    barsAll_statementLine
  refine ⟨hb, namesNight_annotationLine, barsAll_statementLine, hout, (hnamed hout).trans ?_⟩
  decide +kernel

/-- **A statement that is not finished takes the name with it.** The forbid below the annotation is
named by its place, and nothing has the name. -/
theorem annotation_lost_inside_statement :
    EndsLine ("permit(" ++ "\n").toList ∧
      AnnotationLine "the \"night\"".toList namesNight.toList ∧
      StatementLine .forbid .unconstrained .unconstrained barsAll.toList ∧
      report ("permit(" ++ "\n" ++ namesNight ++ "\n" ++ barsAll) =
        ⟨[⟨"policy0", .forbid, .unconstrained, .unconstrained, 3⟩], [⟨1, .unterminated⟩]⟩ ∧
      ¬∃ r ∈ rules ("permit(" ++ "\n" ++ namesNight ++ "\n" ++ barsAll), r.id = "the \"night\"" := by
  have hreport : report ("permit(" ++ "\n" ++ namesNight ++ "\n" ++ barsAll) =
      ⟨[⟨"policy0", .forbid, .unconstrained, .unconstrained, 3⟩], [⟨1, .unterminated⟩]⟩ := by
    decide +kernel
  refine ⟨endsLine_newline "permit(", namesNight_annotationLine, barsAll_statementLine, hreport, ?_⟩
  rw [rules, hreport]
  simp

end Portcullis.Policy
