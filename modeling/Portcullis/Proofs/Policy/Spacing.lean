import Portcullis.Proofs.Policy.Delimiting
import Portcullis.Proofs.Policy.Tokens
import Portcullis.Proofs.Policy.Tracing

/-! Statements read the same however they are spaced.

A statement is its effect and the tokens between its parentheses. It may be set over many lines,
with blanks and comments wherever tokens meet (`Arranged`); the word that opens it starts a line
and has its parenthesis on it. What is gathered of such a document is the statement with blanks
between its tokens (`Spread.ahead`), so its rule is that of the statement on one line
(`report_arranged`). -/
namespace Portcullis.Policy
open Text

/-! ### Tokens are seen as they stand -/

/-- What tokens hold in literals only. -/
def tokenBarred : List Char := ['/', '\n', '(', ')']

/-- Text on one line without a slash outside literals is solid. -/
theorem FreeOf.bare {barred text : List Char} (h : FreeOf barred text) (hslash : '/' ∈ barred)
    (rest : List Char) : withoutComment (text ++ rest) = text ++ withoutComment rest := by
  induction h with
  | nil => rfl
  | @cons c text hquote hc _ ih =>
    have hne : c ≠ '/' := by
      rintro rfl
      exact hc hslash
    simp only [withoutComment] at ih ⊢
    simp [withoutCommentFrom, hne, hquote, ih]
  | @literal value body text hs _ _ ih =>
    simp only [withoutComment] at ih ⊢
    simp [withoutCommentFrom, withoutCommentFrom_literal hs, ih]

theorem FreeOf.newline_notMem {barred text : List Char} (h : FreeOf barred text)
    (hline : '\n' ∈ barred) : '\n' ∉ text := by
  induction h with
  | nil => exact List.not_mem_nil
  | @cons c text _ hc _ ih =>
    have hne : '\n' ≠ c := by
      rintro rfl
      exact hc hline
    simp [hne, ih]
  | literal _ hbody _ ih => simp [hbody, ih]

theorem Token.freeOf (t : Token) : FreeOf tokenBarred t.text := by
  cases t with
  | word spelled =>
    refine .of_forall fun c hc => ?_
    have hword := spelled.spelled c hc
    have hplain := isPlain_of_isWordChar hword
    have hline : c ≠ '\n' := by
      rintro rfl
      exact absurd (isBlank_of_isWordChar hword) (by decide)
    simp [tokenBarred, hline, hplain.ne (d := '"') (by decide), hplain.ne (d := '/') (by decide),
      hplain.ne (d := '(') (by decide), hplain.ne (d := ')') (by decide)]
  | mark m =>
    refine .of_forall ?_
    cases m <;> simp [Token.text, Mark.text, tokenBarred]
  | literal spelled line => exact .literal spelled line .nil

theorem FreeOf.solid {barred text : List Char} (h : FreeOf barred text) (hslash : '/' ∈ barred)
    (hline : '\n' ∈ barred) (hvisible : allBlank text = false)
    (hlast : text.getLast? ≠ some '\r') : Solid text where
  oneLine :=
    { visible := by
        rintro rfl
        cases hvisible
      unbroken := h.newline_notMem hline
      last := hlast }
  visible := hvisible
  bare := h.bare hslash

theorem Token.solid (t : Token) : Solid t.text := by
  have hfree := t.freeOf
  cases t with
  | @word letters spelled =>
    refine hfree.solid (by decide) (by decide) ?_ fun hlast => ?_
    · show allBlank letters = false
      cases letters with
      | nil => exact absurd rfl spelled.visible
      | cons c letters =>
        rw [allBlank_cons, isBlank_of_isWordChar (spelled.spelled c (List.mem_cons_self ..))]
        rfl
    · have hret := spelled.spelled _ (List.mem_of_getLast? hlast)
      exact absurd (isBlank_of_isWordChar hret) (by decide)
  | mark m => cases m <;> exact hfree.solid (by decide) (by decide) (by decide) (by decide)
  | @literal id body spelled line =>
    have hquote : isBlank '"' = false := by decide
    refine hfree.solid (by decide) (by decide) ?_ ?_
    · rw [Token.text, allBlank_cons, hquote]
      rfl
    · simp [Token.text, List.getLast?_cons]

/-- **Spread with gaps, tokens are seen spread with blanks**, and kept apart as they were. -/
theorem Spread.ahead {Apart : Token → Token → Prop} {ts : List Token} {text : List Char}
    (h : Spread Gap Apart ts text) {rest : List Char} (hrest : Showing rest) :
    Showing (text ++ rest) ∧
      ∃ shown, Policy.ahead (text ++ rest) = shown ++ Policy.ahead rest ∧
        Spread (fun gap => allBlank gap = true) Apart ts shown := by
  induction h with
  | nil => exact ⟨hrest, [], rfl, .nil⟩
  | @cons t gap ts text hgap hapart _ ih =>
    obtain ⟨hshowing, shown, hahead, hshown⟩ := ih
    obtain ⟨lead, hlead, hne, hgapped⟩ := hgap.showing hshowing
    simp only [List.append_assoc]
    refine ⟨t.solid.showing _, t.text ++ (lead ++ shown), ?_, ?_⟩
    · rw [t.solid.ahead, hgapped, hahead]
      simp
    · exact .cons hlead (fun next hnext hkept => hne (hapart next hnext hkept)) hshown

/-! ### Statements -/

/-- A document that is nothing but a statement, set over its lines. Its place is the number of
the line that it opens on. -/
inductive Arranged (Apart : Token → Token → Prop) (effect : Effect) (ts : List Token) :
    Nat → List Char → Prop where
  | mk {lead blanks front body back rear} : Gap lead → allBlank blanks = true → '\n' ∉ blanks →
      Gap front → Spread Gap Apart ts body → Gap back → Rear rear →
      Arranged Apart effect ts (lead.count '\n' + 1)
        (lead ++ (effect.word ++
          (blanks ++ '(' :: (front ++ (body ++ ')' :: (back ++ ';' :: rear))))))

/-- The statement on one line. -/
def oneLine (effect : Effect) (ts : List Token) : List Char :=
  effect.word ++ '(' :: (joined ts ++ [')', ';'])

theorem solid_char {c : Char} (hc : isBlank c = false) (hquote : c ≠ '"') (hslash : c ≠ '/') :
    Solid [c] := by
  have hline : c ≠ '\n' := by
    rintro rfl
    exact absurd hc (by decide)
  have hreturn : c ≠ '\r' := by
    rintro rfl
    exact absurd hc (by decide)
  have hfree : FreeOf ['/', '\n'] [c] := .of_forall (by simp [hquote, hslash, hline])
  refine hfree.solid (by decide) (by decide) ?_ ?_
  · simp [hc]
  · simp [hreturn]

theorem solid_opener (effect : Effect) {blanks : List Char} (hb : allBlank blanks = true)
    (hline : '\n' ∉ blanks) : Solid (effect.word ++ (blanks ++ ['('])) := by
  have hword : FreeOf ['/', '\n'] effect.word :=
    (Token.word (isWord_effect effect)).freeOf.weaken (by decide)
  have hblanks : FreeOf ['/', '\n'] blanks := by
    refine .of_forall fun c hc => ?_
    have hplain := isPlain_of_isBlank (isBlank_of_mem hb hc)
    have hne : c ≠ '\n' := by
      rintro rfl
      exact hline hc
    simp [hne, hplain.ne (d := '"') (by decide), hplain.ne (d := '/') (by decide)]
  have hparen : FreeOf ['/', '\n'] ['('] := .of_forall (by simp)
  have hvisible : isBlank '(' = false := by decide
  refine (hword.append (hblanks.append hparen)).solid (by decide) (by decide) ?_ ?_
  · simp [hvisible]
  · rw [← List.append_assoc, List.getLast?_concat]
    decide

theorem FreeOf.blank {gap : List Char} (hg : allBlank gap = true) : FreeOf ['(', ')'] gap := by
  refine .of_forall fun c hc => ?_
  have hplain := isPlain_of_isBlank (isBlank_of_mem hg hc)
  simp [hplain.ne (d := '"') (by decide), hplain.ne (d := '(') (by decide),
    hplain.ne (d := ')') (by decide)]

/-- Tokens that are spread with blanks hold parentheses in literals only. -/
theorem Spread.freeOf {Apart : Token → Token → Prop} {ts : List Token} {text : List Char}
    (h : Spread (fun gap => allBlank gap = true) Apart ts text) : FreeOf ['(', ')'] text := by
  induction h with
  | nil => exact .nil
  | cons hgap _ _ ih =>
    exact (Token.freeOf _).weaken (by decide) |>.append ((FreeOf.blank hgap).append ih)

/-- **What is seen of the text between the parentheses and behind them** are the clauses, and
blanks up to the semicolon and behind it. -/
theorem ahead_statement {clauses : List Clause} {ts : List Token}
    {front body back rear : List Char} (hts : Listed ClauseTokens clauses ts) (hfront : Gap front)
    (hbody : Spread Gap Token.RunsInto ts body) (hback : Gap back) (hrear : Rear rear) :
    ∃ scope trailer rest,
      ahead (front ++ (body ++ ')' :: (back ++ ';' :: rear))) =
        scope ++ ')' :: (trailer ++ ';' :: rest) ∧
      Separated ClauseText clauses scope ∧ FreeOf ['(', ')'] scope ∧
      allBlank trailer = true ∧ allBlank rest = true := by
  have hclose : Solid [')'] := solid_char (by decide) (by decide) (by decide)
  have hend : Solid [';'] := solid_char (by decide) (by decide) (by decide)
  obtain ⟨trailer, htrailer, -, hbehind⟩ := hback.showing (hend.showing rear)
  obtain ⟨hshowing, shown, hinner, hshown⟩ :=
    hbody.ahead (hclose.showing (back ++ ';' :: rear))
  obtain ⟨lead, hlead, -, hahead⟩ := hfront.showing hshowing
  refine ⟨lead ++ shown, trailer, ahead rear, ?_, hts.scope hlead hshown,
    (FreeOf.blank hlead).append hshown.freeOf, htrailer, hrear.ahead⟩
  have hclosing := hclose.ahead (back ++ ';' :: rear)
  have hsemicolon := hend.ahead rear
  simp only [List.singleton_append] at hbehind hinner hahead hclosing hsemicolon
  rw [hahead, hinner, hclosing, hbehind, hsemicolon]
  simp

/-- What is blank opens no statement, on however many lines. -/
theorem Laid.of_blank {cur : Line} {later : List Line} (ready : Option Annotation)
    (h : allBlank (gathered (cur :: later)) = true) : Laid ready cur later [] := by
  have hnone : ∀ {text : List Char}, allBlank text = true → opener? (trimStart text) = none := by
    intro text hblank
    rw [trimStart_eq_nil_iff.mpr hblank]
    rfl
  induction later generalizing cur ready with
  | nil =>
    simp only [gathered_cons, allBlank_append, Bool.and_eq_true] at h
    exact .last (hnone h.1)
  | cons next later ih =>
    rw [gathered_cons, allBlank_append, allBlank_cons, Bool.and_eq_true, Bool.and_eq_true] at h
    exact .line (hnone h.1) (ih _ h.2.2)

/-- Sealed text of a scope that breaks no literal is a whole scope. -/
theorem whole_of_sealed {scope : List Char} (h : Sealed true scope)
    (hunbroken : Nesting.none.breaks scope = false) : Whole scope := by
  have hscan := scanScope_sealed h 0 0 []
  rw [List.append_nil, scanScope, behind_running, List.append_nil] at hscan
  obtain ⟨-, hclosed, hgoes⟩ := (scanScope_running_iff hunbroken).mp hscan
  exact ⟨hgoes, hclosed.symm⟩

/-- The first line that is seen of a document that starts with a gap and an opener. -/
theorem visibleLines_opener {lead blanks : List Char} (effect : Effect) (hlead : Gap lead)
    (hblanks : allBlank blanks = true) (hline : '\n' ∉ blanks) (inner : List Char) :
    ∃ first, opener? (trimStart first) = some (effect, withoutComment (firstLine inner)) ∧
      visibleLines (String.ofList (lead ++ (effect.word ++ (blanks ++ '(' :: inner)))) =
        ⟨lead.count '\n' + 1, first⟩ ::
          visibleFrom (lead.count '\n' + 1 + 1) (linesBelow inner) := by
  obtain ⟨before, hbefore, hvisible⟩ :=
    hlead.visibleFrom (effect.word ++ (blanks ++ ['(']) ++ inner) 1
  rw [(solid_opener effect hblanks hline).visibleFrom, indent, Nat.add_comm 1] at hvisible
  have hdocument : lead ++ (effect.word ++ (blanks ++ '(' :: inner)) =
      lead ++ (effect.word ++ (blanks ++ ['(']) ++ inner) := by simp
  refine ⟨before ++ (effect.word ++ (blanks ++ ['(']) ++ withoutComment (firstLine inner)), ?_, ?_⟩
  · exact opens_iff.mpr ⟨before, blanks, hbefore, hblanks, by simp⟩
  · rw [visibleLines, String.toList_ofList, hdocument, hvisible]

/-- A statement in the notation comes to its own end, and what is blank behind it lays out
nothing. -/
theorem stretch_scope {clauses : List Clause} {scope trailer rest inner : List Char}
    (hscope : Separated ClauseText clauses scope) (hfree : FreeOf ['(', ')'] scope)
    (htrailer : allBlank trailer = true) (hrest : allBlank rest = true)
    (hahead : ahead inner = scope ++ ')' :: (trailer ++ ';' :: rest)) (place : Nat) :
    ∃ last below,
      Stretch [] ⟨place, withoutComment (firstLine inner)⟩
        (visibleFrom (place + 1) (linesBelow inner)) (.delimited scope trailer) last below ∧
      Laid none last below [] := by
  have hunbroken : Nesting.none.breaks scope = false := (hfree.through rfl).2
  have hblank : ∀ {gap : List Char}, allBlank gap = true → FreeOf ['('] gap :=
    fun hg => (FreeOf.blank hg).weaken (by decide)
  have hbehind : FreeOf ['('] (';' :: rest) := .cons (by decide) (by decide) (hblank hrest)
  have hclosed : FreeOf ['('] (scope ++ ')' :: (trailer ++ ';' :: rest)) :=
    (hfree.weaken (by decide)).append
      (.cons (by decide) (by decide) ((hblank htrailer).append hbehind))
  have hgathered : [] ++ gathered (⟨place, withoutComment (firstLine inner)⟩ ::
      visibleFrom (place + 1) (linesBelow inner)) = scope ++ ')' :: (trailer ++ ';' :: rest) := by
    rw [List.nil_append, gathered_cons, gathered_visibleFrom]
    exact hahead
  obtain ⟨last, below, hstretch, hlast⟩ :=
    Stretch.of_gathered (whole_of_sealed (sealed_scope hscope) hunbroken) hunbroken
      (hfree.weaken (by decide)) (not_mem_of_allBlank htrailer (by decide)) hclosed hgathered
  exact ⟨last, below, hstretch, .of_blank none (by rw [hlast, hrest])⟩

/-- The layout of a document that is one statement. -/
theorem Arranged.layout {clauses : List Clause} {effect : Effect} {ts : List Token} {place : Nat}
    {document : List Char} (hts : Listed ClauseTokens clauses ts)
    (h : Arranged Token.RunsInto effect ts place document) :
    ∃ scope trailer,
      Layout (String.ofList document) [⟨place, effect, none, .delimited scope trailer⟩] ∧
      Separated ClauseText clauses scope ∧ Nesting.none.breaks scope = false ∧
      allBlank trailer = true := by
  obtain ⟨hlead, hblanks, hline, hfront, hbody, hback, hrear⟩ := h
  obtain ⟨scope, trailer, rest, hahead, hscope, hfree, htrailer, hrest⟩ :=
    ahead_statement hts hfront hbody hback hrear
  obtain ⟨first, hopens, hvisible⟩ := visibleLines_opener effect hlead hblanks hline _
  obtain ⟨last, below, hstretch, hlaid⟩ := stretch_scope hscope hfree htrailer hrest hahead _
  refine ⟨scope, trailer, ?_, hscope, (hfree.through rfl).2, htrailer⟩
  rw [Layout, hvisible]
  exact .line rfl (.statement hopens hstretch hlaid)

/-- **However a statement is spaced, it is read as the statement on one line.** -/
theorem report_arranged {clauses : List Clause} {effect : Effect} {ts : List Token}
    {principal : PrincipalConstraint} {action : ActionConstraint} {place : Nat}
    {document : List Char} (hts : Listed ClauseTokens clauses ts)
    (hc : Constrain clauses principal action)
    (h : Arranged Token.RunsInto effect ts place document) :
    report (String.ofList document) =
        ⟨[⟨"policy0", effect, principal, action, UInt64.ofNat place⟩], []⟩ ∧
      report (String.ofList (oneLine effect ts)) =
        ⟨[⟨"policy0", effect, principal, action, 1⟩], []⟩ := by
  have hreport : ∀ {place : Nat} {document : List Char},
      Arranged Token.RunsInto effect ts place document →
        report (String.ofList document) =
          ⟨[⟨"policy0", effect, principal, action, UInt64.ofNat place⟩], []⟩ := by
    intro place document h
    obtain ⟨scope, trailer, hlayout, hscope, hunbroken, htrailer⟩ := h.layout hts
    have hreading : (⟨place, effect, none, .delimited scope trailer⟩ : Statement).reading =
        .accepted ⟨effect, UInt64.ofNat place, none⟩ principal action := by
      rw [Statement.reading, Opening.outcome, hunbroken]
      exact close_of_scope hscope hc htrailer _
    rw [report_of_layout hlayout, List.filterMap_cons, List.filterMap_cons, hreading]
    rfl
  have hline : Arranged Token.RunsInto effect ts 1 (oneLine effect ts) :=
    .mk .nil rfl List.not_mem_nil .nil (spread_joined (.blank (by decide) .nil) _ ts) .nil
      (.gap .nil)
  exact ⟨hreport h, hreport hline⟩

/-! ### One statement, spaced in two ways -/

def opsName : List Char := "ops".toList

theorem opsName_spells : Spells opsName opsName :=
  .plain (by decide) (by decide) (.plain (by decide) (by decide)
    (.plain (by decide) (by decide) .nil))

theorem isWord_ns : IsWord "NS".toList := .of_all (by decide) (by decide)

/-- The tokens of a clause about principals of a category. -/
def opsTokens : List Token :=
  [.word isWord_principal, .word isWord_in, .word isWord_ns, .mark .path,
    .literal opsName_spells (by decide)]

theorem opsTokens_listed :
    Listed ClauseTokens [.principal (.category (String.ofList opsName))] opsTokens :=
  .item (.principal (.category (.mk opsName_spells (by decide) (.last isWord_ns))))

theorem opsTokens_constrain :
    Constrain [.principal (.category (String.ofList opsName))]
      (.category (String.ofList opsName)) .unconstrained where
  said := by decide
  principal := rfl
  action := rfl

/-- Below a comment, over seven lines. -/
def opsSpaced : List Char :=
  "// night\npermit (\nprincipal // who\n in\nNS\n::\"ops\"\n)\n;".toList

theorem opsSpaced_arranged : Arranged Token.RunsInto .permit opsTokens 2 opsSpaced := by
  have hlead : Gap "// night\n".toList := @Gap.comment " night".toList [] (by decide) .nil
  have hbreak : Gap ['\n'] := .blank (by decide) .nil
  have hwho : Gap " // who\n ".toList :=
    .blank (by decide) (@Gap.comment " who".toList [' '] (by decide) (.blank (by decide) .nil))
  have hbody : Spread Gap Token.RunsInto opsTokens _ :=
    .cons hwho (fun _ _ _ => by decide) (.cons hbreak (fun _ _ _ => by decide)
      (.cons hbreak (fun _ _ _ => by decide) (.cons .nil (fun _ _ hrun => absurd hrun.1 id)
        (.cons hbreak (fun _ _ _ => by decide) .nil))))
  have harranged : Arranged Token.RunsInto .permit opsTokens 2 _ :=
    .mk hlead (by decide : allBlank [' '] = true) (by decide) hbreak hbody hbreak (.gap .nil)
  exact harranged

/-- The spaced statement is read as the one on a line. -/
theorem report_arranged_spaced :
    Arranged Token.RunsInto .permit opsTokens 2 opsSpaced ∧
      report (String.ofList opsSpaced) =
        ⟨[⟨"policy0", .permit, .category "ops", .unconstrained, 2⟩], []⟩ ∧
      report "permit(principal in NS :: \"ops\" );" =
        ⟨[⟨"policy0", .permit, .category "ops", .unconstrained, 1⟩], []⟩ := by
  obtain ⟨hspaced, hline⟩ := report_arranged opsTokens_listed opsTokens_constrain opsSpaced_arranged
  exact ⟨opsSpaced_arranged, hspaced, hline⟩

/-- The word `in` is kept apart from what follows it, and nothing else is kept apart. -/
def Token.FollowsIn (t _next : Token) : Prop := t.text = inWord

/-- The word `in` directly behind the word in front of it. -/
def opsRunOn : List Char := "permit(principalin NS::\"ops\");".toList

/-- **Blanks behind the word `in` are not enough.** Without one in front of it, it runs into the
word that it follows, and the clause is none. -/
theorem in_runs_on :
    Listed ClauseTokens [.principal (.category (String.ofList opsName))] opsTokens ∧
      Constrain [.principal (.category (String.ofList opsName))]
        (.category (String.ofList opsName)) .unconstrained ∧
      Arranged Token.FollowsIn .permit opsTokens 1 opsRunOn ∧
      report (String.ofList opsRunOn) =
        ⟨[], [⟨1, .malformedClause "principalin NS::\"ops\""⟩]⟩ := by
  refine ⟨opsTokens_listed, opsTokens_constrain, ?_, by decide +kernel⟩
  have hblank : Gap [' '] := .blank (by decide) .nil
  have hapart : ∀ {t : Token}, t.text ≠ inWord → ∀ ts : List Token,
      ∀ next ∈ ts.head?, t.FollowsIn next → ([] : List Char) ≠ [] :=
    fun hne _ _ _ hin => absurd hin hne
  have hbody : Spread Gap Token.FollowsIn opsTokens _ :=
    .cons .nil (hapart (by decide) _) (.cons hblank (fun _ _ _ => by decide)
      (.cons .nil (hapart (by decide) _) (.cons .nil (hapart (by decide) _)
        (.cons .nil (hapart (by decide) _) .nil))))
  have harranged : Arranged Token.FollowsIn .permit opsTokens 1 _ :=
    .mk .nil rfl List.not_mem_nil .nil hbody .nil (.gap .nil)
  exact harranged

end Portcullis.Policy
