import Portcullis.Proofs.Policy.Accounting
import Portcullis.Proofs.Policy.Precedence
import Portcullis.Proofs.Policy.Resynchronisation
import Portcullis.Proofs.Policy.Writing

/-! Where an opener brings a reader back.

At the start of a line an opener always does: the statement that is open is discarded, the new
one opens, and if it is complete it takes effect, whatever was left open in front of it. Behind
the start of a line it does so only outside statements. Inside one it is text like any other, a
parenthesis more to close in a scope and a piece of the text up to the semicolon in a trailer
(`opener_rescues_at_line_start`), so what it seemed to open does not open
(`opener_lost_inside_line`).

`Reaches` tells where in a line a reader stands in what phase. -/
namespace Portcullis.Policy
open Text

/-! ### In the middle of a line -/

/-- Following a line, a reader comes from a text to what is left of it, is then another reader,
and has passed what is listed. -/
inductive Reaches (line : UInt64) :
    Reader → List Char → Reader → List Char → List Passage → Prop where
  | here {r text} : Reaches line r text r text []
  | opens {pending text effect rest r left ps} :
      opener? (trimStart text) = some (effect, rest) →
      Reaches line ⟨.scope ⟨effect, line, pending⟩ [] .none false, none⟩ rest r left ps →
      Reaches line ⟨.outside, pending⟩ text r left (.opened ⟨effect, line, pending⟩ :: ps)
  | scope {o body nesting broken pending text more inner rest r left ps} :
      scanScope nesting text = .running more inner →
      Reaches line ⟨.scope o (body ++ more) inner broken, pending⟩ rest r left ps →
      Reaches line ⟨.scope o body nesting broken, pending⟩ (text ++ rest) r left ps
  | closes {o body nesting broken pending text more rest r left ps} :
      scanScope nesting text = .closed more rest →
      Reaches line ⟨.trailer o (body ++ more) broken [], pending⟩ rest r left ps →
      Reaches line ⟨.scope o body nesting broken, pending⟩ text r left ps
  | trailer {o body broken sofar pending text rest r left ps} : ';' ∉ text →
      Reaches line ⟨.trailer o body broken (sofar ++ text), pending⟩ rest r left ps →
      Reaches line ⟨.trailer o body broken sofar, pending⟩ (text ++ rest) r left ps
  | ends {o body broken sofar pending text before rest r left ps} :
      atSemicolon? text = some (before, rest) →
      Reaches line ⟨.outside, pending⟩ rest r left ps →
      Reaches line ⟨.trailer o body broken sofar, pending⟩ text r left
        (.ended (o.close body broken (sofar ++ before)) :: ps)

/-- A scope may be followed in two pieces. -/
theorem follow_scope {nesting inner : Nesting} {text more : List Char}
    (h : scanScope nesting text = .running more inner) (o : Opening) (body : List Char)
    (broken : Bool) (pending : Option String) (line : UInt64) (rest : List Char) :
    Reader.follow ⟨.scope o body nesting broken, pending⟩ line (text ++ rest) =
      Reader.follow ⟨.scope o (body ++ more) inner broken, pending⟩ line rest := by
  have hscan := scanScope_append nesting text rest
  rw [h] at hscan
  have hf := Reader.followed ⟨.scope o (body ++ more) inner broken, pending⟩ line rest
  generalize Reader.follow ⟨.scope o (body ++ more) inner broken, pending⟩ line rest = reading at hf ⊢
  obtain ⟨last, ps⟩ := reading
  cases hf with
  | closes hs hrest =>
    simp only [hs, behind_closed] at hscan
    rw [List.append_assoc] at hrest
    exact (Followed.closes hscan hrest).follow_eq
  | stays hs =>
    simp only [hs, behind_running] at hscan
    rw [(Followed.stays hscan).follow_eq]
    simp

/-- So may a trailer in front of its semicolon. -/
theorem follow_trailer {text : List Char} (h : ';' ∉ text) (o : Opening) (body : List Char)
    (broken : Bool) (sofar : List Char) (pending : Option String) (line : UInt64)
    (rest : List Char) :
    Reader.follow ⟨.trailer o body broken sofar, pending⟩ line (text ++ rest) =
      Reader.follow ⟨.trailer o body broken (sofar ++ text), pending⟩ line rest := by
  have hf := Reader.followed ⟨.trailer o body broken (sofar ++ text), pending⟩ line rest
  generalize Reader.follow ⟨.trailer o body broken (sofar ++ text), pending⟩ line rest = reading
    at hf ⊢
  obtain ⟨last, ps⟩ := reading
  cases hf with
  | @ends _ _ _ _ _ _ before after _ _ hs hrest =>
    obtain ⟨rfl, hbefore⟩ := atSemicolon?_eq_some_iff.mp hs
    have hsemi : ';' ∉ text ++ before := by simp [h, hbefore]
    have hs := atSemicolon?_append hsemi after
    rw [List.append_assoc] at hs
    rw [(Followed.ends hs hrest).follow_eq, List.append_assoc]
  | waits hs =>
    have hnone : atSemicolon? (text ++ rest) = none := by
      rw [atSemicolon?_eq_none_iff] at hs ⊢
      simp [h, hs]
    rw [(Followed.waits hnone).follow_eq]
    simp

section
variable {line : UInt64} {r r' : Reader} {text left : List Char} {passed : List Passage}

/-- **From where it stands a reader follows what is left of the line.** -/
theorem Reaches.follow_eq (h : Reaches line r text r' left passed) :
    r.follow line text = ((r'.follow line left).1, passed ++ (r'.follow line left).2) := by
  induction h with
  | here => rfl
  | opens ho _ ih => rw [(Followed.opens ho (Reader.followed _ _ _)).follow_eq, ih]; rfl
  | scope hs _ ih => rw [follow_scope hs, ih]
  | closes hs _ ih => rw [(Followed.closes hs (Reader.followed _ _ _)).follow_eq, ih]
  | trailer hs _ ih => rw [follow_trailer hs, ih]
  | ends hs _ ih => rw [(Followed.ends hs (Reader.followed _ _ _)).follow_eq, ih]; rfl

/-- What is left stands at the end of the line. -/
theorem Reaches.suffix (h : Reaches line r text r' left passed) : left <:+ text := by
  induction h with
  | here => exact List.suffix_refl _
  | opens ho _ ih => exact ih.trans (opens_suffix ho)
  | scope _ _ ih => exact ih.trans (List.suffix_append _ _)
  | @closes _ _ _ _ _ _ more _ _ _ _ hs _ ih =>
    rw [scanScope_closed hs]
    exact ih.trans ⟨more ++ [')'], by simp⟩
  | trailer _ _ ih => exact ih.trans (List.suffix_append _ _)
  | @ends _ _ _ _ _ _ before _ _ _ _ hs _ ih =>
    rw [(atSemicolon?_eq_some_iff.mp hs).1]
    exact ih.trans ⟨before ++ [';'], by simp⟩

end

/-! ### An opener inside a statement -/

/-- Whether a literal is open. -/
def Phase.inLiteral : Phase → Bool
  | .scope _ _ nesting _ => nesting.quoting ≠ .outside
  | _ => false

/-- The phase behind an opener that is text of the statement that is open. -/
def Phase.swallow : Phase → List Char → Phase
  | .outside, _ => .outside
  | .scope o body nesting broken, opener =>
    .scope o (body ++ opener) {nesting with parens := nesting.parens + 1} broken
  | .trailer o body broken sofar, opener => .trailer o body broken (sofar ++ opener)

theorem opening?_swallow (phase : Phase) (opener : List Char) :
    (phase.swallow opener).opening? = phase.opening? := by
  cases phase <;> rfl

theorem scanScope_opener {gap : List Char} (hg : allBlank gap = true) (effect : Effect)
    (brackets parens : Nat) :
    scanScope ⟨.outside, brackets, parens⟩ (effect.word ++ (gap ++ ['('])) =
      .running (effect.word ++ (gap ++ ['('])) ⟨.outside, brackets, parens + 1⟩ := by
  have hsealed : Sealed true (effect.word ++ gap) :=
    (isWord_effect effect).sealed.append (.blank hg)
  have hparen : scanScope ⟨.outside, brackets, parens⟩ ['('] =
      .running ['('] ⟨.outside, brackets, parens + 1⟩ := rfl
  rw [← List.append_assoc, scanScope_sealed hsealed, hparen, behind_running]

theorem semicolon_notMem_opener {gap : List Char} (hg : allBlank gap = true) (effect : Effect) :
    ';' ∉ effect.word ++ (gap ++ ['(']) := by
  have hgap : ';' ∉ gap := not_mem_of_allBlank hg (by decide)
  cases effect <;> simp [Effect.word, hgap]

/-- **Inside a statement and outside literals an opener is text.** -/
theorem follow_swallow {phase : Phase} {o : Opening} (ho : phase.opening? = some o)
    (hl : phase.inLiteral = false) {gap : List Char} (hg : allBlank gap = true) (effect : Effect)
    (pending : Option String) (line : UInt64) (back : List Char) :
    Reader.follow ⟨phase, pending⟩ line (effect.word ++ (gap ++ '(' :: back)) =
      Reader.follow ⟨phase.swallow (effect.word ++ (gap ++ ['('])), pending⟩ line back := by
  have htext : effect.word ++ (gap ++ '(' :: back) = effect.word ++ (gap ++ ['(']) ++ back := by
    simp
  rw [htext]
  cases phase with
  | outside => cases ho
  | scope o body nesting broken =>
    obtain ⟨quoting, brackets, parens⟩ := nesting
    obtain rfl : quoting = .outside := by simpa [Phase.inLiteral] using hl
    exact follow_scope (scanScope_opener hg effect brackets parens) ..
  | trailer o body broken sofar => exact follow_trailer (semicolon_notMem_opener hg effect) ..

/-! ### A statement comes to its end first -/

theorem abandon_inside {r : Reader} {o : Opening} (h : r.phase.opening? = some o)
    (reason : DiscardReason) :
    r.abandon reason = (⟨.outside, r.pending⟩, [.ended (.discarded ⟨o.line, reason⟩)]) := by
  simp only [Reader.abandon, h]

/-- The first thing that is passed is the end of a statement that opened so. -/
def EndsFirst (o : Opening) (ps : List Passage) : Prop :=
  ∃ reading more, ps = .ended reading :: more ∧ reading.Of o

/-- A statement that is open ends on the line or goes on below it. -/
theorem Followed.endsFirst {line : UInt64} {r last : Reader} {text : List Char}
    {ps below : List Passage} {o : Opening} (h : Followed line r text last ps)
    (ho : r.phase.opening? = some o) (hbelow : last.phase.opening? = some o → EndsFirst o below) :
    EndsFirst o (ps ++ below) := by
  induction h with
  | opens => cases ho
  | annotates => cases ho
  | strays => cases ho
  | rests => cases ho
  | closes _ _ ih => exact ih ho hbelow
  | stays => exact hbelow ho
  | ends =>
    cases ho
    exact ⟨_, _, rfl, close_of _ _ _ _⟩
  | waits => exact hbelow ho

/-- **While a statement is open, the next thing that is passed is its end.** -/
theorem readLines_endsFirst (raws : List (List Char)) {r : Reader} {o : Opening}
    (ho : r.phase.opening? = some o) (line : UInt64) : EndsFirst o (r.readLines line raws) := by
  induction raws generalizing r line with
  | nil => exact ⟨_, [], congrArg Prod.snd (abandon_inside ho .unterminated), rfl⟩
  | cons raw raws ih =>
    rw [readLines_cons]
    by_cases hb : allBlank (withoutComment raw) = true
    · rw [readLine_blank hb]
      exact ih ho _
    by_cases hopens : (opener? (trimStart (withoutComment raw))).isSome = true
    · rw [readLine_opener hopens, abandon_inside ho]
      exact ⟨_, _, rfl, rfl⟩
    by_cases hc : trim (withoutComment raw) = [')', ';'] ∧ r.phase.isUnbalanced = true
    · rw [readLine_closer hb hopens hc, abandon_inside ho]
      exact ⟨_, _, rfl, rfl⟩
    rw [readLine_inner hb hopens hc]
    exact (r.followed line _).endsFirst ho fun hstill => ih hstill _

/-! ### Lines of a document -/

/-- A reader in front of the text of a line, once the statement that the line interrupts is
abandoned. -/
def Reader.faces (r : Reader) (raw : List Char) : Reader × List Passage :=
  if (opener? (trimStart (withoutComment raw))).isSome then r.abandon .unterminated else (r, [])

/-- A line with an opening parenthesis is followed from there. -/
theorem readLine_faces {raw : List Char} (h : '(' ∈ withoutComment raw) (r : Reader)
    (line : UInt64) :
    r.readLine line raw =
      (((r.faces raw).1.follow line (withoutComment raw)).1,
        (r.faces raw).2 ++ ((r.faces raw).1.follow line (withoutComment raw)).2) := by
  by_cases ho : (opener? (trimStart (withoutComment raw))).isSome = true
  · rw [readLine_opener ho, Reader.faces, if_pos ho]
  have hb : ¬allBlank (withoutComment raw) = true := fun hb => not_mem_of_allBlank hb (by decide) h
  have hc : ¬(trim (withoutComment raw) = [')', ';'] ∧ r.phase.isUnbalanced = true) := by
    rintro ⟨hc, -⟩
    obtain ⟨front, back, hf, hback, htext⟩ := exists_of_trim_closer hc
    rw [htext] at h
    have hfront : '(' ∉ front := not_mem_of_allBlank hf (by decide)
    have hbehind : '(' ∉ back := not_mem_of_allBlank hback (by decide)
    simp [hfront, hbehind] at h
  rw [readLine_inner hb ho hc, Reader.faces, if_neg ho]
  rfl

/-- **A line that starts with an opener ends the statement that is open and opens its own.** -/
theorem readLine_rescues {r : Reader} {o : Opening} (hinside : r.phase.opening? = some o)
    {raw rest : List Char} {effect : Effect}
    (ho : opener? (trimStart (withoutComment raw)) = some (effect, rest)) (line : UInt64) :
    ∃ last more, r.readLine line raw =
      (last, .ended (.discarded ⟨o.line, .unterminated⟩) ::
        .opened ⟨effect, line, r.pending⟩ :: more) := by
  have hopens : (opener? (trimStart (withoutComment raw))).isSome = true := by
    rw [ho]
    rfl
  have hfollow : Followed line ⟨.outside, r.pending⟩ (withoutComment raw) _ _ :=
    .opens ho (Reader.followed _ _ _)
  rw [readLine_opener hopens, abandon_inside hinside, hfollow.follow_eq]
  exact ⟨_, _, rfl⟩

/-- **A line on which a reader comes to an opener inside a statement is read with the opener as
text.** -/
theorem readLine_swallows {r : Reader} {raw gap back : List Char} {phase : Phase} {o : Opening}
    {pending : Option String} {effect : Effect} {line : UInt64} {passed : List Passage}
    (h : Reaches line (r.faces raw).1 (withoutComment raw) ⟨phase, pending⟩
      (effect.word ++ (gap ++ '(' :: back)) passed)
    (ho : phase.opening? = some o) (hl : phase.inLiteral = false) (hg : allBlank gap = true) :
    r.readLine line raw =
      ((Reader.follow ⟨phase.swallow (effect.word ++ (gap ++ ['('])), pending⟩ line back).1,
        (r.faces raw).2 ++ (passed ++
          (Reader.follow ⟨phase.swallow (effect.word ++ (gap ++ ['('])), pending⟩ line back).2)) := by
  have hparen : '(' ∈ withoutComment raw := by
    refine h.suffix.subset ?_
    simp
  rw [readLine_faces hparen, h.follow_eq, follow_swallow ho hl hg]

/-- Blanks in front of what a reader is to follow outside a statement make no difference. -/
theorem Followed.of_trimStart {line : UInt64} {pending : Option String} {text : List Char}
    {last : Reader} {ps : List Passage}
    (h : Followed line ⟨.outside, pending⟩ (trimStart text) last ps) :
    Followed line ⟨.outside, pending⟩ text last ps := by
  have hblank : allBlank (trimStart text) = allBlank text := by
    rw [Bool.eq_iff_iff, ← trimStart_eq_nil_iff, ← trimStart_eq_nil_iff, trimStart_trimStart]
  cases h with
  | opens ho hrest =>
    rw [trimStart_trimStart] at ho
    exact .opens ho hrest
  | annotates ho ha =>
    rw [trimStart_trimStart] at ho ha
    exact .annotates ho ha
  | strays ho ha hb =>
    rw [trimStart_trimStart] at ho ha
    exact .strays ho ha (hblank ▸ hb)
  | rests hb => exact .rests (hblank ▸ hb)

section
variable {document : String} {before after : List (List Char)} {raw : List Char}

/-- What is passed up to a line, on it and below it. -/
theorem passages_at (h : lines document.toList = before ++ raw :: after) :
    passages document =
      (Reader.start.advance 1 before).2 ++
        (((Reader.start.advance 1 before).1.readLine (UInt64.ofNat (before.length + 1)) raw).2 ++
          ((Reader.start.advance 1 before).1.readLine (UInt64.ofNat (before.length + 1)) raw).1.readLines
            (UInt64.ofNat (before.length + 1) + 1) after) := by
  have hnumber : 1 + UInt64.ofNat before.length = UInt64.ofNat (before.length + 1) := by
    rw [UInt64.ofNat_add, UInt64.add_comm]
    rfl
  rw [passages, h, readLines_append, hnumber, readLines_cons]

theorem exists_rule_of_draft {d : Draft} (h : d ∈ drafts document) :
    ∃ rule ∈ rules document, rule.effect = d.opening.effect ∧ rule.principal = d.principal ∧
      rule.action = d.action ∧ rule.line = d.opening.line := by
  obtain ⟨i, hi⟩ := List.mem_iff_getElem?.mp h
  have hrule : (rules document)[i]? = some (d.rule (0 + i)) := by
    rw [rules_eq, numbered_getElem?, hi]
    rfl
  exact ⟨_, List.mem_of_getElem? hrule, rfl, rfl, rfl, rfl⟩

/-- A complete statement at the start of a line leaves its rule, wherever the reader stood. -/
theorem exists_rule_at (hlines : lines document.toList = before ++ raw :: after) {effect : Effect}
    {clauses : List Clause} {text tail : List Char} {principal : PrincipalConstraint}
    {action : ActionConstraint} (htext : trimStart (withoutComment raw) = text ++ tail)
    (hs : StatementText effect clauses text) (hc : Constrain clauses principal action) :
    ∃ rule ∈ rules document, rule.effect = effect ∧ rule.principal = principal ∧
      rule.action = action ∧ rule.line = UInt64.ofNat (before.length + 1) := by
  have hopens : (opener? (trimStart (withoutComment raw))).isSome = true := by
    obtain ⟨hg, -, -⟩ := hs
    rw [htext, List.append_assoc, List.append_assoc, List.cons_append, opener?_word hg]
    rfl
  have hpassed := passages_at hlines
  rw [readLine_opener hopens, abandon_fst] at hpassed
  have hfollow := Followed.statement hs hc (Reader.start.advance 1 before).1.pending tail
    (Reader.followed _ (UInt64.ofNat (before.length + 1)) _)
  rw [← htext] at hfollow
  rw [hfollow.of_trimStart.follow_eq] at hpassed
  have hdraft : (⟨⟨effect, UInt64.ofNat (before.length + 1),
      (Reader.start.advance 1 before).1.pending⟩, principal, action⟩ : Draft) ∈ drafts document := by
    rw [drafts, List.mem_filterMap]
    exact ⟨.ended (.accepted _ principal action), by rw [hpassed]; simp, rfl⟩
  exact exists_rule_of_draft hdraft

end

/-- **An opener at the start of a line brings a reader back from any statement.** The statement
is discarded as unterminated, and the new one opens with the effect of the opener, on its line. If
it is complete it leaves its rule, and a forbid denies whatever both its constraints admit.
Further on in a line, inside a statement and outside literals, an opener is swallowed: nothing
is passed at it, the reader goes on behind it in the same statement, and the next thing that is
passed is the end of that. -/
theorem opener_rescues_at_line_start {document : String} {before after : List (List Char)}
    {raw : List Char} (hlines : lines document.toList = before ++ raw :: after) :
    let number := UInt64.ofNat (before.length + 1)
    let reached := Reader.start.advance 1 before
    (∀ o effect rest, reached.1.phase.opening? = some o →
      opener? (trimStart (withoutComment raw)) = some (effect, rest) →
        (∃ opening more, opening.effect = effect ∧ opening.line = number ∧
          passages document = reached.2 ++
            .ended (.discarded ⟨o.line, .unterminated⟩) :: .opened opening :: more) ∧
        ⟨o.line, .unterminated⟩ ∈ (report document).discarded ∧
        ∀ clauses text tail principal action,
          trimStart (withoutComment raw) = text ++ tail → StatementText effect clauses text →
          Constrain clauses principal action →
            (∃ rule ∈ rules document, rule.effect = effect ∧ rule.principal = principal ∧
              rule.action = action ∧ rule.line = number) ∧
            (effect = .forbid → ∀ q, principal.admits q.principal = true →
              action.admits q.action = true → evaluate (rules document) q = .deny)) ∧
    ∀ phase pending o passed (effect : Effect) gap back,
      Reaches number (reached.1.faces raw).1 (withoutComment raw) ⟨phase, pending⟩
        (effect.word ++ (gap ++ '(' :: back)) passed →
      phase.opening? = some o → phase.inLiteral = false → allBlank gap = true →
        let behind := Reader.follow ⟨phase.swallow (effect.word ++ (gap ++ ['('])), pending⟩ number back
        let rest := behind.2 ++ behind.1.readLines (number + 1) after
        passages document = reached.2 ++ (reached.1.faces raw).2 ++ passed ++ rest ∧
          EndsFirst o rest := by
  intro number reached
  have hpassed := passages_at hlines
  refine ⟨?_, ?_⟩
  · intro o effect rest hinside ho
    obtain ⟨last, more, hline⟩ := readLine_rescues hinside ho number
    rw [hline] at hpassed
    refine ⟨⟨⟨effect, number, reached.1.pending⟩, _, rfl, rfl, hpassed⟩, ?_, ?_⟩
    · rw [report_eq, hpassed, List.mem_filterMap]
      exact ⟨.ended (.discarded ⟨o.line, .unterminated⟩), by simp, rfl⟩
    · intro clauses text tail principal action htext hs hc
      have hrule := exists_rule_at hlines htext hs hc
      refine ⟨hrule, ?_⟩
      rintro rfl q hp hq
      obtain ⟨rule, hmem, heffect, rfl, rfl, -⟩ := hrule
      refine evaluate_of_forbid hmem heffect ?_
      rw [Rule.applies, hp, hq]
      rfl
  · intro phase pending o passed effect gap back hreaches hinside hl hg behind rest
    have hstill : (phase.swallow (effect.word ++ (gap ++ ['(']))).opening? = some o :=
      (opening?_swallow phase _).trans hinside
    rw [readLine_swallows hreaches hinside hl hg] at hpassed
    constructor
    · rw [hpassed]
      simp only [List.append_assoc]
      rfl
    · exact (Reader.followed _ number back).endsFirst hstill
        fun hlast => readLines_endsFirst after hlast _

/-- A permit that breaks off in front of a forbid. -/
def interrupted : String :=
  "permit(principal," ++ "\n" ++ "  forbid(principal, action == Bank::\"pay\", resource); permit("

/-- The forbid is in force: it stands at the start of a line. -/
theorem opener_rescues_at_line_start_interrupted :
    lines interrupted.toList = ["permit(principal,".toList] ++
      "  forbid(principal, action == Bank::\"pay\", resource); permit(".toList :: [] ∧
    ⟨1, .unterminated⟩ ∈ (report interrupted).discarded ∧
    (∃ rule ∈ rules interrupted, rule.effect = .forbid ∧ rule.principal = .unconstrained ∧
      rule.action = .single "pay" ∧ rule.line = 2) ∧
    evaluate (rules interrupted) ⟨"pay", "eve", "vault", "teller"⟩ = .deny := by
  let bank : Path := .word ['B', 'a', 'n', 'k'] (.of_all (by decide) (by decide))
  let bar : Rule := ⟨"", .forbid, .unconstrained, .single "pay", 0⟩
  have hlines : lines interrupted.toList = ["permit(principal,".toList] ++
      "  forbid(principal, action == Bank::\"pay\", resource); permit(".toList :: [] := by
    decide +kernel
  obtain ⟨clauses, hs, hc⟩ := (bar.statementLine bank bank).spelled
  obtain ⟨hrescued, -⟩ := opener_rescues_at_line_start hlines
  obtain ⟨-, hdiscarded, hcomplete⟩ := hrescued ⟨.permit, 1, none⟩ .forbid
    "principal, action == Bank::\"pay\", resource); permit(".toList (by decide +kernel)
    (by decide +kernel)
  obtain ⟨hrule, hdeny⟩ := hcomplete clauses _ " permit(".toList _ _ (by decide +kernel) hs hc
  exact ⟨hlines, hdiscarded, hrule, hdeny rfl _ (by decide) (by decide)⟩

/-- The second line opens a permit and breaks it off in front of a forbid. -/
def interruptedInside : String := "permit(principal);" ++ "\n" ++ "permit(action forbid(principal);"

/-- **Inside a line a forbid behind a statement that is not finished is lost**: it stands outside
comments and literals, with a blank in front of it, and does not open. What it should deny is
permitted. -/
theorem opener_lost_inside_line :
    let line := "permit(action forbid(principal);".toList
    let opened : Opening := ⟨.permit, 2, none⟩
    let reached := Reader.start.advance 1 ["permit(principal);".toList]
    lines interruptedInside.toList = ["permit(principal);".toList] ++ line :: [] ∧
      withoutComment line = line ∧
      Reaches 2 (reached.1.faces line).1 line ⟨.scope opened "action ".toList .none false, none⟩
        "forbid(principal);".toList [.opened opened] ∧
      opener? "forbid(principal);".toList = some (.forbid, "principal);".toList) ∧
      passages interruptedInside = reached.2 ++
        [.opened opened, .ended (.discarded ⟨2, .unterminated⟩)] ∧
      report interruptedInside =
        ⟨[⟨"policy0", .permit, .unconstrained, .unconstrained, 1⟩], [⟨2, .unterminated⟩]⟩ ∧
      evaluate (rules interruptedInside) ⟨"pay", "eve", "vault", "teller"⟩ = .permit := by
  intro line opened reached
  have hfaces : (reached.1.faces line).1 = ⟨.outside, none⟩ := by decide +kernel
  have hscope : scanScope .none "action ".toList = .running "action ".toList .none := by
    decide +kernel
  have hreaches : Reaches 2 (reached.1.faces line).1 line
      ⟨.scope opened "action ".toList .none false, none⟩ "forbid(principal);".toList
      [.opened opened] := by
    rw [hfaces]
    have hopens : opener? (trimStart line) =
        some (.permit, "action ".toList ++ "forbid(principal);".toList) := by decide +kernel
    exact .opens hopens (.scope hscope .here)
  refine ⟨?_, ?_, hreaches, ?_, ?_, ?_, ?_⟩
  · decide +kernel
  · decide +kernel
  · decide +kernel
  · decide +kernel
  · decide +kernel
  · decide +kernel

end Portcullis.Policy
