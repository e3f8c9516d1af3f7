import Portcullis.Proofs.Policy.Recognition

/-! Statements as tokens.

What stands between the parentheses of a statement is a sequence of tokens: words, marks and
literals. The grammar of `Notation` is said here once more, of tokens instead of text and so
without the blanks. A text spreads tokens (`Spread`) if it consists of them in their order with a
gap behind each, and the gap is not empty where one word would run into the next. Spread with
blanks, the tokens of clauses are clauses in the notation (`Listed.scope`). -/
namespace Portcullis.Policy
open Text

/-! ### Tokens -/

/-- The marks between the parentheses of a statement. -/
inductive Mark where
  | path
  | equals
  | comma
  | listOpens
  | listCloses
  deriving DecidableEq, Repr

def Mark.text : Mark → List Char
  | .path => [':', ':']
  | .equals => ['=', '=']
  | .comma => [',']
  | .listOpens => ['[']
  | .listCloses => [']']

/-- A token. The literal of an id is on one line. -/
inductive Token where
  | word {letters : List Char} (spelled : IsWord letters)
  | mark (m : Mark)
  | literal {id body : List Char} (spelled : Spells id body) (line : '\n' ∉ body)

def Token.text : Token → List Char
  | @word letters _ => letters
  | .mark m => m.text
  | @literal _ body _ _ => '"' :: (body ++ ['"'])

def Token.IsWord : Token → Prop
  | .word _ => True
  | _ => False

/-- Two tokens that would be read as one if nothing stood between them. -/
def Token.RunsInto (t next : Token) : Prop := t.IsWord ∧ next.IsWord

/-- A text consists of tokens in their order, each with a gap behind it. Behind a token that
is to be kept apart from the next the gap is not empty. -/
inductive Spread (Gap : List Char → Prop) (Apart : Token → Token → Prop) :
    List Token → List Char → Prop where
  | nil : Spread Gap Apart [] []
  | cons {t gap ts rest} : Gap gap → (∀ next ∈ ts.head?, Apart t next → gap ≠ []) →
      Spread Gap Apart ts rest → Spread Gap Apart (t :: ts) (t.text ++ (gap ++ rest))

/-- Tokens with a blank behind each. -/
def joined (ts : List Token) : List Char := ts.flatMap fun t => t.text ++ [' ']

/-! ### The grammar -/

/-- The words of a path, each with `::` behind it. -/
inductive PathTokens : List Token → Prop where
  | last {letters} (h : IsWord letters) : PathTokens [.word h, .mark .path]
  | more {letters ts} (h : IsWord letters) : PathTokens ts →
      PathTokens (.word h :: .mark .path :: ts)

/-- A reference to the entity with an id. -/
inductive EntityTokens (id : List Char) : List Token → Prop where
  | mk {path body} (h : Spells id body) (hline : '\n' ∉ body) : PathTokens path →
      EntityTokens id (path ++ [.literal h hline])

/-- Items between commas. There may be nothing between two commas. -/
inductive Listed {α : Type} (Item : α → List Token → Prop) : List α → List Token → Prop where
  | none : Listed Item [] []
  | item {a ts} : Item a ts → Listed Item [a] ts
  | skip {as rest} : Listed Item as rest → Listed Item as (.mark .comma :: rest)
  | more {a as ts rest} : Item a ts → Listed Item as rest →
      Listed Item (a :: as) (ts ++ .mark .comma :: rest)

/-- What stands behind the word `principal`. -/
inductive PrincipalTokens : PrincipalConstraint → List Token → Prop where
  | unconstrained : PrincipalTokens .unconstrained []
  | exact {id ts} : EntityTokens id ts →
      PrincipalTokens (.exact (String.ofList id)) (.mark .equals :: ts)
  | category {id ts} : EntityTokens id ts →
      PrincipalTokens (.category (String.ofList id)) (.word isWord_in :: ts)

/-- What stands behind the word `action`. -/
inductive ActionTokens : ActionConstraint → List Token → Prop where
  | unconstrained : ActionTokens .unconstrained []
  | single {id ts} : EntityTokens id ts →
      ActionTokens (.single (String.ofList id)) (.mark .equals :: ts)
  | singleIn {id ts} : EntityTokens id ts →
      ActionTokens (.single (String.ofList id)) (.word isWord_in :: ts)
  | oneOf {ids ts} : Listed EntityTokens ids ts →
      ActionTokens (.oneOf (NameSet.ofList (ids.map String.ofList)))
        (.word isWord_in :: .mark .listOpens :: (ts ++ [.mark .listCloses]))

/-- One clause. A resource is constrained as an action may be. -/
inductive ClauseTokens : Clause → List Token → Prop where
  | principal {c ts} : PrincipalTokens c ts →
      ClauseTokens (.principal c) (.word isWord_principal :: ts)
  | action {c ts} : ActionTokens c ts → ClauseTokens (.action c) (.word isWord_action :: ts)
  | resource {c ts} : ActionTokens c ts → ClauseTokens .resource (.word isWord_resource :: ts)

/-! ### Spreading -/

/-- Tokens spread with blanks only, words apart. -/
abbrev Blanks (ts : List Token) (text : List Char) : Prop :=
  Spread (fun gap => allBlank gap = true) Token.RunsInto ts text

theorem Spread.split {Gap : List Char → Prop} {Apart : Token → Token → Prop} {a b : List Token}
    {text : List Char} (h : Spread Gap Apart (a ++ b) text) :
    ∃ front back, text = front ++ back ∧ Spread Gap Apart a front ∧ Spread Gap Apart b back := by
  induction a generalizing text with
  | nil => exact ⟨[], text, rfl, .nil, h⟩
  | cons t a ih =>
    cases h with
    | @cons _ gap _ rest hgap hapart hrest =>
      obtain ⟨front, back, rfl, hfront, hback⟩ := ih hrest
      refine ⟨t.text ++ (gap ++ front), back, by simp, .cons hgap ?_ hfront, hback⟩
      intro next hnext
      refine hapart next ?_
      show next ∈ (a ++ b).head?
      rw [List.head?_append, hnext]
      rfl

/-- One blank is enough of a gap anywhere. -/
theorem spread_joined {Gap : List Char → Prop} (hgap : Gap [' ']) (Apart : Token → Token → Prop)
    (ts : List Token) : Spread Gap Apart ts (joined ts) := by
  induction ts with
  | nil => exact .nil
  | cons t ts ih =>
    show Spread Gap Apart (t :: ts) ((t.text ++ [' ']) ++ joined ts)
    rw [List.append_assoc]
    exact .cons hgap (fun _ _ _ => List.cons_ne_nil _ _) ih

theorem Spread.word {letters text : List Char} {h : IsWord letters} {ts : List Token}
    (hs : Blanks (.word h :: ts) text) :
    ∃ gap rest, text = letters ++ (gap ++ rest) ∧ allBlank gap = true ∧
      (∀ next ∈ ts.head?, next.IsWord → gap ≠ []) ∧ Blanks ts rest := by
  cases hs with
  | @cons _ gap _ rest hgap hapart hrest =>
    exact ⟨gap, rest, rfl, hgap, fun next hnext hword => hapart next hnext ⟨trivial, hword⟩, hrest⟩

theorem Spread.mark {m : Mark} {text : List Char} {ts : List Token}
    (hs : Blanks (.mark m :: ts) text) :
    ∃ gap rest, text = m.text ++ (gap ++ rest) ∧ allBlank gap = true ∧ Blanks ts rest := by
  cases hs with
  | @cons _ gap _ rest hgap _ hrest => exact ⟨gap, rest, rfl, hgap, hrest⟩

/-! ### Spread with blanks, tokens are in the notation -/

/-- A path is followed by the blanks behind it. -/
theorem PathTokens.text {ts : List Token} (h : PathTokens ts) {text : List Char}
    (hs : Blanks ts text) :
    ∃ path gap, text = path ++ gap ∧ PathText path ∧ allBlank gap = true := by
  induction h generalizing text with
  | last hw =>
    obtain ⟨after, rest, rfl, hafter, -, hs⟩ := hs.word
    obtain ⟨gap, rest, rfl, hgap, hs⟩ := hs.mark
    cases hs
    have hsegment := @SegmentText.mk [] _ _ rfl hw hafter
    exact ⟨_, gap, by simp [Mark.text], .last hsegment, hgap⟩
  | @more letters ts hw _ ih =>
    obtain ⟨after, rest, rfl, hafter, -, hs⟩ := hs.word
    obtain ⟨before, rest, rfl, hbefore, hs⟩ := hs.mark
    obtain ⟨path, gap, rfl, hpath, hgap⟩ := ih hs
    have hsegment := @SegmentText.mk [] _ _ rfl hw hafter
    exact ⟨_, gap, by simp [Mark.text], .more hsegment (hpath.gap hbefore), hgap⟩

theorem EntityTokens.text {id : List Char} {ts : List Token} (h : EntityTokens id ts)
    {text : List Char} (hs : Blanks ts text) : EntityText id text := by
  obtain ⟨hspells, hline, hpath⟩ := h
  obtain ⟨front, back, rfl, hfront, hback⟩ := hs.split
  obtain ⟨path, gap, rfl, hpath, hgap⟩ := hpath.text hfront
  cases hback with
  | @cons _ after _ rest hafter _ hrest =>
    cases hrest
    have := EntityText.mk hpath hgap hspells hafter
    simpa [Token.text] using this

/-- A path starts with a word. -/
theorem EntityTokens.head {id : List Char} {ts : List Token} (h : EntityTokens id ts) :
    ∃ first, first ∈ ts.head? ∧ first.IsWord := by
  obtain ⟨-, -, hpath⟩ := h
  cases hpath with
  | last hw => exact ⟨_, rfl, trivial⟩
  | more hw _ => exact ⟨_, rfl, trivial⟩

/-- Behind the word `in` a reference starts with a blank. -/
theorem EntityTokens.apart {id : List Char} {ts : List Token} (h : EntityTokens id ts)
    {gap text : List Char} (hgap : allBlank gap = true)
    (hapart : ∀ next ∈ ts.head?, next.IsWord → gap ≠ []) (hs : Blanks ts text) :
    ∃ blank rest, gap ++ text = blank :: rest ∧ isBlank blank = true ∧
      EntityText id (blank :: rest) := by
  obtain ⟨first, hfirst, hword⟩ := h.head
  have hentity := (h.text hs).gap hgap
  cases gap with
  | nil => exact absurd rfl (hapart first hfirst hword)
  | cons blank gap =>
    rw [allBlank_cons, Bool.and_eq_true] at hgap
    exact ⟨blank, gap ++ text, rfl, hgap.1, hentity⟩

/-- Items between commas are read as they are on their own. -/
theorem Listed.text {α : Type} {ItemTokens : α → List Token → Prop} {Item : α → List Char → Prop}
    {as : List α} {ts : List Token} (h : Listed ItemTokens as ts)
    (hItem : ∀ a ts text, ItemTokens a ts → Blanks ts text → Item a text)
    (hgap : ∀ {gap a text}, allBlank gap = true → Item a text → Item a (gap ++ text))
    {text : List Char} (hs : Blanks ts text) : Separated Item as text := by
  induction h generalizing text with
  | none =>
    cases hs
    exact .blank rfl
  | item hi => exact .item (hItem _ _ _ hi hs)
  | skip _ ih =>
    obtain ⟨gap, rest, rfl, hblank, hs⟩ := hs.mark
    exact @Separated.skip _ _ [] _ _ rfl ((ih hs).gap hgap hblank)
  | more hi _ ih =>
    obtain ⟨front, back, rfl, hfront, hback⟩ := hs.split
    obtain ⟨gap, rest, rfl, hblank, hs⟩ := hback.mark
    exact .more (hItem _ _ _ hi hfront) ((ih hs).gap hgap hblank)

theorem PrincipalTokens.text {c : PrincipalConstraint} {ts : List Token}
    (h : PrincipalTokens c ts) {gap text : List Char} (hgap : allBlank gap = true)
    (hapart : ∀ next ∈ ts.head?, next.IsWord → gap ≠ []) (hs : Blanks ts text) :
    PrincipalText c (gap ++ text) := by
  cases h with
  | unconstrained =>
    cases hs
    rw [List.append_nil]
    exact .unconstrained hgap
  | exact he =>
    obtain ⟨inner, rest, rfl, hinner, hs⟩ := hs.mark
    show PrincipalText _ (gap ++ '=' :: '=' :: (inner ++ rest))
    exact .exact hgap ((he.text hs).gap hinner)
  | category he =>
    obtain ⟨inner, rest, rfl, hinner, hword, hs⟩ := hs.word
    obtain ⟨blank, tail, htext, hblank, hentity⟩ := he.apart hinner hword hs
    rw [htext]
    exact .category hgap (hapart _ rfl trivial) hentity hblank

theorem ActionTokens.text {c : ActionConstraint} {ts : List Token}
    (h : ActionTokens c ts) {gap text : List Char} (hgap : allBlank gap = true)
    (hapart : ∀ next ∈ ts.head?, next.IsWord → gap ≠ []) (hs : Blanks ts text) :
    ActionText c (gap ++ text) := by
  cases h with
  | unconstrained =>
    cases hs
    rw [List.append_nil]
    exact .unconstrained hgap
  | single he =>
    obtain ⟨inner, rest, rfl, hinner, hs⟩ := hs.mark
    show ActionText _ (gap ++ '=' :: '=' :: (inner ++ rest))
    exact .single hgap ((he.text hs).gap hinner)
  | singleIn he =>
    obtain ⟨inner, rest, rfl, hinner, hword, hs⟩ := hs.word
    obtain ⟨blank, tail, htext, hblank, hentity⟩ := he.apart hinner hword hs
    rw [htext]
    exact .singleIn hgap (hapart _ rfl trivial) hentity hblank
  | oneOf hl =>
    obtain ⟨before, rest, rfl, hbefore, -, hs⟩ := hs.word
    obtain ⟨first, rest, rfl, hfirst, hs⟩ := hs.mark
    obtain ⟨inner, back, rfl, hinner, hback⟩ := hs.split
    obtain ⟨after, rest, rfl, hafter, hs⟩ := hback.mark
    cases hs
    have hlist : Separated EntityText _ inner :=
      hl.text (fun _ _ _ he => he.text) EntityText.gap hinner
    have hlist := hlist.gap EntityText.gap hfirst
    have := ActionText.oneOf hgap (hapart _ rfl trivial) hbefore hlist hafter
    simpa [Mark.text] using this

/-- **Spread with blanks, the tokens of a clause are that clause.** -/
theorem ClauseTokens.text {c : Clause} {ts : List Token} (h : ClauseTokens c ts)
    {text : List Char} (hs : Blanks ts text) : ClauseText c text := by
  cases h with
  | principal hp =>
    obtain ⟨gap, rest, rfl, hgap, hword, hs⟩ := hs.word
    exact @ClauseText.principal [] _ _ rfl (hp.text hgap hword hs)
  | action ha =>
    obtain ⟨gap, rest, rfl, hgap, hword, hs⟩ := hs.word
    exact @ClauseText.action [] _ _ rfl (ha.text hgap hword hs)
  | resource ha =>
    obtain ⟨gap, rest, rfl, hgap, hword, hs⟩ := hs.word
    have hafter := ha.text hgap hword hs
    exact @ClauseText.resource [] _ rfl hafter.endsWord hafter.sealed

/-- **Spread with blanks, the tokens of a scope are its clauses.** -/
theorem Listed.scope {clauses : List Clause} {ts : List Token}
    (h : Listed ClauseTokens clauses ts) {gap text : List Char} (hgap : allBlank gap = true)
    (hs : Blanks ts text) : Separated ClauseText clauses (gap ++ text) := by
  have hclauses : Separated ClauseText clauses text :=
    h.text (fun _ _ _ hc => hc.text) ClauseText.gap hs
  exact hclauses.gap ClauseText.gap hgap

end Portcullis.Policy
