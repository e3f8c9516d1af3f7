import Portcullis.Proofs.Policy.Sealed
import Portcullis.Proofs.Text.Classes

/-! The notation of statements, as a grammar.

What a well-formed statement looks like, said without a reader: from paths of words over
entity references, clauses and scopes up to whole statements. Blanks may stand wherever a
reader tolerates them, clauses may come in any order and number, and nothing may be left
between two commas. `Recognition` shows that the readers understand all of it.

Every form is `Sealed`, which is what keeps a form in one piece inside a larger one. -/
namespace Portcullis.Policy
open Text

/-- A word of an entity path. -/
structure IsWord (word : List Char) : Prop where
  visible : word ≠ []
  spelled : ∀ c ∈ word, isWordChar c = true

/-- A word with blanks around it. -/
inductive SegmentText : List Char → Prop where
  | mk {before word after} : allBlank before = true → IsWord word → allBlank after = true →
      SegmentText (before ++ (word ++ after))

/-- The words of a path, each with `::` behind it. -/
inductive PathText : List Char → Prop where
  | last {segment} : SegmentText segment → PathText (segment ++ [':', ':'])
  | more {segment rest} : SegmentText segment → PathText rest →
      PathText (segment ++ ':' :: ':' :: rest)

/-- A reference to the entity with an id: a path and a literal that spells the id. -/
inductive EntityText (id : List Char) : List Char → Prop where
  | mk {path gap body after} : PathText path → allBlank gap = true → Spells id body →
      allBlank after = true → EntityText id (path ++ (gap ++ ('"' :: (body ++ '"' :: after))))

/-- Items between commas. There may be nothing between two commas. -/
inductive Separated {α : Type} (Item : α → List Char → Prop) : List α → List Char → Prop where
  | blank {gap} : allBlank gap = true → Separated Item [] gap
  | item {a text} : Item a text → Separated Item [a] text
  | skip {gap as rest} : allBlank gap = true → Separated Item as rest →
      Separated Item as (gap ++ ',' :: rest)
  | more {a as text rest} : Item a text → Separated Item as rest →
      Separated Item (a :: as) (text ++ ',' :: rest)

/-- What stands behind the word `principal`. A blank stands on either side of `in`. -/
inductive PrincipalText : PrincipalConstraint → List Char → Prop where
  | unconstrained {gap} : allBlank gap = true → PrincipalText .unconstrained gap
  | exact {gap id text} : allBlank gap = true → EntityText id text →
      PrincipalText (.exact (String.ofList id)) (gap ++ '=' :: '=' :: text)
  | category {gap id blank text} : allBlank gap = true → gap ≠ [] → EntityText id (blank :: text) →
      isBlank blank = true →
      PrincipalText (.category (String.ofList id)) (gap ++ (inWord ++ blank :: text))

/-- What stands behind the word `action`. A list may follow `in` directly. -/
inductive ActionText : ActionConstraint → List Char → Prop where
  | unconstrained {gap} : allBlank gap = true → ActionText .unconstrained gap
  | single {gap id text} : allBlank gap = true → EntityText id text →
      ActionText (.single (String.ofList id)) (gap ++ '=' :: '=' :: text)
  | singleIn {gap id blank text} : allBlank gap = true → gap ≠ [] →
      EntityText id (blank :: text) → isBlank blank = true →
      ActionText (.single (String.ofList id)) (gap ++ (inWord ++ blank :: text))
  | oneOf {gap before ids text after} : allBlank gap = true → gap ≠ [] →
      allBlank before = true → Separated EntityText ids text → allBlank after = true →
      ActionText (.oneOf (NameSet.ofList (ids.map String.ofList)))
        (gap ++ (inWord ++ (before ++ '[' :: (text ++ ']' :: after))))

/-- One clause, with blanks in front. Behind the word `resource` anything may stand that
does not run into it. -/
inductive ClauseText : Clause → List Char → Prop where
  | principal {gap c text} : allBlank gap = true → PrincipalText c text →
      ClauseText (.principal c) (gap ++ (principalWord ++ text))
  | action {gap c text} : allBlank gap = true → ActionText c text →
      ClauseText (.action c) (gap ++ (actionWord ++ text))
  | resource {gap text} : allBlank gap = true → endsWord text = true → Sealed false text →
      ClauseText .resource (gap ++ (resourceWord ++ text))

/-- A whole statement, from the word that opens it to the semicolon. -/
inductive StatementText (effect : Effect) (clauses : List Clause) : List Char → Prop where
  | mk {gap scope trailer} : allBlank gap = true → Separated ClauseText clauses scope →
      allBlank trailer = true →
      StatementText effect clauses
        (effect.word ++ (gap ++ '(' :: (scope ++ ')' :: (trailer ++ [';']))))

/-- What clauses constrain: of each kind the last one counts. -/
def constraintsOf (clauses : List Clause) : Constraints := clauses.foldl Constraints.add .none

/-- Clauses that make a rule of these constraints: one of them at least is about the
principal or the action. -/
structure Constrain (clauses : List Clause) (principal : PrincipalConstraint)
    (action : ActionConstraint) : Prop where
  said : constraintsOf clauses ≠ .none
  principal : (constraintsOf clauses).principal.getD .unconstrained = principal
  action : (constraintsOf clauses).action.getD .unconstrained = action

/-! ### Words -/

theorem IsWord.of_all {word : List Char} (hv : word ≠ []) (h : word.all isWordChar = true) :
    IsWord word :=
  ⟨hv, List.all_eq_true.mp h⟩

theorem isWord_principal : IsWord principalWord := .of_all (by decide) (by decide)
theorem isWord_action : IsWord actionWord := .of_all (by decide) (by decide)
theorem isWord_resource : IsWord resourceWord := .of_all (by decide) (by decide)
theorem isWord_in : IsWord inWord := .of_all (by decide) (by decide)

theorem isWord_effect (effect : Effect) : IsWord effect.word := by
  cases effect with
  | permit => exact .of_all (by decide) (by decide)
  | forbid => exact .of_all (by decide) (by decide)

/-! ### Blanks in front -/

theorem IsWord.segment {word : List Char} (h : IsWord word) : SegmentText word := by
  have := @SegmentText.mk [] word [] rfl h rfl
  rwa [List.append_nil] at this

theorem SegmentText.gap {gap segment : List Char} (hg : allBlank gap = true)
    (h : SegmentText segment) : SegmentText (gap ++ segment) := by
  obtain ⟨hb, hw, ha⟩ := h
  rw [← List.append_assoc]
  exact .mk (by rw [allBlank_append, hg, hb]; rfl) hw ha

theorem PathText.gap {gap path : List Char} (hg : allBlank gap = true) (h : PathText path) :
    PathText (gap ++ path) := by
  cases h with
  | last hs =>
    rw [← List.append_assoc]
    exact .last (hs.gap hg)
  | more hs hr =>
    rw [← List.append_assoc]
    exact .more (hs.gap hg) hr

theorem EntityText.gap {gap id text : List Char} (hg : allBlank gap = true)
    (h : EntityText id text) : EntityText id (gap ++ text) := by
  obtain ⟨hp, hi, hs, ha⟩ := h
  rw [← List.append_assoc]
  exact .mk (hp.gap hg) hi hs ha

theorem Separated.gap {α : Type} {Item : α → List Char → Prop}
    (hItem : ∀ {gap a text}, allBlank gap = true → Item a text → Item a (gap ++ text))
    {gap : List Char} (hg : allBlank gap = true) {as : List α} {text : List Char}
    (h : Separated Item as text) : Separated Item as (gap ++ text) := by
  cases h with
  | blank hb => exact .blank (by rw [allBlank_append, hg, hb]; rfl)
  | item hi => exact .item (hItem hg hi)
  | skip hb hr =>
    rw [← List.append_assoc]
    exact .skip (by rw [allBlank_append, hg, hb]; rfl) hr
  | more hi hr =>
    rw [← List.append_assoc]
    exact .more (hItem hg hi) hr

theorem ClauseText.gap {gap : List Char} {c : Clause} {text : List Char}
    (hg : allBlank gap = true) (h : ClauseText c text) : ClauseText c (gap ++ text) := by
  have hfront : ∀ {before : List Char},
      allBlank before = true → allBlank (gap ++ before) = true := by
    intro before hb
    rw [allBlank_append, hg, hb]
    rfl
  cases h with
  | principal hb hp =>
    rw [← List.append_assoc]
    exact .principal (hfront hb) hp
  | action hb ha =>
    rw [← List.append_assoc]
    exact .action (hfront hb) ha
  | resource hb hend hs =>
    rw [← List.append_assoc]
    exact .resource (hfront hb) hend hs

/-! ### Every form is sealed -/

theorem isPlain_of_isBlank {c : Char} (h : isBlank c = true) : IsPlain c := by
  have hmarks : (marks.any isBlank) = false := by decide
  intro hc
  exact absurd h (List.any_eq_false.mp hmarks c hc)

theorem isPlain_of_isWordChar {c : Char} (h : isWordChar c = true) : IsPlain c := by
  have hmarks : (marks.any isWordChar) = false := by decide
  intro hc
  exact absurd h (List.any_eq_false.mp hmarks c hc)

theorem Sealed.blank {grouped : Bool} {gap : List Char} (h : allBlank gap = true) :
    Sealed grouped gap :=
  .of_plain fun _ hc => isPlain_of_isBlank (isBlank_of_mem h hc)

theorem IsWord.sealed {grouped : Bool} {word : List Char} (h : IsWord word) :
    Sealed grouped word :=
  .of_plain fun c hc => isPlain_of_isWordChar (h.spelled c hc)

theorem SegmentText.plain {segment : List Char} (h : SegmentText segment) :
    ∀ c ∈ segment, IsPlain c := by
  obtain ⟨hb, hw, ha⟩ := h
  intro c hc
  simp only [List.mem_append] at hc
  rcases hc with hc | hc | hc
  · exact isPlain_of_isBlank (isBlank_of_mem hb hc)
  · exact isPlain_of_isWordChar (hw.spelled c hc)
  · exact isPlain_of_isBlank (isBlank_of_mem ha hc)

theorem PathText.plain {path : List Char} (h : PathText path) : ∀ c ∈ path, IsPlain c := by
  have hcolon : IsPlain ':' := by decide
  induction h with
  | last hs =>
    intro c hc
    simp only [List.mem_append, List.mem_cons, List.not_mem_nil, or_false, or_self] at hc
    rcases hc with hc | rfl
    · exact hs.plain c hc
    · exact hcolon
  | more hs _ ih =>
    intro c hc
    simp only [List.mem_append, List.mem_cons] at hc
    rcases hc with hc | rfl | rfl | hc
    · exact hs.plain c hc
    · exact hcolon
    · exact hcolon
    · exact ih c hc

theorem EntityText.sealed {grouped : Bool} {id text : List Char} (h : EntityText id text) :
    Sealed grouped text := by
  obtain ⟨hp, hg, hs, ha⟩ := h
  exact (Sealed.of_plain hp.plain).append ((Sealed.blank hg).append (.literal hs (.blank ha)))

theorem Separated.sealed {α : Type} {Item : α → List Char → Prop}
    (hItem : ∀ a text, Item a text → Sealed true text) {as : List α} {text : List Char}
    (h : Separated Item as text) : Sealed true text := by
  induction h with
  | blank hg => exact .blank hg
  | item hi => exact hItem _ _ hi
  | skip hg _ ih => exact (Sealed.blank hg).append (.comma ih)
  | more hi _ ih => exact (hItem _ _ hi).append (.comma ih)

theorem PrincipalText.sealed {c : PrincipalConstraint} {text : List Char}
    (h : PrincipalText c text) : Sealed false text := by
  have heq : IsPlain '=' := by decide
  cases h with
  | unconstrained hg => exact .blank hg
  | exact hg he => exact (Sealed.blank hg).append (.plain heq (.plain heq he.sealed))
  | category hg _ he _ => exact (Sealed.blank hg).append (isWord_in.sealed.append he.sealed)

theorem ActionText.sealed {c : ActionConstraint} {text : List Char}
    (h : ActionText c text) : Sealed false text := by
  have heq : IsPlain '=' := by decide
  cases h with
  | unconstrained hg => exact .blank hg
  | single hg he => exact (Sealed.blank hg).append (.plain heq (.plain heq he.sealed))
  | singleIn hg _ he _ => exact (Sealed.blank hg).append (isWord_in.sealed.append he.sealed)
  | oneOf hg _ hb hs ha =>
    have hlist : Sealed false ('[' :: (_ ++ ']' :: _)) :=
      .list (hs.sealed fun _ _ => EntityText.sealed) (.blank ha)
    exact (Sealed.blank hg).append (isWord_in.sealed.append ((Sealed.blank hb).append hlist))

theorem ClauseText.sealed {c : Clause} {text : List Char} (h : ClauseText c text) :
    Sealed false text := by
  cases h with
  | principal hg hp => exact (Sealed.blank hg).append (isWord_principal.sealed.append hp.sealed)
  | action hg ha => exact (Sealed.blank hg).append (isWord_action.sealed.append ha.sealed)
  | resource hg _ hs => exact (Sealed.blank hg).append (isWord_resource.sealed.append hs)

/-- The scope of a statement is sealed as a group. -/
theorem sealed_scope {clauses : List Clause} {scope : List Char}
    (h : Separated ClauseText clauses scope) : Sealed true scope :=
  h.sealed fun _ _ hc => hc.sealed.weaken

theorem StatementText.sealed {effect : Effect} {clauses : List Clause} {text : List Char}
    (h : StatementText effect clauses text) : Sealed false text := by
  obtain ⟨hg, hs, ht⟩ := h
  have hend : Sealed false [';'] := .plain (by decide) .nil
  exact (isWord_effect effect).sealed.append ((Sealed.blank hg).append
    (.parens (sealed_scope hs) ((Sealed.blank ht).append hend)))

end Portcullis.Policy
