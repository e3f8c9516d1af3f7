import Portcullis.Proofs.Policy.Reading

/-! Rules written in the notation.

Every rule has a text: a line that names it and a line that states it, with its entities
under a path of words. Written text is in the notation, whatever the names in it hold: inside
a literal a quote, a backslash and a line feed stand escaped, so a line stays one line and a
literal ends at its own quote. -/
namespace Portcullis.Policy
open Text

/-- The path that entities are written under. -/
structure Path where
  words : List (List Char)
  visible : words ≠ []
  spelled : ∀ word ∈ words, IsWord word

/-- The path that one word makes. -/
def Path.word (word : List Char) (h : IsWord word) : Path where
  words := [word]
  visible := List.cons_ne_nil _ _
  spelled := by
    intro w hw
    rwa [List.mem_singleton.mp hw]

/-- How a character stands in a literal. -/
def escape (c : Char) : List Char :=
  if c = '"' then ['\\', '"']
  else if c = '\\' then ['\\', '\\']
  else if c = '\n' then ['\\', 'n']
  else [c]

/-- A literal. -/
def literalText (value : List Char) : List Char := '"' :: (value.flatMap escape ++ ['"'])

/-- A reference to the entity with an id. -/
def Path.entity (path : Path) (id : List Char) : List Char :=
  path.words.flatMap (· ++ [':', ':']) ++ literalText id

/-- References with commas between them. -/
def Path.entities (path : Path) : List (List Char) → List Char
  | [] => []
  | [id] => path.entity id
  | id :: rest => path.entity id ++ ',' :: ' ' :: path.entities rest

/-- What is written behind the word `principal`. -/
def PrincipalConstraint.text (path : Path) : PrincipalConstraint → List Char
  | .unconstrained => []
  | .category name => ' ' :: (inWord ++ ' ' :: path.entity name.toList)
  | .exact identity => ' ' :: '=' :: '=' :: ' ' :: path.entity identity.toList

/-- What is written behind the word `action`. -/
def ActionConstraint.text (path : Path) : ActionConstraint → List Char
  | .unconstrained => []
  | .single name => ' ' :: '=' :: '=' :: ' ' :: path.entity name.toList
  | .oneOf names =>
    ' ' :: (inWord ++ ' ' :: '[' :: (path.entities (names.toList.map String.toList) ++ [']']))

/-- The clauses between a statement's parentheses. -/
def scopeText (principals actions : Path) (principal : PrincipalConstraint)
    (action : ActionConstraint) : List Char :=
  principalWord ++ principal.text principals ++ ',' :: ' ' ::
    (actionWord ++ action.text actions ++ ',' :: ' ' :: resourceWord)

/-- The line that states a rule. -/
def Rule.statement (principals actions : Path) (r : Rule) : List Char :=
  r.effect.word ++ '(' :: (scopeText principals actions r.principal r.action ++ [')', ';'])

/-- The line that names a rule. -/
def Rule.annotation (r : Rule) : List Char := idWord ++ '(' :: (literalText r.id.toList ++ [')'])

/-! ### Names in order -/

theorem insertName_of_lt {name : String} {names : List String} (h : ∀ n ∈ names, name < n) :
    insertName name names = name :: names := by
  cases names with
  | nil => rfl
  | cons n rest => rw [insertName, if_pos (h n (List.mem_cons_self ..))]

theorem NameSet.toList_ofList {names : List String} (h : names.Pairwise (· < ·)) :
    (NameSet.ofList names).toList = names := by
  induction names with
  | nil => rfl
  | cons name rest ih =>
    obtain ⟨hname, hrest⟩ := List.pairwise_cons.mp h
    show insertName name (NameSet.ofList rest).toList = name :: rest
    rw [ih hrest, insertName_of_lt hname]

theorem NameSet.ofList_toList (s : NameSet) : NameSet.ofList s.toList = s := by
  obtain ⟨names, h⟩ := s
  rw [NameSet.mk.injEq]
  exact NameSet.toList_ofList h

/-! ### Written text is in the notation -/

theorem spells_escape (value : List Char) : Spells value (value.flatMap escape) := by
  induction value with
  | nil => exact .nil
  | cons c rest ih =>
    rw [List.flatMap_cons]
    by_cases hq : c = '"'
    · subst hq
      exact @Spells.escaped '"' _ _ ih
    by_cases hb : c = '\\'
    · subst hb
      exact @Spells.escaped '\\' _ _ ih
    by_cases hn : c = '\n'
    · subst hn
      exact @Spells.escaped 'n' _ _ ih
    · rw [escape, if_neg hq, if_neg hb, if_neg hn]
      exact .plain hq hb ih

theorem pathText_words {words : List (List Char)} (hv : words ≠ [])
    (hs : ∀ word ∈ words, IsWord word) : PathText (words.flatMap (· ++ [':', ':'])) := by
  induction words with
  | nil => exact absurd rfl hv
  | cons word rest ih =>
    have hword : SegmentText word := (hs word (List.mem_cons_self ..)).segment
    rw [List.flatMap_cons]
    cases rest with
    | nil =>
      rw [List.flatMap_nil, List.append_nil]
      exact .last hword
    | cons next others =>
      have hrest := ih (List.cons_ne_nil _ _) fun w hw => hs w (List.mem_cons_of_mem _ hw)
      rw [List.append_assoc]
      exact .more hword hrest

theorem Path.entityText (path : Path) (id : List Char) : EntityText id (path.entity id) :=
  @EntityText.mk id _ [] _ [] (pathText_words path.visible path.spelled) rfl (spells_escape id) rfl

theorem Path.entityText_space (path : Path) (id : List Char) :
    EntityText id (' ' :: path.entity id) :=
  @EntityText.gap [' '] _ _ rfl (path.entityText id)

theorem Path.entities_separated (path : Path) (ids : List (List Char)) :
    Separated EntityText ids (path.entities ids) := by
  fun_induction path.entities ids with
  | case1 => exact .blank rfl
  | case2 id => exact .item (path.entityText id)
  | case3 id rest hr ih =>
    have hspace : Separated EntityText rest ([' '] ++ path.entities rest) := ih.gap .gap rfl
    exact .more (path.entityText id) hspace

theorem PrincipalConstraint.text_notation (path : Path) (c : PrincipalConstraint) :
    PrincipalText c (c.text path) := by
  cases c with
  | unconstrained => exact .unconstrained rfl
  | category name =>
    have := @PrincipalText.category [' '] name.toList ' ' (path.entity name.toList) rfl
      (List.cons_ne_nil _ _) (path.entityText_space _) rfl
    rwa [String.ofList_toList] at this
  | exact identity =>
    have := @PrincipalText.exact [' '] identity.toList (' ' :: path.entity identity.toList) rfl
      (path.entityText_space _)
    rwa [String.ofList_toList] at this

theorem ActionConstraint.text_notation (path : Path) (c : ActionConstraint) :
    ActionText c (c.text path) := by
  cases c with
  | unconstrained => exact .unconstrained rfl
  | single name =>
    have := @ActionText.single [' '] name.toList (' ' :: path.entity name.toList) rfl
      (path.entityText_space _)
    rwa [String.ofList_toList] at this
  | oneOf names =>
    have := @ActionText.oneOf [' '] [' '] (names.toList.map String.toList)
      (path.entities (names.toList.map String.toList)) [] rfl (List.cons_ne_nil _ _) rfl
      (path.entities_separated _) rfl
    have hnames : (names.toList.map String.toList).map String.ofList = names.toList := by simp
    rwa [hnames, NameSet.ofList_toList] at this

theorem scopeText_separated (principals actions : Path) (principal : PrincipalConstraint)
    (action : ActionConstraint) :
    Separated ClauseText [.principal principal, .action action, .resource]
      (scopeText principals actions principal action) := by
  have hp : ClauseText (.principal principal) (principalWord ++ principal.text principals) :=
    @ClauseText.principal [] _ _ rfl (principal.text_notation principals)
  have ha : ClauseText (.action action) (' ' :: (actionWord ++ action.text actions)) :=
    @ClauseText.action [' '] _ _ rfl (action.text_notation actions)
  have hr : ClauseText .resource (' ' :: resourceWord) := @ClauseText.resource [' '] [] rfl rfl .nil
  exact .more hp (.more ha (.item hr))

/-! ### Written text stays on its line -/

theorem newline_notMem_literalText (value : List Char) : '\n' ∉ literalText value := by
  have hescape : ∀ c, '\n' ∉ escape c := by
    intro c
    unfold escape
    split
    · decide
    · split
      · decide
      · split
        · decide
        · rename_i hn
          simpa using Ne.symm hn
  simp [literalText, hescape]

theorem IsWord.newline_notMem {word : List Char} (h : IsWord word) : '\n' ∉ word := by
  intro hmem
  exact absurd (h.spelled _ hmem) (by decide)

theorem Path.newline_notMem_entity (path : Path) (id : List Char) : '\n' ∉ path.entity id := by
  have hwords : ∀ word ∈ path.words, '\n' ∉ word := fun w hw => (path.spelled w hw).newline_notMem
  simp [Path.entity, newline_notMem_literalText]
  exact hwords

theorem Path.newline_notMem_entities (path : Path) (ids : List (List Char)) :
    '\n' ∉ path.entities ids := by
  fun_induction path.entities ids with
  | case1 => exact List.not_mem_nil
  | case2 id => exact path.newline_notMem_entity id
  | case3 id rest hr ih => simp [path.newline_notMem_entity, ih]

theorem newline_notMem_scopeText (principals actions : Path) (principal : PrincipalConstraint)
    (action : ActionConstraint) : '\n' ∉ scopeText principals actions principal action := by
  have hp : '\n' ∉ principal.text principals := by
    cases principal <;>
      simp [PrincipalConstraint.text, inWord, Path.newline_notMem_entity]
  have ha : '\n' ∉ action.text actions := by
    cases action <;>
      simp [ActionConstraint.text, inWord, Path.newline_notMem_entity, Path.newline_notMem_entities]
  simp [scopeText, principalWord, actionWord, resourceWord, hp, ha]

/-! ### The two lines of a rule -/

/-- **The line that states a rule is a well-formed statement.** -/
theorem Rule.statementLine (principals actions : Path) (r : Rule) :
    StatementLine r.effect r.principal r.action (r.statement principals actions) where
  spelled := by
    refine ⟨_, @StatementText.mk _ _ [] _ [] rfl
      (scopeText_separated principals actions r.principal r.action) rfl, ?_⟩
    exact ⟨by simp [constraintsOf, Constraints.add, Constraints.none], rfl, rfl⟩
  unbroken := by
    have hword : '\n' ∉ r.effect.word := by cases r.effect <;> decide
    simp [Rule.statement, hword, newline_notMem_scopeText]

/-- **The line that names a rule is an annotation with its name.** -/
theorem Rule.annotationLine (r : Rule) : AnnotationLine r.id.toList r.annotation where
  spelled := by
    refine ⟨_, spells_escape r.id.toList, ?_⟩
    rw [Rule.annotation, literalText, List.cons_append, List.append_assoc]
    rfl
  unbroken := by simp [Rule.annotation, idWord, newline_notMem_literalText]

end Portcullis.Policy
