import Portcullis.Proofs.Policy.Recognition

/-! Readers understand nothing but the notation.

The other half of `Recognition`: what a reader makes something of is spelled in the notation, and
means what the reader makes of it. The readers look for quotes, brackets and separators and cut
blanks away, and none of them knows the grammar. So a cut text is first put together again: pieces
with separators between them are the text they were cut from (`Joined`), a trimmed text is the text
with blanks around it. Then each reader is followed back to one form of the grammar, and with
`Recognition` it reads exactly that form (`entityId?_eq_some_iff`, `clauses_recognized`). -/
namespace Portcullis.Policy
open Text

/-! ### Pieces of a text -/

/-- Pieces with a separator between them. There is one piece at least. -/
inductive Joined (separator : List Char) : List (List Char) → List Char → Prop where
  | last (piece : List Char) : Joined separator [piece] piece
  | more (piece : List Char) {others : List (List Char)} {rest : List Char} :
      Joined separator others rest →
      Joined separator (piece :: others) (piece ++ (separator ++ rest))

theorem Joined.consFirst {separator : List Char} {pieces : List (List Char)} {text : List Char}
    (h : Joined separator pieces text) (c : Char) :
    Joined separator (consFirst c pieces) (c :: text) := by
  cases h with
  | last => exact .last (c :: text)
  | more piece h => exact .more (c :: piece) h

/-- A text is its segments with `::` between them. -/
theorem joined_segments (text : List Char) : Joined [':', ':'] (segments text) text := by
  fun_induction segments text with
  | case1 => exact .last []
  | case2 rest ih => exact .more [] ih
  | case3 c rest _ ih => exact ih.consFirst c

/-- A text is its pieces with commas between them, wherever the scan that cuts it stands. -/
theorem joined_splitFrom (quoting : Quoting) (depth : Nat) (text : List Char) :
    Joined [','] (splitFrom quoting depth text) text := by
  induction text generalizing quoting depth with
  | nil =>
    rw [splitFrom]
    exact .last []
  | cons c rest ih =>
    cases quoting with
    | escaped => exact (ih _ _).consFirst c
    | inside => exact (ih _ _).consFirst c
    | outside =>
      rw [splitFrom]
      split
      · rename_i hcomma
        rw [hcomma.1]
        exact .more [] (ih _ _)
      · exact (ih _ _).consFirst c

/-! ### Literals -/

/-- A literal is read up to its first quote that no backslash stands before. -/
theorem exists_of_literalBody? {text value after : List Char}
    (h : literalBody? text = some (value, after)) :
    ∃ body, Spells value body ∧ text = body ++ '"' :: after := by
  fun_induction literalBody? text generalizing value after with
  | case1 => cases h
  | case2 rest =>
    cases h
    exact ⟨[], .nil, rfl⟩
  | case3 c rest ih =>
    obtain ⟨⟨tail, rest'⟩, htail, heq⟩ := Option.map_eq_some_iff.mp h
    cases heq
    obtain ⟨body, hs, rfl⟩ := ih htail
    exact ⟨'\\' :: c :: body, .escaped hs, rfl⟩
  | case4 => cases h
  | case5 c rest hquote hescape hend ih =>
    obtain ⟨⟨tail, rest'⟩, htail, heq⟩ := Option.map_eq_some_iff.mp h
    cases heq
    obtain ⟨body, hs, rfl⟩ := ih htail
    refine ⟨c :: body, .plain hquote ?_ hs, rfl⟩
    -- A backslash here would have a character behind it and be read as an escape.
    rintro rfl
    cases body with
    | nil => exact hescape '"' _ rfl rfl
    | cons d body => exact hescape d _ rfl rfl

/-! ### Entities -/

/-- Blanks behind a reference change nothing about it. -/
theorem EntityText.behind {id text gap : List Char} (h : EntityText id text)
    (hg : allBlank gap = true) : EntityText id (text ++ gap) := by
  obtain @⟨path, before, body, after, hp, hb, hs, ha⟩ := h
  have hafter : allBlank (after ++ gap) = true := by rw [allBlank_append, ha, hg]; rfl
  simpa using EntityText.mk hp hb hs hafter

theorem segmentText_of_isSegment {segment : List Char} (h : isSegment segment = true) :
    SegmentText segment := by
  simp only [isSegment, Bool.and_eq_true, Bool.not_eq_true', List.isEmpty_eq_false_iff] at h
  obtain ⟨front, back, hf, hb, heq⟩ := exists_gaps segment
  rw [heq, List.append_assoc]
  exact .mk hf (.of_all h.1 h.2) hb

/-- Segments with `::` between them are a path, once `::` stands behind them too. -/
theorem Joined.path {pieces : List (List Char)} {text : List Char}
    (h : Joined [':', ':'] pieces text) (hall : ∀ piece ∈ pieces, isSegment piece = true) :
    PathText (text ++ [':', ':']) := by
  induction h with
  | last piece => exact .last (segmentText_of_isSegment (hall piece List.mem_cons_self))
  | more piece _ ih =>
    have hrest := ih fun other hother => hall other (List.mem_cons_of_mem _ hother)
    have hpath := PathText.more (segmentText_of_isSegment (hall piece List.mem_cons_self)) hrest
    simpa using hpath

theorem exists_of_isPath {text : List Char} (h : isPath text = true) :
    ∃ path gap, text = path ++ gap ∧ PathText path ∧ allBlank gap = true := by
  rw [isPath] at h
  split at h
  · rename_i path hpath
    obtain ⟨back, hback, heq⟩ := exists_back text
    rw [before?_eq_some_iff] at hpath
    refine ⟨path ++ [':', ':'], back, by rw [← hpath]; exact heq, ?_, hback⟩
    exact (joined_segments path).path (List.all_eq_true.mp h)
  · cases h

/-- What is read as an id is a reference to the entity with that id. -/
theorem entityText_of_entityId? {id text : List Char} (h : entityId? text = some id) :
    EntityText id text := by
  obtain ⟨front, back, hf, hb, heq⟩ := exists_gaps text
  rw [entityId?] at h
  dsimp only at h
  split at h
  · rename_i hpath
    obtain ⟨⟨value, rest⟩, hliteral, hrest⟩ := Option.bind_eq_some_iff.mp h
    dsimp only at hrest
    split at hrest
    · rename_i hblank
      cases hrest
      obtain ⟨path, gap, htake, hp, hg⟩ := exists_of_isPath hpath
      have hsplit := List.takeWhile_append_dropWhile (p := (· ≠ '"')) (l := trim text)
      rw [literal?.eq_def] at hliteral
      split at hliteral
      · rename_i body hdrop
        obtain ⟨body, hs, rfl⟩ := exists_of_literalBody? hliteral
        rw [htake, hdrop] at hsplit
        rw [heq, ← hsplit, List.append_assoc path, List.append_assoc front]
        exact ((EntityText.mk hp hg hs hblank).behind hb).gap hf
      · cases hliteral
    · cases hrest
  · cases h

theorem entityText_of_entityId?_trim {id text : List Char} (h : entityId? (trim text) = some id) :
    EntityText id text :=
  entityText_of_entityId? ((entityId?_trim text).symm.trans h)

/-- **An entity reference is read, and nothing else is read as one.** -/
theorem entityId?_eq_some_iff {id text : List Char} :
    entityId? text = some id ↔ EntityText id text :=
  ⟨entityText_of_entityId?, entityId?_of_entityText⟩

/-! ### Items between commas -/

/-- Joined pieces of which all that are not blank are read are the items that they are read as. -/
theorem Joined.separated {α : Type} {Item : α → List Char → Prop} {read : List Char → Option α}
    (hitem : ∀ a text, read (trim text) = some a → Item a text) {pieces : List (List Char)}
    {text : List Char} (h : Joined [','] pieces text) {as : List α}
    (hread : ((pieces.map trim).filter fun piece => !piece.isEmpty).mapM read = some as) :
    Separated Item as text := by
  induction h generalizing as with
  | last piece =>
    cases hp : trim piece with
    | nil =>
      obtain rfl : as = [] := by simpa [hp] using hread.symm
      exact .blank (trim_eq_nil_iff.mp hp)
    | cons c rest =>
      obtain ⟨a, ha, rfl⟩ : ∃ a, read (c :: rest) = some a ∧ [a] = as := by
        simpa [hp, Option.bind_eq_some_iff] using hread
      exact .item (hitem a piece (hp ▸ ha))
  | @more piece others rest _ ih =>
    cases hp : trim piece with
    | nil =>
      have hrest : ((others.map trim).filter fun piece => !piece.isEmpty).mapM read = some as := by
        simpa [hp] using hread
      exact .skip (trim_eq_nil_iff.mp hp) (ih hrest)
    | cons c tail =>
      obtain ⟨a, ha, as', hrest, rfl⟩ : ∃ a, read (c :: tail) = some a ∧ ∃ as',
          ((others.map trim).filter fun piece => !piece.isEmpty).mapM read = some as' ∧
            a :: as' = as := by
        simpa [hp, Option.bind_eq_some_iff] using hread
      exact .more (hitem a piece (hp ▸ ha)) (ih hrest)

/-- What is read as a list of ids is a list of references, with nothing else between the
brackets. -/
theorem separated_of_idList? {list : List Char} {names : NameSet}
    (h : idList? list = some names) :
    ∃ ids items gap, list = items ++ ']' :: gap ∧ Separated EntityText ids items ∧
      allBlank gap = true ∧ names = NameSet.ofList (ids.map String.ofList) := by
  obtain ⟨items, hitems, hread⟩ := Option.bind_eq_some_iff.mp h
  obtain ⟨ids, hids, rfl⟩ := Option.map_eq_some_iff.mp hread
  obtain ⟨gap, hg, heq⟩ := exists_back list
  rw [before?_eq_some_iff] at hitems
  rw [hitems, List.append_assoc] at heq
  have hs := (joined_splitFrom .outside 0 items).separated
    (fun id text => entityText_of_entityId?_trim) hids
  exact ⟨ids, items, gap, heq, hs, hg, rfl⟩

/-! ### Keywords -/

/-- What is read behind a keyword stands behind it as a word of its own. -/
theorem exists_of_keyword? {word text rest : List Char} (h : keyword? word text = some rest) :
    ∃ gap body, text = gap ++ (word ++ body) ∧ allBlank gap = true ∧ endsWord body = true ∧
      rest = trim body := by
  obtain ⟨body, hafter, hrest⟩ := Option.bind_eq_some_iff.mp h
  obtain ⟨gap, hg, heq⟩ := exists_front text
  rw [after?_eq_some_iff] at hafter
  rw [hafter] at heq
  split at hrest
  · rename_i hend
    cases hrest
    exact ⟨gap, body, heq, hg, hend, rfl⟩
  · cases hrest

theorem endsWord_behind {text gap : List Char} (h : endsWord text = true)
    (hg : allBlank gap = true) : endsWord (text ++ gap) = true := by
  cases text with
  | nil =>
    have hend := endsWord_gap hg (.inr (rfl : endsWord [] = true))
    rwa [List.append_nil] at hend
  | cons c rest => exact h

/-- The word `in` behind another keyword is parted from it by blanks. -/
theorem exists_of_keyword?_in {text rest : List Char} (hend : endsWord text = true)
    (h : keyword? inWord (trim text) = some rest) :
    ∃ gap body, text = gap ++ (inWord ++ body) ∧ allBlank gap = true ∧ gap ≠ [] ∧
      endsWord body = true ∧ rest = trim body := by
  obtain ⟨front, back, hf, hb, heq⟩ := exists_gaps text
  obtain ⟨gap, body, hin, hg, hbody, rfl⟩ := exists_of_keyword? h
  have htext : text = (front ++ gap) ++ (inWord ++ (body ++ back)) := by
    rw [heq, hin]
    simp
  refine ⟨front ++ gap, body ++ back, htext, ?_, ?_, endsWord_behind hbody hb,
    (trim_append_right hb body).symm⟩
  · rw [allBlank_append, hf, hg]
    rfl
  · intro hnil
    rw [htext, hnil] at hend
    cases hend

/-- A reference behind a keyword is parted from it by a blank. -/
theorem EntityText.exists_blank {id text : List Char} (h : EntityText id text)
    (hend : endsWord text = true) : ∃ blank rest, text = blank :: rest ∧ isBlank blank = true := by
  obtain ⟨_, _, _, htrim, _, _, _, c, rest, rfl, hc⟩ := h.trim
  cases text with
  | nil => exact absurd htrim (by simp [Text.trim])
  | cons d text =>
    cases hd : isBlank d with
    | true => exact ⟨d, text, rfl, hd⟩
    | false =>
      -- The reference starts with a letter of its path, and no keyword ends in front of one.
      rw [trim_cons_of_not_blank hd] at htrim
      injection htrim with hdc _
      subst hdc
      have hmarks : ['=', '[', '"'].any isWordChar = false := by decide
      have hne : ∀ mark ∈ ['=', '[', '"'], d ≠ mark := by
        rintro mark hmark rfl
        exact List.any_eq_false.mp hmarks _ hmark hc
      simp [endsWord, hd, hne] at hend

/-! ### Constraints -/

/-- What stands between the blanks of a text that is `==` with a reference behind it. -/
theorem exists_of_trim_equals {id target text : List Char}
    (htrim : trim text = '=' :: '=' :: target) (h : entityId? target = some id) :
    ∃ gap reference, text = gap ++ '=' :: '=' :: reference ∧ allBlank gap = true ∧
      EntityText id reference := by
  obtain ⟨front, back, hf, hb, heq⟩ := exists_gaps text
  rw [htrim, List.append_assoc] at heq
  exact ⟨front, target ++ back, heq, hf, (entityText_of_entityId? h).behind hb⟩

theorem principalText_of_constraint {c : PrincipalConstraint} {text : List Char}
    (hend : endsWord text = true) (h : principalConstraint? (trim text) = some c) :
    PrincipalText c text := by
  rw [principalConstraint?.eq_def] at h
  split at h
  · rename_i htrim
    cases h
    exact .unconstrained (trim_eq_nil_iff.mp htrim)
  · rename_i target htrim
    obtain ⟨id, hid, rfl⟩ := Option.map_eq_some_iff.mp h
    obtain ⟨gap, reference, rfl, hg, he⟩ := exists_of_trim_equals htrim hid
    exact .exact hg he
  · obtain ⟨target, hin, htarget⟩ := Option.bind_eq_some_iff.mp h
    obtain ⟨id, hid, rfl⟩ := Option.map_eq_some_iff.mp htarget
    obtain ⟨gap, body, rfl, hg, hne, hbody, rfl⟩ := exists_of_keyword?_in hend hin
    have he := entityText_of_entityId?_trim hid
    obtain ⟨blank, rest, rfl, hblank⟩ := he.exists_blank hbody
    exact .category hg hne he hblank

theorem actionText_of_constraint {c : ActionConstraint} {text : List Char}
    (hend : endsWord text = true) (h : actionConstraint? (trim text) = some c) :
    ActionText c text := by
  rw [actionConstraint?.eq_def] at h
  split at h
  · rename_i htrim
    cases h
    exact .unconstrained (trim_eq_nil_iff.mp htrim)
  · rename_i target htrim
    obtain ⟨id, hid, rfl⟩ := Option.map_eq_some_iff.mp h
    obtain ⟨gap, reference, rfl, hg, he⟩ := exists_of_trim_equals htrim hid
    exact .single hg he
  · obtain ⟨target, hin, htarget⟩ := Option.bind_eq_some_iff.mp h
    obtain ⟨gap, body, rfl, hg, hne, hbody, rfl⟩ := exists_of_keyword?_in hend hin
    split at htarget
    · rename_i list hlist
      obtain ⟨names, hnames, rfl⟩ := Option.map_eq_some_iff.mp htarget
      obtain ⟨ids, items, gap', rfl, hs, hg', rfl⟩ := separated_of_idList? hnames
      obtain ⟨front, back, hf, hb, heq⟩ := exists_gaps body
      have hafter : allBlank (gap' ++ back) = true := by rw [allBlank_append, hg', hb]; rfl
      have hbody : body = front ++ '[' :: (items ++ ']' :: (gap' ++ back)) := by
        rw [heq, hlist]
        simp
      rw [hbody]
      exact .oneOf hg hne hf hs hafter
    · obtain ⟨id, hid, rfl⟩ := Option.map_eq_some_iff.mp htarget
      have he := entityText_of_entityId?_trim hid
      obtain ⟨blank, rest, rfl, hblank⟩ := he.exists_blank hbody
      exact .singleIn hg hne he hblank

/-- **What stands behind `principal` is read as a constraint exactly if it spells that
constraint.** -/
theorem principalConstraint?_eq_some_iff {c : PrincipalConstraint} {text : List Char}
    (hend : endsWord text = true) :
    principalConstraint? (trim text) = some c ↔ PrincipalText c text :=
  ⟨principalText_of_constraint hend, principalConstraint?_of_text⟩

/-- **What stands behind `action` is read as a constraint exactly if it spells that
constraint.** -/
theorem actionConstraint?_eq_some_iff {c : ActionConstraint} {text : List Char}
    (hend : endsWord text = true) :
    actionConstraint? (trim text) = some c ↔ ActionText c text :=
  ⟨actionText_of_constraint hend, actionConstraint?_of_text⟩

/-! ### Clauses -/

/-- A trimmed text does not start with blanks. -/
theorem gap_eq_nil {text gap rest : List Char} (h : trim text = gap ++ rest)
    (hg : allBlank gap = true) : gap = [] := by
  cases gap with
  | nil => rfl
  | cons c gap =>
    rw [allBlank_cons, Bool.and_eq_true] at hg
    have hfront : trimStart (trim text) = trim text := by
      rw [trim, trimStart_trimEnd, trim_trimStart, trim]
    rw [h, List.cons_append, trimStart_cons_of_blank hg.1] at hfront
    have hlength := trimStart_length_le (gap ++ rest)
    rw [hfront, List.length_cons] at hlength
    omega

/-- The keyword that a trimmed text starts with stands at its front. -/
theorem exists_of_keyword?_trim {word text rest : List Char}
    (h : keyword? word (trim text) = some rest) :
    ∃ body, trim text = word ++ body ∧ endsWord body = true ∧ rest = trim body := by
  obtain ⟨gap, body, heq, hg, hend, hrest⟩ := exists_of_keyword? h
  obtain rfl := gap_eq_nil heq hg
  exact ⟨body, heq, hend, hrest⟩

/-- What a clause is read as tells which of the three keywords it starts with. -/
theorem clause?_cases {text : List Char} {clause : Clause} (h : clause? (trim text) = some clause) :
    ∃ rest, endsWord rest = true ∧
      ((trim text = principalWord ++ rest ∧
          ∃ c, principalConstraint? (trim rest) = some c ∧ clause = .principal c) ∨
        (trim text = actionWord ++ rest ∧
          ∃ c, actionConstraint? (trim rest) = some c ∧ clause = .action c) ∨
        (trim text = resourceWord ++ rest ∧ clause = .resource)) := by
  rw [clause?] at h
  split at h
  · rename_i target hkey
    obtain ⟨rest, heq, hend, rfl⟩ := exists_of_keyword?_trim hkey
    obtain ⟨c, hc, rfl⟩ := Option.map_eq_some_iff.mp h
    exact ⟨rest, hend, .inl ⟨heq, c, hc, rfl⟩⟩
  · split at h
    · rename_i target hkey
      obtain ⟨rest, heq, hend, rfl⟩ := exists_of_keyword?_trim hkey
      obtain ⟨c, hc, rfl⟩ := Option.map_eq_some_iff.mp h
      exact ⟨rest, hend, .inr (.inl ⟨heq, c, hc, rfl⟩)⟩
    · obtain ⟨target, hkey, rfl⟩ := Option.map_eq_some_iff.mp h
      obtain ⟨rest, heq, hend, -⟩ := exists_of_keyword?_trim hkey
      exact ⟨rest, hend, .inr (.inr ⟨heq, rfl⟩)⟩

/-- What a trimmed clause text in the notation is read as. -/
theorem clause?_of_trim {text written : List Char} {clause : Clause} (heq : trim text = written)
    (h : ClauseText clause written) : clause? (trim text) = some clause := by
  have hread := clause?_of_clauseText h
  rwa [← heq, trim_trim] at hread

theorem clause?_resource {rest : List Char} (hend : endsWord rest = true) :
    clause? (resourceWord ++ rest) = some .resource := by
  have hprincipal : keyword? principalWord (resourceWord ++ rest) = none := rfl
  have haction : keyword? actionWord (resourceWord ++ rest) = none := rfl
  rw [clause?, hprincipal, haction, keyword?_word isWord_resource hend]
  rfl

/-- **Clauses are recognized exactly as the notation has them.** A trimmed text is a clause about
the principal, the action or the resource when it is that keyword, as a word of its own, with what
the notation puts behind it, and then it means what the notation says. A reference is read wherever
the notation has one and nowhere else, and the names of a list are those listed in it. -/
theorem clauses_recognized (text : List Char) :
    (∀ c, clause? (trim text) = some (.principal c) ↔
      ∃ rest, trim text = principalWord ++ rest ∧ PrincipalText c rest) ∧
    (∀ c, clause? (trim text) = some (.action c) ↔
      ∃ rest, trim text = actionWord ++ rest ∧ ActionText c rest) ∧
    (clause? (trim text) = some .resource ↔
      ∃ rest, trim text = resourceWord ++ rest ∧ endsWord rest = true) ∧
    (∀ id, entityId? text = some id ↔ EntityText id text) ∧
    ∀ (ids : List (List Char)) (name : String),
      (NameSet.ofList (ids.map String.ofList)).contains name = true ↔
        name.toList ∈ ids := by
  refine ⟨fun c => ⟨fun h => ?_, ?_⟩, fun c => ⟨fun h => ?_, ?_⟩, ⟨fun h => ?_, ?_⟩,
    fun id => entityId?_eq_some_iff, fun ids name => ?_⟩
  · obtain ⟨rest, hend, ⟨heq, d, hd, hc⟩ | ⟨-, _, -, hc⟩ | ⟨-, hc⟩⟩ := clause?_cases h
    · cases hc
      exact ⟨rest, heq, (principalConstraint?_eq_some_iff hend).mp hd⟩
    · cases hc
    · cases hc
  · rintro ⟨rest, heq, hc⟩
    exact clause?_of_trim heq (@ClauseText.principal [] c rest rfl hc)
  · obtain ⟨rest, hend, ⟨-, _, -, hc⟩ | ⟨heq, d, hd, hc⟩ | ⟨-, hc⟩⟩ := clause?_cases h
    · cases hc
    · cases hc
      exact ⟨rest, heq, (actionConstraint?_eq_some_iff hend).mp hd⟩
    · cases hc
  · rintro ⟨rest, heq, hc⟩
    exact clause?_of_trim heq (@ClauseText.action [] c rest rfl hc)
  · obtain ⟨rest, hend, ⟨-, _, -, hc⟩ | ⟨-, _, -, hc⟩ | ⟨heq, -⟩⟩ := clause?_cases h
    · cases hc
    · cases hc
    · exact ⟨rest, heq, hend⟩
  · rintro ⟨rest, heq, hend⟩
    rw [heq, clause?_resource hend]
  · rw [NameSet.contains_eq_true_iff, NameSet.mem_toList_ofList, List.mem_map]
    constructor
    · rintro ⟨id, hid, rfl⟩
      rwa [String.toList_ofList]
    · intro h
      exact ⟨name.toList, h, String.ofList_toList⟩

/-- A list may hold nothing between two commas, and blanks may stand around every `::`. -/
example : clause? "action in[, NS :: A_1::\"a\\nb\" ,,]".toList =
    some (.action (.oneOf (NameSet.ofList ["a\nb"]))) := by decide +kernel

end Portcullis.Policy
