import Portcullis.Proofs.Policy.Notation

/-! Readers understand the notation.

Every form of `Notation` is read back to what it means: an entity reference to its id
(`entityId?_of_entityText`), a clause to its constraint (`clause?_of_clauseText`), the
pieces of a scope to its clauses, and a delimited statement to a draft of its rule
(`close_of_scope`). -/
namespace Portcullis.Policy
open Text

/-! ### Paths and entities -/

theorem segments_cons {c : Char} (h : c ≠ ':') (text : List Char) :
    segments (c :: text) = consFirst c (segments text) := by
  rw [segments]
  intro rest hc
  exact absurd hc h

theorem segments_colons {text : List Char} (h : ':' ∉ text) (rest : List Char) :
    segments (text ++ ':' :: ':' :: rest) = text :: segments rest := by
  induction text with
  | nil => rfl
  | cons c text ih =>
    rw [List.mem_cons, not_or] at h
    rw [List.cons_append, segments_cons (Ne.symm h.1), ih h.2]
    rfl

theorem segments_end {text : List Char} (h : ':' ∉ text) : segments text = [text] := by
  induction text with
  | nil => rfl
  | cons c text ih =>
    rw [List.mem_cons, not_or] at h
    rw [segments_cons (Ne.symm h.1), ih h.2]
    rfl

namespace IsWord

theorem trimStart_append {word : List Char} (h : IsWord word) (rest : List Char) :
    trimStart (word ++ rest) = word ++ rest := by
  cases word with
  | nil => exact absurd rfl h.visible
  | cons c word =>
    exact trimStart_cons_of_not_blank (isBlank_of_isWordChar (h.spelled c (List.mem_cons_self ..))) _

theorem trimEnd {word : List Char} (h : ∀ c ∈ word, isWordChar c = true) :
    trimEnd word = word := by
  induction word with
  | nil => rfl
  | cons c rest ih =>
    have hc := isBlank_of_isWordChar (h c (List.mem_cons_self ..))
    rw [trimEnd_cons_of_not_blank hc, ih fun d hd => h d (List.mem_cons_of_mem _ hd)]

theorem trim {word : List Char} (h : IsWord word) : trim word = word := by
  have hfront := h.trimStart_append []
  rw [List.append_nil] at hfront
  rw [Text.trim, hfront, IsWord.trimEnd h.spelled]

end IsWord

namespace SegmentText

theorem isSegment {segment : List Char} (h : SegmentText segment) : isSegment segment = true := by
  obtain ⟨hb, hw, ha⟩ := h
  rw [Policy.isSegment, trim_append_left hb, trim_append_right ha, hw.trim]
  simpa using ⟨hw.visible, hw.spelled⟩

theorem no_colon {segment : List Char} (h : SegmentText segment) : ':' ∉ segment := by
  obtain ⟨hb, hw, ha⟩ := h
  have hcolon : isBlank ':' = false := by decide
  simp only [List.mem_append, not_or]
  refine ⟨not_mem_of_allBlank hb hcolon, fun hc => ?_, not_mem_of_allBlank ha hcolon⟩
  exact absurd (hw.spelled ':' hc) (by decide)

/-- Without the blanks in front it is a segment still, and starts with a letter of its word. -/
theorem trimStart {segment : List Char} (h : SegmentText segment) :
    SegmentText (trimStart segment) ∧
      ∃ c rest, trimStart segment = c :: rest ∧ isWordChar c = true := by
  obtain @⟨before, word, after, hb, hw, ha⟩ := h
  rw [trimStart_append_of_allBlank hb, hw.trimStart_append]
  refine ⟨@SegmentText.mk [] word after rfl hw ha, ?_⟩
  cases word with
  | nil => exact absurd rfl hw.visible
  | cons c word => exact ⟨c, word ++ after, rfl, hw.spelled c (List.mem_cons_self ..)⟩

end SegmentText

namespace PathText

/-- A path is segments joined by `::`, with `::` at the end. -/
theorem segments {path : List Char} (h : PathText path) :
    ∃ joined, path = joined ++ [':', ':'] ∧ (segments joined).all isSegment = true := by
  induction h with
  | @last segment hs =>
    refine ⟨segment, rfl, ?_⟩
    rw [segments_end hs.no_colon]
    simp [hs.isSegment]
  | @more segment rest hs _ ih =>
    obtain ⟨joined, rfl, hall⟩ := ih
    refine ⟨segment ++ ':' :: ':' :: joined, by simp, ?_⟩
    rw [segments_colons hs.no_colon, List.all_cons, hs.isSegment, hall]
    rfl

theorem isPath {path gap : List Char} (h : PathText path) (hg : allBlank gap = true) :
    isPath (path ++ gap) = true := by
  obtain ⟨joined, rfl, hall⟩ := h.segments
  have hend : trimEnd (joined ++ [':', ':']) = joined ++ [':', ':'] :=
    trimEnd_append_of_ne_nil (by decide) joined
  rw [Policy.isPath, trimEnd_append_of_allBlank hg, hend, before?_eq_some_iff.mpr rfl]
  exact hall

/-- Without the blanks in front it is a path still, and starts with a letter of a word. -/
theorem trimStart {path : List Char} (h : PathText path) :
    PathText (trimStart path) ∧ ∃ c rest, trimStart path = c :: rest ∧ isWordChar c = true := by
  have hfront : ∀ {segment : List Char}, SegmentText segment → ∀ rest,
      Text.trimStart (segment ++ rest) = Text.trimStart segment ++ rest := by
    intro segment hs rest
    obtain ⟨_, c, tail, htrim, _⟩ := hs.trimStart
    exact trimStart_append_of_ne_nil (by rw [htrim]; exact List.cons_ne_nil _ _) rest
  cases h with
  | last hs =>
    obtain ⟨hs', c, tail, htrim, hc⟩ := hs.trimStart
    rw [hfront hs]
    exact ⟨.last hs', c, _, by rw [htrim]; rfl, hc⟩
  | more hs hr =>
    obtain ⟨hs', c, tail, htrim, hc⟩ := hs.trimStart
    rw [hfront hs]
    exact ⟨.more hs' hr, c, _, by rw [htrim]; rfl, hc⟩

theorem no_quote {path gap : List Char} (h : PathText path) (hg : allBlank gap = true) :
    ∀ c ∈ path ++ gap, decide (c ≠ '"') = true := by
  intro c hc
  rw [decide_eq_true_eq]
  rcases List.mem_append.mp hc with hc | hc
  · exact (h.plain c hc).ne (by decide)
  · exact (isPlain_of_isBlank (isBlank_of_mem hg hc)).ne (by decide)

end PathText

theorem entityId?_trim (text : List Char) : entityId? (trim text) = entityId? text := by
  rw [entityId?, trim_trim, ← entityId?]

theorem entityId?_trimEnd (text : List Char) : entityId? (trimEnd text) = entityId? text := by
  rw [← entityId?_trim, trim_trimEnd, entityId?_trim]

namespace EntityText

/-- Trimmed, a reference is its path without the blanks in front, up to the closing quote. -/
theorem trim {id text : List Char} (h : EntityText id text) :
    ∃ path gap body, trim text = (path ++ gap) ++ '"' :: (body ++ ['"']) ∧ PathText path ∧
      allBlank gap = true ∧ Spells id body ∧ ∃ c rest, path = c :: rest ∧ isWordChar c = true := by
  obtain @⟨path, gap, body, after, hp, hg, hs, ha⟩ := h
  obtain ⟨hp', c, rest, hhead, hc⟩ := hp.trimStart
  have hne : trimStart path ≠ [] := by
    rw [hhead]
    exact List.cons_ne_nil _ _
  have hquote : isBlank '"' = false := by decide
  refine ⟨trimStart path, gap, body, ?_, hp', hg, hs, c, rest, hhead, hc⟩
  rw [Text.trim, trimStart_append_of_ne_nil hne, ← List.append_assoc, trimEnd_append_cons hquote,
    trimEnd_append_cons hquote, trimEnd_eq_nil_iff.mpr ha]

theorem visible {id text : List Char} (h : EntityText id text) : allBlank text = false := by
  obtain ⟨_, _, _, _⟩ := h
  have hquote : isBlank '"' = false := by decide
  simp [hquote]

end EntityText

/-- **An entity reference is read as the id it is made with.** -/
theorem entityId?_of_entityText {id text : List Char} (h : EntityText id text) :
    entityId? text = some id := by
  obtain ⟨path, gap, body, htrim, hp, hg, hs, _⟩ := h.trim
  have hquotes := hp.no_quote hg
  have hpath : isPath (path ++ gap) = true := hp.isPath hg
  have hread : literal? ('"' :: (body ++ ['"'])) = some (id, []) := literalBody?_of_spells hs []
  simp only [entityId?, htrim, List.takeWhile_append_of_pos hquotes,
    List.dropWhile_append_of_pos hquotes]
  simp [hpath, hread]

/-! ### Items between commas -/

theorem pieces_end {text : List Char} (h : Sealed false text) :
    pieces text = if allBlank text then [] else [trim text] := by
  rw [pieces, splitFrom_end h]
  cases hb : allBlank text
  · have hne : trim text ≠ [] := fun ht => by rw [trim_eq_nil_iff.mp ht] at hb; cases hb
    simp [hne]
  · simp [trim_eq_nil_iff.mpr hb]

theorem pieces_comma {text : List Char} (h : Sealed false text) (rest : List Char) :
    pieces (text ++ ',' :: rest) = pieces text ++ pieces rest := by
  rw [pieces, splitFrom_comma h, pieces, splitFrom_end h, pieces, ← List.filter_append]
  rfl

/-- **Items are read between commas, each on its own**: if every item is sealed, visible
and read as what it means, the pieces of separated items mean those items. -/
theorem mapM_pieces {α : Type} {Item : α → List Char → Prop} {read : List Char → Option α}
    (hsealed : ∀ a text, Item a text → Sealed false text)
    (hvisible : ∀ a text, Item a text → allBlank text = false)
    (hread : ∀ a text, Item a text → read (trim text) = some a) {as : List α} {text : List Char}
    (h : Separated Item as text) : (pieces text).mapM read = some as := by
  induction h with
  | blank hg =>
    rw [pieces_end (.blank hg), hg]
    rfl
  | @item a text hi =>
    rw [pieces_end (hsealed a text hi), hvisible a text hi]
    simp [hread a text hi]
  | skip hg _ ih =>
    rw [pieces_comma (.blank hg), pieces_end (.blank hg), hg]
    exact ih
  | @more a as text rest hi _ ih =>
    rw [pieces_comma (hsealed a text hi), pieces_end (hsealed a text hi), hvisible a text hi]
    simp [hread a text hi, ih]

/-! ### Clauses -/

theorem endsWord_trimEnd {text : List Char} (h : endsWord text = true) :
    endsWord (trimEnd text) = true := by
  cases text with
  | nil => rfl
  | cons c rest =>
    by_cases hr : trimEnd (c :: rest) = []
    · rw [hr]
      rfl
    · cases hc : isBlank c
      · rw [trimEnd_cons_of_not_blank hc]
        exact h
      · have hrest : trimEnd rest ≠ [] := by
          intro hnil
          apply hr
          rw [trimEnd_eq_nil_iff, allBlank_cons, hc, trimEnd_eq_nil_iff.mp hnil]
          rfl
        rw [trimEnd_cons_of_ne_nil hrest]
        exact h

/-- A keyword ends where a blank follows it. -/
theorem endsWord_gap {gap : List Char} (h : allBlank gap = true) {rest : List Char}
    (hr : gap ≠ [] ∨ endsWord rest = true) : endsWord (gap ++ rest) = true := by
  cases gap with
  | nil => exact hr.resolve_left (fun hne => hne rfl)
  | cons c gap =>
    rw [allBlank_cons, Bool.and_eq_true] at h
    simp [endsWord, h.1]

theorem keyword?_word {word : List Char} (hw : IsWord word) {rest : List Char}
    (h : endsWord rest = true) : keyword? word (word ++ rest) = some (trim rest) := by
  rw [keyword?, hw.trimStart_append, after?_append]
  simp [h]

theorem trim_clause {gap word : List Char} (hg : allBlank gap = true) (hw : IsWord word)
    (rest : List Char) : trim (gap ++ (word ++ rest)) = word ++ trimEnd rest := by
  rw [trim_append_left hg, trim, hw.trimStart_append,
    trimEnd_append_of_trimEnd (IsWord.trimEnd hw.spelled)]

/-- What follows `==`, with the blanks before it gone. -/
theorem trim_equals {gap : List Char} (hg : allBlank gap = true) (text : List Char) :
    trim (gap ++ '=' :: '=' :: text) = '=' :: '=' :: trimEnd text := by
  have heq : isBlank '=' = false := by decide
  rw [trim_append_left hg, trim_cons_of_not_blank heq, trimEnd_cons_of_not_blank heq]

theorem keyword?_in {gap : List Char} (hg : allBlank gap = true) {text : List Char}
    (h : endsWord text = true) : keyword? inWord (trim (gap ++ (inWord ++ text))) = some (trim text) := by
  rw [trim_clause hg isWord_in, keyword?_word isWord_in (endsWord_trimEnd h), trim_trimEnd]

theorem PrincipalText.endsWord {c : PrincipalConstraint} {text : List Char}
    (h : PrincipalText c text) : endsWord text = true := by
  cases h with
  | unconstrained hg =>
    have := endsWord_gap hg (.inr (rfl : Policy.endsWord [] = true))
    rwa [List.append_nil] at this
  | exact hg _ => exact endsWord_gap hg (.inr rfl)
  | category hg hne _ _ => exact endsWord_gap hg (.inl hne)

theorem ActionText.endsWord {c : ActionConstraint} {text : List Char}
    (h : ActionText c text) : endsWord text = true := by
  cases h with
  | unconstrained hg =>
    have := endsWord_gap hg (.inr (rfl : Policy.endsWord [] = true))
    rwa [List.append_nil] at this
  | single hg _ => exact endsWord_gap hg (.inr rfl)
  | singleIn hg hne _ _ => exact endsWord_gap hg (.inl hne)
  | oneOf hg hne _ _ _ => exact endsWord_gap hg (.inl hne)

theorem principalConstraint?_of_text {c : PrincipalConstraint} {text : List Char}
    (h : PrincipalText c text) : principalConstraint? (trim text) = some c := by
  cases h with
  | unconstrained hg =>
    rw [trim_eq_nil_iff.mpr hg]
    rfl
  | exact hg he =>
    rw [trim_equals hg, principalConstraint?, entityId?_trimEnd, entityId?_of_entityText he]
    rfl
  | @category gap id blank text hg _ he hb =>
    have hend : Policy.endsWord (blank :: text) = true := by simp [Policy.endsWord, hb]
    have hkey := keyword?_in hg hend
    rw [trim_clause hg isWord_in] at hkey ⊢
    show (keyword? inWord (inWord ++ trimEnd (blank :: text))).bind _ = _
    rw [hkey, Option.bind_some, entityId?_trim, entityId?_of_entityText he]
    rfl

/-- A bracketed list is read as the ids of its items. -/
theorem idList?_of_separated {ids : List (List Char)} {text : List Char}
    (h : Separated EntityText ids text) :
    idList? (text ++ [']']) = some (NameSet.ofList (ids.map String.ofList)) := by
  have hend : trimEnd (text ++ [']']) = text ++ [']'] := trimEnd_append_of_ne_nil (by decide) text
  have hids : (pieces text).mapM entityId? = some ids :=
    mapM_pieces (fun _ _ he => he.sealed) (fun _ _ he => he.visible)
      (fun _ _ he => (entityId?_trim _).trans (entityId?_of_entityText he)) h
  rw [idList?, hend, before?_eq_some_iff.mpr rfl, Option.bind_some, hids]
  rfl

theorem actionConstraint?_of_text {c : ActionConstraint} {text : List Char}
    (h : ActionText c text) : actionConstraint? (trim text) = some c := by
  cases h with
  | unconstrained hg =>
    rw [trim_eq_nil_iff.mpr hg]
    rfl
  | single hg he =>
    rw [trim_equals hg, actionConstraint?, entityId?_trimEnd, entityId?_of_entityText he]
    rfl
  | @singleIn gap id blank text hg _ he hb =>
    have hend : Policy.endsWord (blank :: text) = true := by simp [Policy.endsWord, hb]
    have hkey := keyword?_in hg hend
    rw [trim_clause hg isWord_in] at hkey ⊢
    show (keyword? inWord (inWord ++ trimEnd (blank :: text))).bind _ = _
    rw [hkey, Option.bind_some]
    have hid : entityId? (trim (blank :: text)) = some id :=
      (entityId?_trim _).trans (entityId?_of_entityText he)
    obtain ⟨path, _, _, htrim, _, _, _, c, rest, rfl, hc⟩ := he.trim
    split
    · -- A reference starts with a letter, so it is not taken for a list.
      rename_i inner hlist
      rw [htrim] at hlist
      injection hlist with hc' _
      rw [hc'] at hc
      exact absurd hc (by decide)
    · rw [hid]
      rfl
  | @oneOf gap before ids text after hg _ hb hs ha =>
    have hbracket : isBlank '[' = false := by decide
    have hclose : isBlank ']' = false := by decide
    have hend : Policy.endsWord (before ++ '[' :: (text ++ ']' :: after)) = true :=
      endsWord_gap hb (.inr rfl)
    have hkey := keyword?_in hg hend
    have hlist : trim (before ++ '[' :: (text ++ ']' :: after)) = '[' :: (text ++ [']']) := by
      rw [trim_append_left hb, trim_cons_of_not_blank hbracket, trimEnd_append_cons hclose,
        trimEnd_eq_nil_iff.mpr ha]
    rw [trim_clause hg isWord_in, hlist] at hkey
    rw [trim_clause hg isWord_in]
    show (keyword? inWord (inWord ++ trimEnd (before ++ '[' :: (text ++ ']' :: after)))).bind _ = _
    rw [hkey, Option.bind_some]
    show (idList? (text ++ [']'])).map ActionConstraint.oneOf = _
    rw [idList?_of_separated hs]
    rfl

theorem ClauseText.visible {c : Clause} {text : List Char} (h : ClauseText c text) :
    allBlank text = false := by
  have hp : allBlank principalWord = false := by decide
  have ha : allBlank actionWord = false := by decide
  have hr : allBlank resourceWord = false := by decide
  cases h with
  | principal _ _ => simp [hp]
  | action _ _ => simp [ha]
  | resource _ _ _ => simp [hr]

/-- **A clause is read as what it constrains.** -/
theorem clause?_of_clauseText {c : Clause} {text : List Char} (h : ClauseText c text) :
    clause? (trim text) = some c := by
  cases h with
  | @principal gap c text hg hc =>
    have hkey := keyword?_word isWord_principal (endsWord_trimEnd hc.endsWord)
    rw [trim_clause hg isWord_principal, clause?, hkey]
    show (principalConstraint? (trim (trimEnd text))).map Clause.principal = _
    rw [trim_trimEnd, principalConstraint?_of_text hc]
    rfl
  | @action gap c text hg hc =>
    have hkey := keyword?_word isWord_action (endsWord_trimEnd hc.endsWord)
    have hother : keyword? principalWord (actionWord ++ trimEnd text) = none := rfl
    rw [trim_clause hg isWord_action, clause?, hother, hkey]
    show (actionConstraint? (trim (trimEnd text))).map Clause.action = _
    rw [trim_trimEnd, actionConstraint?_of_text hc]
    rfl
  | @resource gap text hg hend _ =>
    have hkey := keyword?_word isWord_resource (endsWord_trimEnd hend)
    have hother : keyword? principalWord (resourceWord ++ trimEnd text) = none := rfl
    have hother' : keyword? actionWord (resourceWord ++ trimEnd text) = none := rfl
    rw [trim_clause hg isWord_resource, clause?, hother, hother', hkey]
    rfl

/-! ### Statements -/

theorem read_of_mapM {texts : List (List Char)} {clauses : List Clause}
    (h : texts.mapM clause? = some clauses) (c : Constraints) :
    c.read texts = .ok (clauses.foldl Constraints.add c) := by
  induction texts generalizing clauses c with
  | nil =>
    obtain rfl : clauses = [] := by simpa using h.symm
    rfl
  | cons text rest ih =>
    rw [List.mapM_cons] at h
    cases hc : clause? text with
    | none => simp [hc] at h
    | some clause =>
      cases hr : rest.mapM clause? with
      | none => simp [hc, hr] at h
      | some others =>
        obtain rfl : clauses = clause :: others := by simpa [hc, hr] using h.symm
        rw [Constraints.read, hc]
        exact ih hr (c.add clause)

/-- The pieces of a scope are its clauses. -/
theorem read_scope {clauses : List Clause} {scope : List Char}
    (h : Separated ClauseText clauses scope) :
    Constraints.none.read (pieces scope) = .ok (constraintsOf clauses) :=
  read_of_mapM (mapM_pieces (fun _ _ hc => hc.sealed) (fun _ _ hc => hc.visible)
    (fun _ _ hc => clause?_of_clauseText hc) h) .none

/-- **A delimited statement in the notation is accepted**, with its constraints. -/
theorem close_of_scope {clauses : List Clause} {scope trailer : List Char}
    {principal : PrincipalConstraint} {action : ActionConstraint}
    (h : Separated ClauseText clauses scope) (hc : Constrain clauses principal action)
    (ht : allBlank trailer = true) (o : Opening) :
    o.close scope false trailer = .accepted o principal action := by
  obtain ⟨hsaid, rfl, rfl⟩ := hc
  rw [Opening.close, if_neg (by decide), trim_eq_nil_iff.mpr ht, read_scope h]
  cases hcs : constraintsOf clauses with
  | mk p a =>
    cases p with
    | some p => rfl
    | none =>
      cases a with
      | some a => rfl
      | none => exact absurd hcs hsaid

end Portcullis.Policy
