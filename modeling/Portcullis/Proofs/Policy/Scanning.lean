import Portcullis.Proofs.Policy.Following

/-! What the scanners find, as facts about the text.

An opener is a word, blanks and a parenthesis, wherever it is found (`opens_iff`). A scope is
read one character after the other: `Nesting.through` is what a text leaves open, and a
scope goes on through a text in which no parenthesis meets an empty nesting
(`Nesting.GoesOn`). A trailer ends at the first semicolon. Each scanner finds in a longer
text what it found in the front of it. -/
namespace Portcullis.Policy
open Text

/-! ### Openers -/

theorem argument?_eq_some_iff {word text rest : List Char} :
    argument? word text = some rest ↔
      ∃ gap, allBlank gap = true ∧ text = word ++ (gap ++ '(' :: rest) := by
  constructor
  · intro h
    obtain ⟨middle, hm, hr⟩ := Option.bind_eq_some_iff.mp h
    obtain ⟨gap, hg, hgap⟩ := exists_front middle
    rw [after?_eq_some_iff.mp hr] at hgap
    exact ⟨gap, hg, by rw [after?_eq_some_iff.mp hm, hgap]; rfl⟩
  · rintro ⟨gap, hg, rfl⟩
    exact argument?_word hg word rest

theorem opener?_eq_some_iff {text rest : List Char} {effect : Effect} :
    opener? text = some (effect, rest) ↔
      ∃ gap, allBlank gap = true ∧ text = effect.word ++ (gap ++ '(' :: rest) := by
  constructor
  · intro h
    rw [opener?] at h
    split at h
    · rename_i after ha
      cases h
      exact argument?_eq_some_iff.mp ha
    · obtain ⟨after, ha, heq⟩ := Option.map_eq_some_iff.mp h
      cases heq
      exact argument?_eq_some_iff.mp ha
  · rintro ⟨gap, hg, rfl⟩
    exact opener?_word hg effect rest

/-- A line opens a statement when, behind blanks, it starts with the word of an effect and a
parenthesis. -/
theorem opens_iff {text rest : List Char} {effect : Effect} :
    opener? (trimStart text) = some (effect, rest) ↔
      ∃ lead gap, allBlank lead = true ∧ allBlank gap = true ∧
        text = lead ++ (effect.word ++ (gap ++ '(' :: rest)) := by
  constructor
  · intro h
    obtain ⟨gap, hg, htext⟩ := opener?_eq_some_iff.mp h
    obtain ⟨lead, hl, hlead⟩ := exists_front text
    exact ⟨lead, gap, hl, hg, by rw [← htext]; exact hlead⟩
  · rintro ⟨lead, gap, hl, hg, rfl⟩
    rw [trimStart_append_of_allBlank hl, (isWord_effect effect).trimStart_append]
    exact opener?_word hg effect rest

theorem opens_suffix {text rest : List Char} {effect : Effect}
    (h : opener? (trimStart text) = some (effect, rest)) : rest <:+ text := by
  obtain ⟨lead, gap, -, -, rfl⟩ := opens_iff.mp h
  exact ⟨lead ++ (effect.word ++ (gap ++ ['('])), by simp⟩

theorem opens_append {text rest : List Char} {effect : Effect}
    (h : opener? (trimStart text) = some (effect, rest)) (more : List Char) :
    opener? (trimStart (text ++ more)) = some (effect, rest ++ more) := by
  obtain ⟨lead, gap, hl, hg, rfl⟩ := opens_iff.mp h
  exact opens_iff.mpr ⟨lead, gap, hl, hg, by simp⟩

/-- A text that opens nothing and goes on to an opener ends in front of its parenthesis. -/
theorem of_opens_append {text more rest : List Char} {effect : Effect}
    (h : opener? (trimStart (text ++ more)) = some (effect, rest))
    (hnone : opener? (trimStart text) = none) :
    ∃ lead gap tail, allBlank lead = true ∧ allBlank gap = true ∧
      text ++ tail = lead ++ (effect.word ++ gap) ∧ more = tail ++ '(' :: rest := by
  obtain ⟨lead, gap, hl, hg, htext⟩ := opens_iff.mp h
  have hsplit : text ++ more = (lead ++ (effect.word ++ gap)) ++ '(' :: rest := by
    rw [htext]
    simp
  rcases List.append_eq_append_iff.mp hsplit with ⟨tail, hfront, hmore⟩ | ⟨tail, hfront, hmore⟩
  · exact ⟨lead, gap, tail, hl, hg, hfront.symm, hmore⟩
  · cases tail with
    | nil => exact ⟨lead, gap, [], hl, hg, by simpa using hfront, by simpa using hmore.symm⟩
    | cons c tail =>
      -- The parenthesis stands in the text, which then opens a statement after all.
      obtain ⟨rfl, rfl⟩ := List.cons.inj hmore
      have hopens : opener? (trimStart text) = some (effect, tail) :=
        opens_iff.mpr ⟨lead, gap, hl, hg, by rw [hfront]; simp⟩
      rw [hnone] at hopens
      cases hopens

/-- A line that is `);` for its reader. -/
theorem exists_of_trim_closer {text : List Char} (h : trim text = [')', ';']) :
    ∃ front back, allBlank front = true ∧ allBlank back = true ∧
      text = front ++ ')' :: ';' :: back := by
  obtain ⟨front, back, hf, hb, htext⟩ := exists_gaps text
  rw [h] at htext
  exact ⟨front, back, hf, hb, by simpa using htext⟩

theorem closer_opens_nothing {text : List Char} (h : trim text = [')', ';']) :
    opener? (trimStart text) = none := by
  obtain ⟨front, back, hf, -, rfl⟩ := exists_of_trim_closer h
  rw [trimStart_append_of_allBlank hf, trimStart_cons_of_not_blank (by decide)]
  rfl

/-! ### Scopes -/

/-- What is open after one more character of a scope. No literal goes on behind the end of a
line. -/
def Nesting.step (n : Nesting) (c : Char) : Nesting :=
  if c = '\n' then {n with quoting := .outside}
  else match n.quoting with
    | .escaped => {n with quoting := .inside}
    | .inside =>
      {n with quoting := if c = '\\' then .escaped else if c = '"' then .outside else .inside}
    | .outside => n.after c

/-- What is open behind a text in a scope. -/
def Nesting.through (n : Nesting) (text : List Char) : Nesting := text.foldl Nesting.step n

/-- No parenthesis of the text closes the scope: in front of each something is open. -/
def Nesting.GoesOn (n : Nesting) (text : List Char) : Prop :=
  ∀ before after, text = before ++ ')' :: after → n.through before ≠ .none

namespace Nesting

@[simp] theorem through_nil (n : Nesting) : n.through [] = n := rfl

@[simp] theorem through_cons (n : Nesting) (c : Char) (text : List Char) :
    n.through (c :: text) = (n.step c).through text := rfl

@[simp] theorem through_append (n : Nesting) (a b : List Char) :
    n.through (a ++ b) = (n.through a).through b :=
  List.foldl_append

theorem goesOn_nil (n : Nesting) : n.GoesOn [] := by
  intro before after h
  simp at h

theorem goesOn_cons {n : Nesting} {c : Char} {text : List Char} :
    n.GoesOn (c :: text) ↔ ¬(c = ')' ∧ n = .none) ∧ (n.step c).GoesOn text := by
  constructor
  · intro h
    refine ⟨?_, fun before after htext => h (c :: before) after (by rw [htext]; rfl)⟩
    rintro ⟨rfl, rfl⟩
    exact h [] text rfl rfl
  · rintro ⟨hc, h⟩ before after htext
    cases before with
    | nil =>
      obtain ⟨rfl, rfl⟩ := List.cons.inj htext
      exact fun hn => hc ⟨rfl, hn⟩
    | cons d before =>
      obtain ⟨rfl, rfl⟩ := List.cons.inj htext
      exact h before after rfl

theorem goesOn_append {n : Nesting} {a b : List Char} :
    n.GoesOn (a ++ b) ↔ n.GoesOn a ∧ (n.through a).GoesOn b := by
  induction a generalizing n with
  | nil => exact ⟨fun h => ⟨goesOn_nil n, h⟩, fun h => h.2⟩
  | cons c a ih => rw [List.cons_append, goesOn_cons, ih, goesOn_cons, through_cons, and_assoc]

theorem goesOn_of_notMem {text : List Char} (h : ')' ∉ text) (n : Nesting) : n.GoesOn text := by
  rintro before after rfl
  exact absurd (List.mem_append_right before List.mem_cons_self) h

/-- The end of a line closes an open literal and nothing else. -/
theorem through_newline (n : Nesting) (text : List Char) :
    n.through (text ++ ['\n']) = {n.through text with quoting := .outside} := by
  rw [through_append]
  rfl

end Nesting

theorem scanScope_cons {c : Char} (hc : c ≠ '\n') (n : Nesting) (rest : List Char) :
    scanScope n (c :: rest) =
      if c = ')' ∧ n = .none then .closed [] rest else (scanScope (n.step c) rest).cons c := by
  obtain ⟨quoting, brackets, parens⟩ := n
  cases quoting <;> simp [scanScope, Nesting.step, Nesting.none, hc]

/-- What a scope scan says about the line on which the scope ends. -/
theorem goesOn_of_closed {text body rest : List Char} {n : Nesting} (hline : '\n' ∉ text)
    (h : scanScope n text = .closed body rest) :
    text = body ++ ')' :: rest ∧ n.through body = .none ∧ n.GoesOn body := by
  refine ⟨scanScope_closed h, ?_⟩
  induction text generalizing n body with
  | nil => cases h
  | cons c text ih =>
    rw [List.mem_cons, not_or] at hline
    rw [scanScope_cons (Ne.symm hline.1)] at h
    split at h
    · rename_i hc
      cases h
      exact ⟨hc.2, Nesting.goesOn_nil n⟩
    · rename_i hc
      cases hs : scanScope (n.step c) text with
      | running body m => rw [hs] at h; cases h
      | closed body' rest' =>
        rw [hs] at h
        cases h
        obtain ⟨hthrough, hgoes⟩ := ih hline.2 hs
        exact ⟨hthrough, Nesting.goesOn_cons.mpr ⟨hc, hgoes⟩⟩

/-- More text changes nothing about what was read of a scope. -/
theorem scanScope_append (n : Nesting) (text more : List Char) :
    scanScope n (text ++ more) =
      match scanScope n text with
      | .closed body rest => .closed body (rest ++ more)
      | .running body left => (scanScope left more).behind body := by
  induction text generalizing n with
  | nil => rfl
  | cons c text ih =>
    have hcons : ∀ m : Nesting, (scanScope m (text ++ more)).cons c =
        match (scanScope m text).cons c with
        | .closed body rest => .closed body (rest ++ more)
        | .running body left => (scanScope left more).behind body := by
      intro m
      rw [ih]
      cases scanScope m text <;> rfl
    simp only [List.cons_append, scanScope]
    split
    · exact hcons _
    · exact hcons _
    · split
      · rfl
      · exact hcons _

theorem behind_running (text body : List Char) (left : Nesting) :
    (ScopeScan.running body left).behind text = .running (text ++ body) left := by
  induction text with
  | nil => rfl
  | cons c text ih => rw [behind_cons, ih]; rfl

/-- A scope that is open behind a text ends in what is added to it. -/
theorem scanScope_closed_behind {n left : Nesting} {text more body rest back : List Char}
    (h : scanScope n text = .running more left)
    (hc : scanScope n (text ++ back) = .closed body rest) :
    ∃ inner, back = inner ++ ')' :: rest := by
  rw [scanScope_append, h] at hc
  cases hb : scanScope left back with
  | closed inner after =>
    simp only [hb, behind_closed, ScopeScan.closed.injEq] at hc
    exact ⟨inner, by rw [scanScope_closed hb, hc.2]⟩
  | running inner m =>
    simp only [hb, behind_running] at hc
    cases hc

/-- Without a closing parenthesis no scope ends. -/
theorem scanScope_of_notMem {text : List Char} (h : ')' ∉ text) (n : Nesting) :
    ∃ more left, scanScope n text = .running more left := by
  cases hs : scanScope n text with
  | running more left => exact ⟨more, left, rfl⟩
  | closed body rest =>
    rw [scanScope_closed hs] at h
    exact absurd (List.mem_append_right body List.mem_cons_self) h

/-- Blanks close nothing: what is open in front of them keeps a scope open behind them. -/
theorem scanScope_gap {gap : List Char} (hg : allBlank gap = true) {n : Nesting}
    (hn : n ≠ .none) :
    ∃ m : Nesting, m ≠ .none ∧
      ∀ rest, scanScope n (gap ++ rest) = (scanScope m rest).behind gap := by
  induction gap generalizing n with
  | nil => exact ⟨n, hn, fun rest => rfl⟩
  | cons c gap ih =>
    rw [allBlank_cons, Bool.and_eq_true] at hg
    have hplain := isPlain_of_isBlank hg.1
    have hslash : c ≠ '\\' := by
      rintro rfl
      exact absurd hg.1 (by decide)
    obtain ⟨quoting, brackets, parens⟩ := n
    have hstep : ∃ k : Nesting, k ≠ .none ∧
        ∀ rest, scanScope ⟨quoting, brackets, parens⟩ (c :: rest) = (scanScope k rest).cons c := by
      cases quoting with
      | escaped => exact ⟨⟨.inside, brackets, parens⟩, by simp [Nesting.none], fun rest => rfl⟩
      | inside =>
        refine ⟨⟨.inside, brackets, parens⟩, by simp [Nesting.none], fun rest => ?_⟩
        simp [scanScope, hslash, hplain.ne (d := '"') (by decide)]
      | outside =>
        refine ⟨⟨.outside, brackets, parens⟩, hn, fun rest => ?_⟩
        simp [scanScope, hplain.ne (d := ')') (by decide), Nesting.after_plain hplain]
    obtain ⟨k, hk, hstep⟩ := hstep
    obtain ⟨m, hm, hscan⟩ := ih hg.2 hk
    refine ⟨m, hm, fun rest => ?_⟩
    rw [List.cons_append, hstep, hscan, behind_cons]

/-! ### Semicolons -/

theorem atSemicolon?_eq_some_iff {text before rest : List Char} :
    atSemicolon? text = some (before, rest) ↔ text = before ++ ';' :: rest ∧ ';' ∉ before := by
  constructor
  · intro h
    induction text generalizing before with
    | nil => cases h
    | cons c text ih =>
      rw [atSemicolon?] at h
      split at h
      · rename_i hc
        cases h
        exact ⟨by rw [hc]; rfl, List.not_mem_nil⟩
      · rename_i hc
        obtain ⟨⟨b, a⟩, hba, heq⟩ := Option.map_eq_some_iff.mp h
        cases heq
        obtain ⟨rfl, hmem⟩ := ih hba
        exact ⟨rfl, by simpa using ⟨Ne.symm hc, hmem⟩⟩
  · rintro ⟨rfl, h⟩
    exact atSemicolon?_append h rest

theorem atSemicolon?_eq_none_iff {text : List Char} : atSemicolon? text = none ↔ ';' ∉ text := by
  induction text with
  | nil => simp [atSemicolon?]
  | cons c text ih =>
    rw [atSemicolon?, List.mem_cons, not_or]
    split
    · rename_i hc
      simp [hc]
    · rename_i hc
      rw [Option.map_eq_none_iff, ih]
      exact ⟨fun h => ⟨Ne.symm hc, h⟩, fun h => h.2⟩

/-! ### Comments -/

theorem withoutCommentFrom_front (quoting : Quoting) (text : List Char) :
    withoutCommentFrom quoting text <+: text := by
  fun_induction withoutCommentFrom quoting text with
  | case1 => exact List.nil_prefix
  | case2 c rest ih => exact List.cons_prefix_cons.mpr ⟨rfl, ih⟩
  | case3 c rest ih => exact List.cons_prefix_cons.mpr ⟨rfl, ih⟩
  | case4 rest => exact List.nil_prefix
  | case5 c rest _ ih => exact List.cons_prefix_cons.mpr ⟨rfl, ih⟩

/-- **More of a line brings more of its text**, unless its first slash makes a comment of the
slash in front of it. -/
theorem withoutCommentFrom_append (quoting : Quoting) (text more : List Char) :
    (∃ back, back <+: more ∧
      withoutCommentFrom quoting (text ++ more) = withoutCommentFrom quoting text ++ back) ∨
    (more.head? = some '/' ∧
      withoutCommentFrom quoting text = withoutCommentFrom quoting (text ++ more) ++ ['/']) := by
  have hcons : ∀ {q : Quoting} {c : Char} {rest : List Char},
      ((∃ back, back <+: more ∧
        withoutCommentFrom q (rest ++ more) = withoutCommentFrom q rest ++ back) ∨
      (more.head? = some '/' ∧
        withoutCommentFrom q rest = withoutCommentFrom q (rest ++ more) ++ ['/'])) →
      (∃ back, back <+: more ∧
        c :: withoutCommentFrom q (rest ++ more) = c :: withoutCommentFrom q rest ++ back) ∨
      (more.head? = some '/' ∧
        c :: withoutCommentFrom q rest = c :: withoutCommentFrom q (rest ++ more) ++ ['/']) := by
    rintro q c rest (⟨back, hback, heq⟩ | ⟨hhead, heq⟩)
    · exact .inl ⟨back, hback, by rw [heq, List.cons_append]⟩
    · exact .inr ⟨hhead, by rw [List.cons_append, ← heq]⟩
  fun_induction withoutCommentFrom quoting text with
  | case1 quoting => exact .inl ⟨_, withoutCommentFrom_front quoting more, rfl⟩
  | case2 c rest ih => exact hcons ih
  | case3 c rest ih => exact hcons ih
  | case4 rest => exact .inl ⟨[], List.nil_prefix, rfl⟩
  | case5 c rest hslash ih =>
    by_cases hcut : c = '/' ∧ rest = [] ∧ more.head? = some '/'
    · obtain ⟨rfl, rfl, hhead⟩ := hcut
      refine .inr ⟨hhead, ?_⟩
      cases more with
      | nil => cases hhead
      | cons d more =>
        obtain rfl : d = '/' := by simpa using hhead
        rfl
    · have hopen : ∀ after, c = '/' → rest ++ more = '/' :: after → False := by
        rintro after rfl hafter
        cases rest with
        | nil => exact hcut ⟨rfl, rfl, by simpa using congrArg List.head? hafter⟩
        | cons d rest =>
          obtain ⟨rfl, rfl⟩ := List.cons.inj hafter
          exact hslash rest rfl rfl
      rw [List.cons_append, withoutCommentFrom.eq_5 _ _ hopen]
      exact hcons ih

end Portcullis.Policy
