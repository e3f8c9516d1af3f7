import Portcullis.Text.Lines

/-! Where a text may be cut between two lines.

A text that is empty or ends with a line feed can be followed by any other text: the
lines of both are those of the one and then those of the other (`lines_append`). And a
line is read as it was written when a line end or the end of the text follows
(`lines_line`), unless it ends in a carriage return, which would belong to the line end.
A text that is cut inside a line keeps the lines before it and a front part of that line,
or the line with the carriage return that belonged to its end (`lines_cut`). -/
namespace Portcullis.Text

/-- Nothing, or text whose last line is ended. -/
def EndsLine (text : List Char) : Prop := text = [] ∨ ∃ before, text = before ++ ['\n']

/-- Nothing, or text that starts with a line end. -/
def StartsBreak (text : List Char) : Prop :=
  text = [] ∨ (∃ rest, text = '\n' :: rest) ∨ ∃ rest, text = '\r' :: '\n' :: rest

/-- What follows a line end that a text starts with. -/
def afterBreak : List Char → List Char
  | '\n' :: rest => rest
  | '\r' :: '\n' :: rest => rest
  | text => text

/-- The first line of a text. -/
def firstLine (text : List Char) : List Char := (lines text).headD []

/-- The lines below the first one. -/
def linesBelow (text : List Char) : List (List Char) := (lines text).tail

/-- Text that is one line, with nothing at its end that a line end would take. -/
structure OneLine (text : List Char) : Prop where
  visible : text ≠ []
  unbroken : '\n' ∉ text
  last : text.getLast? ≠ some '\r'

theorem endsLine_newline (text : String) : EndsLine (text ++ "\n").toList :=
  .inr ⟨text.toList, String.toList_append⟩

@[simp] theorem lines_return_newline (rest : List Char) :
    lines ('\r' :: '\n' :: rest) = [] :: lines rest := by
  rw [lines]

/-- A character that ends no line stands on the first line. -/
theorem lines_cons {c : Char} {rest : List Char} (hc : c ≠ '\n')
    (hr : c = '\r' → rest.head? ≠ some '\n') :
    lines (c :: rest) =
      match lines rest with
      | [] => [[c]]
      | first :: others => (c :: first) :: others := by
  have hbreak : ∀ after, c = '\r' → rest = '\n' :: after → False := by
    rintro after hret rfl
    exact hr hret rfl
  refine (lines.eq_3 c rest hbreak).trans ((if_neg hc).trans ?_)
  cases lines rest with
  | nil => rfl
  | cons first others => rfl

theorem lines_cons_first {c : Char} {rest : List Char} (hc : c ≠ '\n')
    (hr : c = '\r' → rest.head? ≠ some '\n') :
    lines (c :: rest) = (c :: firstLine rest) :: linesBelow rest := by
  rw [lines_cons hc hr, firstLine, linesBelow]
  cases lines rest with
  | nil => rfl
  | cons first others => rfl

theorem lines_ne_nil {text : List Char} (h : text ≠ []) : lines text ≠ [] := by
  fun_cases lines text with
  | case1 => exact absurd rfl h
  | _ => exact List.cons_ne_nil _ _

/-- What follows a line feed starts on a line of its own. -/
theorem lines_append_newline (before after : List Char) :
    lines (before ++ '\n' :: after) = lines (before ++ ['\n']) ++ lines after := by
  induction before with
  | nil => simp
  | cons c rest ih =>
    by_cases hc : c = '\n'
    · subst hc
      simp only [List.cons_append, lines_newline, ih]
    · by_cases hr : c = '\r' ∧ (rest ++ ['\n']).head? = some '\n'
      · obtain ⟨rfl, hhead⟩ := hr
        cases rest with
        | nil => rfl
        | cons d rest =>
          have hd : d = '\n' := by simpa using hhead
          subst hd
          simpa using ih
      · -- The character goes on the first line of either side, and there is one.
        have hleft : c = '\r' → (rest ++ '\n' :: after).head? ≠ some '\n' := by
          intro hret hhead
          refine hr ⟨hret, ?_⟩
          cases rest with
          | nil => rfl
          | cons d rest => simpa using hhead
        have hright : c = '\r' → (rest ++ ['\n']).head? ≠ some '\n' :=
          fun hret hhead => hr ⟨hret, hhead⟩
        rw [List.cons_append, lines_cons hc hleft, List.cons_append, lines_cons hc hright, ih]
        cases hl : lines (rest ++ ['\n']) with
        | nil => exact absurd hl (lines_ne_nil (by simp))
        | cons first others => rfl

theorem lines_append {before : List Char} (h : EndsLine before) (after : List Char) :
    lines (before ++ after) = lines before ++ lines after := by
  rcases h with rfl | ⟨text, rfl⟩
  · rfl
  · rw [List.append_assoc, List.singleton_append, lines_append_newline]

/-! ### One line -/

theorem OneLine.of_cons {c d : Char} {text : List Char} (h : OneLine (c :: d :: text)) :
    OneLine (d :: text) where
  visible := List.cons_ne_nil _ _
  unbroken := fun hmem => h.unbroken (List.mem_cons_of_mem _ hmem)
  last := by simpa using h.last

/-- Text that is one line stands in front of the first line of what follows it. -/
theorem lines_first {text : List Char} (h : OneLine text) (after : List Char) :
    lines (text ++ after) = (text ++ firstLine after) :: linesBelow after := by
  induction text with
  | nil => exact absurd rfl h.visible
  | cons c text ih =>
    have hc : c ≠ '\n' := fun hc => h.unbroken (by rw [hc]; exact List.mem_cons_self ..)
    cases text with
    | nil =>
      have hr : c ≠ '\r' := fun hr => h.last (by rw [hr]; rfl)
      exact lines_cons_first hc fun hret => absurd hret hr
    | cons d text =>
      have hd : d ≠ '\n' := fun hd => h.unbroken (by rw [hd]; simp)
      have hhead : (d :: text ++ after).head? ≠ some '\n' := by simpa using hd
      rw [List.cons_append, lines_cons_first hc fun _ => hhead, firstLine, linesBelow,
        ih h.of_cons]
      rfl

/-- What stands in front of a line feed is a line, up to a carriage return. -/
theorem lines_ended {words : List Char} (h : '\n' ∉ words) (rest : List Char) :
    ∃ line, lines (words ++ '\n' :: rest) = line :: lines rest := by
  induction words with
  | nil => exact ⟨[], lines_newline rest⟩
  | cons c words ih =>
    rw [List.mem_cons, not_or] at h
    obtain ⟨line, hline⟩ := ih h.2
    by_cases hr : c = '\r' ∧ (words ++ '\n' :: rest).head? = some '\n'
    · obtain ⟨rfl, hhead⟩ := hr
      cases words with
      | nil => exact ⟨[], lines_return_newline rest⟩
      | cons d words =>
        obtain rfl : d = '\n' := by simpa using hhead
        exact absurd (List.mem_cons_self ..) h.2
    · have hcons := lines_cons_first (Ne.symm h.1) fun hret hhead => hr ⟨hret, hhead⟩
      refine ⟨c :: line, ?_⟩
      rw [List.cons_append, hcons, firstLine, linesBelow, hline]
      rfl

/-- A line that a line end follows is read as it is. -/
theorem lines_line {text : List Char} (h : OneLine text) {after : List Char}
    (ha : StartsBreak after) : lines (text ++ after) = text :: lines (afterBreak after) := by
  rw [lines_first h, firstLine, linesBelow]
  rcases ha with rfl | ⟨rest, rfl⟩ | ⟨rest, rfl⟩
  · rw [lines_nil, List.headD_nil, List.append_nil]
    rfl
  · rw [lines_newline, List.headD_cons, List.append_nil]
    rfl
  · rw [lines_return_newline, List.headD_cons, List.append_nil]
    rfl

/-- Lines that were put one below the other are read as they were. -/
theorem lines_unlines {texts : List (List Char)} (h : ∀ text ∈ texts, OneLine text) :
    lines (unlines texts) = texts := by
  induction texts with
  | nil => rfl
  | cons text rest ih =>
    have hrest := ih fun other hmem => h other (List.mem_cons_of_mem _ hmem)
    rw [unlines, lines_line (h text (List.mem_cons_self ..)) (.inr (.inl ⟨_, rfl⟩)), afterBreak,
      hrest]

/-! ### A cut inside a line -/

/-- No line holds a line feed. -/
theorem newline_notMem_of_mem_lines {text line : List Char} (h : line ∈ lines text) :
    '\n' ∉ line := by
  fun_induction lines text generalizing line with
  | case1 => cases h
  | case2 rest ih =>
    rcases List.mem_cons.mp h with rfl | h
    · exact List.not_mem_nil
    · exact ih h
  | case3 rest _ ih =>
    rcases List.mem_cons.mp h with rfl | h
    · exact List.not_mem_nil
    · exact ih h
  | case4 c rest _ hc hrest ih =>
    obtain rfl := List.mem_singleton.mp h
    simpa using Ne.symm hc
  | case5 c rest _ hc first others hrest ih =>
    rw [hrest] at ih
    rcases List.mem_cons.mp h with rfl | h
    · rw [List.mem_cons, not_or]
      exact ⟨Ne.symm hc, ih List.mem_cons_self⟩
    · exact ih (List.mem_cons_of_mem first h)

/-- A text starts with its first line. -/
theorem front_of_lines {text first : List Char} {others : List (List Char)}
    (h : lines text = first :: others) : first <+: text := by
  fun_induction lines text generalizing first others with
  | case1 => cases h
  | case2 rest ih =>
    obtain ⟨rfl, -⟩ := List.cons.inj h
    exact List.nil_prefix
  | case3 rest _ ih =>
    obtain ⟨rfl, -⟩ := List.cons.inj h
    exact List.nil_prefix
  | case4 c rest _ hc hrest ih =>
    obtain ⟨rfl, -⟩ := List.cons.inj h
    exact ⟨rest, rfl⟩
  | case5 c rest _ hc next more hrest ih =>
    obtain ⟨rfl, -⟩ := List.cons.inj h
    exact List.cons_prefix_cons.mpr ⟨rfl, ih hrest⟩

/-- Every line stands somewhere in the text. -/
theorem infix_of_mem_lines {text line : List Char} (h : line ∈ lines text) : line <:+: text := by
  fun_induction lines text generalizing line with
  | case1 => cases h
  | case2 rest ih =>
    rcases List.mem_cons.mp h with rfl | h
    · exact List.nil_infix
    · exact (ih h).trans ⟨['\r', '\n'], [], by simp⟩
  | case3 rest _ ih =>
    rcases List.mem_cons.mp h with rfl | h
    · exact List.nil_infix
    · exact (ih h).trans ⟨['\n'], [], by simp⟩
  | case4 c rest _ hc hrest ih =>
    obtain rfl := List.mem_singleton.mp h
    exact ⟨[], rest, rfl⟩
  | case5 c rest _ hc first others hrest ih =>
    rcases List.mem_cons.mp h with rfl | h
    · exact (List.cons_prefix_cons.mpr ⟨rfl, front_of_lines hrest⟩).isInfix
    · exact (ih (by rw [hrest]; exact List.mem_cons_of_mem first h)).trans ⟨[c], [], by simp⟩

/-- Every text is lines that are ended and what stands behind the last of their ends. -/
theorem exists_lastLine (text : List Char) :
    ∃ ended last, text = ended ++ last ∧ EndsLine ended ∧ '\n' ∉ last := by
  induction text with
  | nil => exact ⟨[], [], rfl, .inl rfl, List.not_mem_nil⟩
  | cons c rest ih =>
    obtain ⟨ended, last, rfl, hended | ⟨before, hended⟩, hlast⟩ := ih
    · subst hended
      by_cases hc : c = '\n'
      · subst hc
        exact ⟨['\n'], last, rfl, .inr ⟨[], rfl⟩, hlast⟩
      · exact ⟨[], c :: last, rfl, .inl rfl, by simpa using ⟨Ne.symm hc, hlast⟩⟩
    · exact ⟨c :: ended, last, rfl, .inr ⟨c :: before, by rw [hended]; rfl⟩, hlast⟩

/-- What a line can become when its text is cut: a front part of it, or all of it with the
carriage return of its end. -/
def CutLine (line cut : List Char) : Prop := cut <+: line ∨ cut = line ++ ['\r']

/-- The first line of a text that starts with an unbroken front. -/
theorem lines_unbroken {front : List Char} (hne : front ≠ []) (h : '\n' ∉ front)
    (rest : List Char) :
    lines front = [front] ∧
      ∃ line others, lines (front ++ rest) = line :: others ∧ CutLine line front := by
  induction front with
  | nil => exact absurd rfl hne
  | cons c front ih =>
    rw [List.mem_cons, not_or] at h
    have hc : c ≠ '\n' := Ne.symm h.1
    by_cases hfront : front = []
    · subst hfront
      refine ⟨lines_cons hc fun _ => by simp, ?_⟩
      rw [List.cons_append, List.nil_append]
      by_cases hbreak : c = '\r' ∧ rest.head? = some '\n'
      · obtain ⟨rfl, hhead⟩ := hbreak
        cases rest with
        | nil => cases hhead
        | cons d rest =>
          obtain rfl : d = '\n' := by simpa using hhead
          exact ⟨[], lines rest, lines_return_newline rest, .inr rfl⟩
      · rw [lines_cons hc fun hret hhead => hbreak ⟨hret, hhead⟩]
        cases lines rest with
        | nil => exact ⟨[c], [], rfl, .inl (List.prefix_refl [c])⟩
        | cons first others => exact ⟨c :: first, others, rfl, .inl ⟨first, rfl⟩⟩
    · obtain ⟨hlines, line, others, hrest, hcut⟩ := ih hfront h.2
      have hhead : ∀ after : List Char, (front ++ after).head? ≠ some '\n' := by
        intro after hhead
        cases front with
        | nil => exact hfront rfl
        | cons d front =>
          obtain rfl : d = '\n' := by simpa using hhead
          exact h.2 List.mem_cons_self
      have hhead' : front.head? ≠ some '\n' := by simpa using hhead []
      refine ⟨by rw [lines_cons hc fun _ => hhead', hlines], c :: line, others, ?_, ?_⟩
      · rw [List.cons_append, lines_cons hc fun _ => hhead rest, hrest]
      · rcases hcut with ⟨tail, htail⟩ | hcut
        · exact .inl ⟨tail, by rw [List.cons_append, htail]⟩
        · exact .inr (by rw [hcut]; rfl)

/-- **The lines of a text that is cut off.** All but the last stand as they do in the whole
text, and of the last only what the cut leaves. -/
theorem lines_cut (front back : List Char) :
    lines (front ++ back) = lines front ++ lines back ∨
      ∃ before cut line after, lines front = before ++ [cut] ∧
        lines (front ++ back) = before ++ line :: after ∧ CutLine line cut := by
  obtain ⟨ended, last, rfl, hended, hlast⟩ := exists_lastLine front
  by_cases hne : last = []
  · subst hne
    rw [List.append_nil]
    exact .inl (lines_append hended back)
  · obtain ⟨hone, line, others, hrest, hcut⟩ := lines_unbroken hne hlast back
    refine .inr ⟨lines ended, last, line, others, ?_, ?_, hcut⟩
    · rw [lines_append hended, hone]
    · rw [List.append_assoc, lines_append hended, hrest]

end Portcullis.Text
