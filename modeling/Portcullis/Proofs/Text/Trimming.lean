import Portcullis.Text.Blank

/-! What trimming does to a text with blanks around it.

Readers trim before they look. These are the equations behind that: blanks at an end
change nothing about the trimmed text, and trimming stops at the first character that
is not blank, wherever it stands. -/
namespace Portcullis.Text

@[simp] theorem allBlank_nil : allBlank [] = true := rfl

@[simp] theorem allBlank_cons (c : Char) (text : List Char) :
    allBlank (c :: text) = (isBlank c && allBlank text) := rfl

@[simp] theorem allBlank_append (a b : List Char) :
    allBlank (a ++ b) = (allBlank a && allBlank b) := by
  simp [allBlank]

theorem isBlank_of_mem {text : List Char} (h : allBlank text = true) {c : Char} (hc : c ∈ text) :
    isBlank c = true :=
  List.all_eq_true.mp h c hc

/-- A character that is not blank does not stand in a text of blanks. -/
theorem not_mem_of_allBlank {text : List Char} {c : Char} (h : allBlank text = true)
    (hc : isBlank c = false) : c ∉ text := by
  intro hmem
  rw [isBlank_of_mem h hmem] at hc
  cases hc

/-! ### The front -/

@[simp] theorem trimStart_nil : trimStart [] = [] := rfl

theorem trimStart_cons_of_blank {c : Char} (h : isBlank c = true) (text : List Char) :
    trimStart (c :: text) = trimStart text := by
  simp [trimStart, h]

theorem trimStart_cons_of_not_blank {c : Char} (h : isBlank c = false) (text : List Char) :
    trimStart (c :: text) = c :: text := by
  simp [trimStart, h]

theorem trimStart_append_of_allBlank {gap : List Char} (h : allBlank gap = true)
    (text : List Char) : trimStart (gap ++ text) = trimStart text := by
  induction gap with
  | nil => rfl
  | cons c rest ih =>
    rw [allBlank_cons, Bool.and_eq_true] at h
    rw [List.cons_append, trimStart_cons_of_blank h.1, ih h.2]

theorem trimStart_eq_nil_iff {text : List Char} : trimStart text = [] ↔ allBlank text = true := by
  induction text with
  | nil => simp
  | cons c rest ih =>
    cases hc : isBlank c
    · simp [trimStart_cons_of_not_blank hc, hc]
    · rw [trimStart_cons_of_blank hc, ih, allBlank_cons, hc, Bool.true_and]

/-- Trimming does not reach past a visible front. -/
theorem trimStart_append_of_ne_nil {text : List Char} (h : trimStart text ≠ [])
    (rest : List Char) : trimStart (text ++ rest) = trimStart text ++ rest := by
  induction text with
  | nil => exact absurd rfl h
  | cons c text ih =>
    cases hc : isBlank c
    · rw [List.cons_append, trimStart_cons_of_not_blank hc, trimStart_cons_of_not_blank hc,
        List.cons_append]
    · rw [trimStart_cons_of_blank hc] at h
      rw [List.cons_append, trimStart_cons_of_blank hc, trimStart_cons_of_blank hc, ih h]

theorem trimStart_trimStart (text : List Char) : trimStart (trimStart text) = trimStart text := by
  induction text with
  | nil => rfl
  | cons c rest ih =>
    cases hc : isBlank c
    · rw [trimStart_cons_of_not_blank hc, trimStart_cons_of_not_blank hc]
    · rw [trimStart_cons_of_blank hc, ih]

/-! ### The end -/

@[simp] theorem trimEnd_nil : trimEnd [] = [] := rfl

theorem trimEnd_cons_of_not_blank {c : Char} (h : isBlank c = false) (text : List Char) :
    trimEnd (c :: text) = c :: trimEnd text := by
  rw [trimEnd]
  cases trimEnd text with
  | nil => simp [h]
  | cons _ _ => rfl

theorem trimEnd_cons_of_ne_nil {text : List Char} (h : trimEnd text ≠ []) (c : Char) :
    trimEnd (c :: text) = c :: trimEnd text := by
  rw [trimEnd]
  cases ht : trimEnd text with
  | nil => exact absurd ht h
  | cons _ _ => rfl

theorem trimEnd_eq_nil_iff {text : List Char} : trimEnd text = [] ↔ allBlank text = true := by
  induction text with
  | nil => simp
  | cons c rest ih =>
    by_cases hr : trimEnd rest = []
    · rw [trimEnd, hr, allBlank_cons, ih.mp hr]
      cases isBlank c <;> simp
    · have hb : allBlank rest ≠ true := fun hb => hr (ih.mpr hb)
      rw [trimEnd_cons_of_ne_nil hr]
      simp [hb]

/-- Trimming does not reach past a visible end. -/
theorem trimEnd_append_of_ne_nil {tail : List Char} (h : trimEnd tail ≠ []) (text : List Char) :
    trimEnd (text ++ tail) = text ++ trimEnd tail := by
  induction text with
  | nil => rfl
  | cons c rest ih =>
    have hne : trimEnd (rest ++ tail) ≠ [] := by
      rw [ih]
      exact List.append_ne_nil_of_right_ne_nil rest h
    rw [List.cons_append, trimEnd_cons_of_ne_nil hne, ih, List.cons_append]

theorem trimEnd_append_of_allBlank {gap : List Char} (h : allBlank gap = true)
    (text : List Char) : trimEnd (text ++ gap) = trimEnd text := by
  induction text with
  | nil => exact trimEnd_eq_nil_iff.mpr h
  | cons c rest ih => rw [List.cons_append, trimEnd, ih, trimEnd]

/-- A text keeps its end from a visible character on. -/
theorem trimEnd_append_cons {c : Char} (h : isBlank c = false) (text rest : List Char) :
    trimEnd (text ++ c :: rest) = text ++ c :: trimEnd rest := by
  rw [trimEnd_append_of_ne_nil (by simp [trimEnd_cons_of_not_blank h]),
    trimEnd_cons_of_not_blank h]

/-- A text whose end is visible keeps it, whatever follows. -/
theorem trimEnd_append_of_trimEnd {text : List Char} (h : trimEnd text = text)
    (rest : List Char) : trimEnd (text ++ rest) = text ++ trimEnd rest := by
  by_cases hr : trimEnd rest = []
  · rw [trimEnd_append_of_allBlank (trimEnd_eq_nil_iff.mp hr), h, hr, List.append_nil]
  · exact trimEnd_append_of_ne_nil hr text

theorem trimEnd_trimEnd (text : List Char) : trimEnd (trimEnd text) = trimEnd text := by
  induction text with
  | nil => rfl
  | cons c rest ih =>
    by_cases hr : trimEnd rest = []
    · rw [trimEnd, hr]
      cases hc : isBlank c <;> simp [hc, trimEnd]
    · rw [trimEnd_cons_of_ne_nil hr, trimEnd_cons_of_ne_nil (by rw [ih]; exact hr), ih]

theorem trimStart_trimEnd (text : List Char) : trimStart (trimEnd text) = trim text := by
  induction text with
  | nil => rfl
  | cons c rest ih =>
    cases hc : isBlank c
    · rw [trim, trimStart_cons_of_not_blank hc, trimEnd_cons_of_not_blank hc,
        trimStart_cons_of_not_blank hc]
    · rw [trim, trimStart_cons_of_blank hc, ← trim, ← ih]
      by_cases hr : trimEnd rest = []
      · simp [trimEnd, hr, hc]
      · rw [trimEnd_cons_of_ne_nil hr, trimStart_cons_of_blank hc]

/-! ### Both ends -/

theorem trim_append_left {gap : List Char} (h : allBlank gap = true) (text : List Char) :
    trim (gap ++ text) = trim text := by
  rw [trim, trimStart_append_of_allBlank h, trim]

theorem trim_append_right {gap : List Char} (h : allBlank gap = true) (text : List Char) :
    trim (text ++ gap) = trim text := by
  rw [← trimStart_trimEnd, trimEnd_append_of_allBlank h, trimStart_trimEnd]

theorem trim_trimEnd (text : List Char) : trim (trimEnd text) = trim text := by
  rw [← trimStart_trimEnd, trimEnd_trimEnd, trimStart_trimEnd]

theorem trim_trimStart (text : List Char) : trim (trimStart text) = trim text := by
  rw [trim, trimStart_trimStart, trim]

theorem trim_trim (text : List Char) : trim (trim text) = trim text := by
  show trim (trimEnd (trimStart text)) = trim text
  rw [trim_trimEnd, trim_trimStart]

theorem trim_eq_nil_iff {text : List Char} : trim text = [] ↔ allBlank text = true := by
  rw [← trimStart_trimEnd, trimStart_eq_nil_iff]
  constructor
  · intro h
    have hnil : trimEnd (trimEnd text) = [] := trimEnd_eq_nil_iff.mpr h
    rw [trimEnd_trimEnd] at hnil
    exact trimEnd_eq_nil_iff.mp hnil
  · intro h
    rw [trimEnd_eq_nil_iff.mpr h]
    rfl

theorem exists_front (text : List Char) :
    ∃ front, allBlank front = true ∧ text = front ++ trimStart text := by
  refine ⟨text.takeWhile isBlank, List.all_takeWhile, ?_⟩
  exact List.takeWhile_append_dropWhile.symm

theorem exists_back (text : List Char) :
    ∃ back, allBlank back = true ∧ text = trimEnd text ++ back := by
  induction text with
  | nil => exact ⟨[], rfl, rfl⟩
  | cons c rest ih =>
    by_cases hr : trimEnd (c :: rest) = []
    · exact ⟨c :: rest, trimEnd_eq_nil_iff.mp hr, by rw [hr, List.nil_append]⟩
    · obtain ⟨back, hb, hrest⟩ := ih
      refine ⟨back, hb, ?_⟩
      cases ht : trimEnd rest with
      | nil =>
        have hc : isBlank c = false := by
          rw [trimEnd, ht] at hr
          simpa using hr
        rw [trimEnd_cons_of_not_blank hc, ht, List.cons_append]
        rw [ht] at hrest
        exact congrArg _ hrest
      | cons d kept =>
        rw [trimEnd_cons_of_ne_nil (by rw [ht]; exact List.cons_ne_nil _ _), List.cons_append,
          ← hrest]

/-- A text is its trimmed self with blanks around it. -/
theorem exists_gaps (text : List Char) :
    ∃ front back, allBlank front = true ∧ allBlank back = true ∧
      text = front ++ trim text ++ back := by
  obtain ⟨front, hf, hfront⟩ := exists_front text
  obtain ⟨back, hb, hback⟩ := exists_back (trimStart text)
  refine ⟨front, back, hf, hb, ?_⟩
  rw [List.append_assoc, trim, ← hback]
  exact hfront

/-- A text that starts with a visible character is trimmed at its end only. -/
theorem trim_cons_of_not_blank {c : Char} (h : isBlank c = false) (text : List Char) :
    trim (c :: text) = c :: trimEnd text := by
  rw [trim, trimStart_cons_of_not_blank h, trimEnd_cons_of_not_blank h]

end Portcullis.Text
