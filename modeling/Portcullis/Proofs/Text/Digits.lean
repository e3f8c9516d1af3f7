import Portcullis.Text.Digits

/-! Numbers in a text.

A number that is written is read back where something else than a digit follows it, whether it
stands in the fewest digits (`decimal`) or with zeros in front up to a width (`padded`). -/
namespace Portcullis.Text

/-- No digit is next. -/
def NoDigitNext (text : List Char) : Prop := ∀ c ∈ text.head?, c.isDigit = false

theorem NoDigitNext.nil : NoDigitNext [] := by
  intro c hc
  cases hc

theorem NoDigitNext.cons {c : Char} {rest : List Char} (h : c.isDigit = false) :
    NoDigitNext (c :: rest) := by
  intro d hd
  rw [List.head?_cons, Option.mem_some_iff] at hd
  rwa [← hd]

theorem NoDigitNext.takeWhile {text : List Char} (h : NoDigitNext text) :
    text.takeWhile Char.isDigit = [] := by
  cases text with
  | nil => rfl
  | cons c rest => rw [List.takeWhile_cons_of_neg (by rw [h c rfl]; exact Bool.false_ne_true)]

theorem NoDigitNext.dropWhile {text : List Char} (h : NoDigitNext text) :
    text.dropWhile Char.isDigit = text := by
  cases text with
  | nil => rfl
  | cons c rest => rw [List.dropWhile_cons_of_neg (by rw [h c rfl]; exact Bool.false_ne_true)]

/-- Digits end where no digit is next. -/
theorem spanDigits_append {digits rest : List Char} (hd : ∀ c ∈ digits, c.isDigit = true)
    (hr : NoDigitNext rest) : spanDigits (digits ++ rest) = (digits, rest) := by
  rw [spanDigits, List.takeWhile_append_of_pos hd, List.dropWhile_append_of_pos hd, hr.takeWhile,
    hr.dropWhile, List.append_nil]

theorem spanDigits_decimal_append (n : Nat) {rest : List Char} (hr : NoDigitNext rest) :
    spanDigits (decimal n ++ rest) = (decimal n, rest) :=
  spanDigits_append (fun _ hc => isDigit_of_mem_decimal hc) hr

theorem decimal_ne_nil (n : Nat) : decimal n ≠ [] := Nat.toDigits_ne_nil

theorem exists_decimal_eq_cons (n : Nat) :
    ∃ c digits, decimal n = c :: digits ∧ c.isDigit = true := by
  cases h : decimal n with
  | nil => exact absurd h (decimal_ne_nil n)
  | cons c digits => exact ⟨c, digits, rfl, isDigit_of_mem_decimal (h ▸ List.mem_cons_self)⟩

/-- A number of several digits does not start with zero. -/
theorem eq_nil_of_decimal_eq_zero_cons {n : Nat} {rest : List Char} (h : decimal n = '0' :: rest) :
    rest = [] := by
  induction n using Nat.strongRecOn generalizing rest with
  | ind n ih =>
    rcases Nat.lt_or_ge n 10 with hlt | hge
    · rw [decimal, Nat.toDigits_of_lt_base hlt] at h
      exact (List.cons.inj h).2.symm
    · rw [decimal, Nat.toDigits_of_base_le (by decide) hge] at h
      -- The digits before the last write a smaller number, which is not zero.
      cases hfront : Nat.toDigits 10 (n / 10) with
      | nil => exact absurd hfront Nat.toDigits_ne_nil
      | cons c front =>
        rw [hfront, List.cons_append, List.cons.injEq] at h
        obtain ⟨rfl, -⟩ := h
        have hnil := ih (n / 10) (Nat.div_lt_self (by omega) (by decide)) hfront
        have hzero : n / 10 = 0 := by
          rw [← ofDecimal_decimal (n / 10), decimal, hfront, hnil]
          rfl
        omega

/-! ### Numbers of a width -/

theorem isDigit_of_mem_padded {width n : Nat} {c : Char} (h : c ∈ padded width n) :
    c.isDigit = true := by
  rcases List.mem_append.mp h with hzero | hdigit
  · rw [List.eq_of_mem_replicate hzero]
    decide
  · exact isDigit_of_mem_decimal hdigit

@[simp] theorem ofDecimal_padded (width n : Nat) : ofDecimal (padded width n) = n := by
  rw [padded, ofDecimal, Nat.ofDigitChars_append, Nat.ofDigitChars_replicate_zero, Nat.mul_zero]
  exact ofDecimal_decimal n

theorem length_padded {width n : Nat} (hw : 0 < width) (h : n < Nat.pow 10 width) :
    (padded width n).length = width := by
  have hle : (decimal n).length ≤ width := (Nat.length_toDigits_le_iff (by decide) hw).mpr h
  rw [padded, List.length_append, List.length_replicate, Nat.sub_add_cancel hle]

end Portcullis.Text
