import Portcullis.Text.Alphanumeric
import Portcullis.Text.Blank

/-! Blanks and word characters are apart.

The characters that paths are spelled in and the blanks around them are two classes of
ranges. Ranges in different places have no character in common (`has_eq_false_of_apart`),
and whether they are is a matter of comparing bounds. -/
namespace Portcullis.Text

/-- No range of the one class touches a range of the other. -/
def CharRanges.apart (a b : CharRanges) : Bool :=
  a.all fun r => b.all fun s => r.2 < s.1 || s.2 < r.1

theorem CharRanges.has_eq_false_of_apart {a b : CharRanges} (h : a.apart b = true) {code : Nat}
    (ha : a.has code = true) : b.has code = false := by
  obtain ⟨r, hr, hin⟩ := List.any_eq_true.mp ha
  simp only [Bool.and_eq_true, decide_eq_true_eq] at hin
  refine List.any_eq_false.mpr fun s hs => ?_
  have hapart := List.all_eq_true.mp (List.all_eq_true.mp h r hr) s hs
  simp only [Bool.or_eq_true, decide_eq_true_eq] at hapart
  simp only [Bool.and_eq_true, decide_eq_true_eq]
  omega

theorem blankRanges_apart : blankRanges.apart alphanumericRanges = true := by decide +kernel

/-- No character of a word is blank. -/
theorem isBlank_of_isWordChar {c : Char} (h : isWordChar c = true) : isBlank c = false := by
  cases hb : isBlank c
  · rfl
  · exfalso
    by_cases hlt : c.toNat < 0x80
    · have hsmall : ∀ n < 0x80, isBlank (Char.ofNat n) = true →
          isWordChar (Char.ofNat n) = false := by decide
      have hnot := hsmall c.toNat hlt
      rw [Char.ofNat_toNat, h] at hnot
      exact absurd (hnot hb) (by decide)
    · have hnot := CharRanges.has_eq_false_of_apart blankRanges_apart hb
      have hne : c ≠ '_' := by
        rintro rfl
        exact hlt (by decide)
      simp [isWordChar, isAlphanumeric, hlt, hnot, hne] at h

end Portcullis.Text
