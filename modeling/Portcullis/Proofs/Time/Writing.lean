import Portcullis.Proofs.Text.Digits
import Portcullis.Proofs.Text.Trimming
import Portcullis.Time.Instant

/-! Instants that are written are read back.

Every number of a written instant has as many digits as the reader takes at most, or a sign before
it and a mark behind it, so the reader cuts the text where the writer joined it. -/
namespace Portcullis

open Text

theorem Date.ofNumbers?_self (d : Date) : ofNumbers? d.year d.month d.day = some d := by
  rw [ofNumbers?, dif_pos ⟨d.year_le, d.month_le, d.day_le⟩]

theorem Date.day_le_31 (d : Date) : d.day ≤ 31 := by
  have hle : ∀ year month, Calendar.daysIn year month ≤ 31 := by
    intro year month
    rw [Calendar.daysIn.eq_def]
    split
    · split <;> decide
    all_goals decide
  exact Nat.le_trans d.day_le.2 (hle _ _)

theorem TimeOfDay.ofNumbers?_self (t : TimeOfDay) :
    ofNumbers? t.hour t.minute t.second t.nano = some t := by
  rw [ofNumbers?, dif_pos ⟨t.hour_lt, t.minute_lt, t.second_le, t.nano_lt⟩]

namespace Instant

/-! ### Numbers and marks -/

theorem isBlank_of_isDigit {c : Char} (h : c.isDigit = true) : isBlank c = false := by
  obtain ⟨hge, hle⟩ := Char.isDigit_iff_toNat.mp h
  have hzero : '0'.toNat = 48 := rfl
  have hnine : '9'.toNat = 57 := rfl
  rw [isBlank_of_lt (by omega)]
  simp only [Bool.or_eq_false_iff, Bool.and_eq_false_iff, decide_eq_false_iff_not]
  omega

/-- Digits are not trimmed. -/
theorem trimStart_append_of_digits {digits : List Char} (h : ∀ c ∈ digits, c.isDigit = true)
    (hne : digits ≠ []) (rest : List Char) :
    trimStart (digits ++ rest) = digits ++ rest := by
  obtain ⟨c, digits, rfl⟩ := List.exists_cons_of_ne_nil hne
  exact trimStart_cons_of_not_blank (isBlank_of_isDigit (h c List.mem_cons_self)) _

theorem padded_ne_nil (width n : Nat) : padded width n ≠ [] := by
  intro h
  exact decimal_ne_nil n (List.append_eq_nil_iff.mp h).2

theorem spanDigits_padded_append (width n : Nat) {rest : List Char} (h : NoDigitNext rest) :
    spanDigits (padded width n ++ rest) = (padded width n, rest) :=
  spanDigits_append (fun _ hc => isDigit_of_mem_padded hc) h

/-- A number of the full width is read back. -/
theorem number?_padded_append {width n : Nat} (hw : 0 < width) (hn : n < Nat.pow 10 width)
    (rest : List Char) : number? width (padded width n ++ rest) = some (n, rest) := by
  have hdigits : ∀ c ∈ padded width n, c.isDigit = true := fun c hc => isDigit_of_mem_padded hc
  have htake : ((padded width n ++ rest).take width).takeWhile Char.isDigit = padded width n := by
    rw [List.take_left' (length_padded hw hn)]
    have hspan : (padded width n ++ []).takeWhile Char.isDigit = padded width n ++ [] :=
      List.takeWhile_append_of_pos hdigits
    rwa [List.append_nil] at hspan
  rw [number?, trimStart_append_of_digits hdigits (padded_ne_nil width n), htake]
  split
  · next hnil => exact absurd hnil (padded_ne_nil width n)
  · rw [ofDecimal_padded, List.drop_left]

theorem mark?_cons {mark : Char} (h : isBlank mark = false) (rest : List Char) :
    mark? mark (mark :: rest) = some rest := by
  rw [mark?, trimStart_cons_of_not_blank h]
  exact if_pos rfl

/-! ### Dates -/

/-- No sign stands before a year that starts with a digit. -/
theorem year?_cons_of_isDigit {c : Char} (h : c.isDigit = true) (text : List Char) :
    year? (c :: text) = (number? 4 (c :: text)).map fun (n, rest) => ((n : Int), rest) := by
  rw [year?, trimStart_cons_of_not_blank (isBlank_of_isDigit h)]
  split
  · next heq =>
    cases heq
    exact absurd h (by decide)
  · next heq =>
    cases heq
    exact absurd h (by decide)
  · rfl

/-- Digits behind a sign are a year, however many there are. -/
theorem year?_signed_append (negative : Bool) (n : Nat) {rest : List Char} (h : NoDigitNext rest) :
    year? ((if negative then '-' else '+') :: padded 4 n ++ rest) =
      some (if negative then -(n : Int) else n, rest) := by
  have hspan := spanDigits_padded_append 4 n h
  cases negative
  all_goals
    rw [List.cons_append, year?.eq_def]
    simp only [Bool.false_eq_true, if_false, if_true]
    rw [trimStart_cons_of_not_blank (by decide)]
    simp only [hspan]
    split
    · next heq => exact absurd (congrArg Prod.fst heq) (padded_ne_nil 4 n)
    · next heq =>
      cases heq
      rw [ofDecimal_padded]

theorem year?_renderYear_append (year : Int) {rest : List Char} (h : NoDigitNext rest) :
    year? (renderYear year ++ rest) = some (year, rest) := by
  rw [renderYear]
  split
  · next hyear =>
    obtain ⟨c, digits, hdigits⟩ := List.exists_cons_of_ne_nil (padded_ne_nil 4 year.toNat)
    have hc : c.isDigit = true := isDigit_of_mem_padded (hdigits ▸ List.mem_cons_self)
    have hlt : year.toNat < 10000 := by omega
    have hnumber : number? 4 (padded 4 year.toNat ++ rest) = some (year.toNat, rest) :=
      number?_padded_append (by decide) hlt rest
    rw [hdigits, List.cons_append] at hnumber ⊢
    rw [year?_cons_of_isDigit hc, hnumber, Option.map_some]
    simp only [Int.toNat_of_nonneg hyear.1]
  · have hsigned := year?_signed_append (decide (year < 0)) year.natAbs h
    simp only [decide_eq_true_eq] at hsigned
    rw [hsigned]
    split
    · rw [Int.ofNat_natAbs_of_nonpos (by omega), Int.neg_neg]
    · rw [Int.natAbs_of_nonneg (by omega)]

theorem date?_append (d : Date) (rest : List Char) :
    date? (renderYear d.year ++ '-' :: padded 2 d.month ++ '-' :: padded 2 d.day ++ rest) =
      some (d, rest) := by
  have hdash : isBlank '-' = false := by decide
  have hyear : ∀ rest, NoDigitNext ('-' :: rest) := fun _ => .cons (by decide)
  have hmonth : d.month < Nat.pow 10 2 := Nat.lt_of_le_of_lt d.month_le.2 (by decide)
  have hday : d.day < Nat.pow 10 2 := Nat.lt_of_le_of_lt d.day_le_31 (by decide)
  simp only [date?, List.append_assoc, List.cons_append,
    year?_renderYear_append _ (hyear _), mark?_cons hdash,
    number?_padded_append (by decide) hmonth, number?_padded_append (by decide) hday,
    Option.bind_eq_bind, Option.bind_some, Date.ofNumbers?_self]
  rfl

/-! ### Times -/

/-- Digits behind a point count from the point on. -/
theorem fraction?_padded_append {width n : Nat} (hw : 0 < width) (hle : width ≤ 9)
    (hn : n < Nat.pow 10 width) {rest : List Char} (h : NoDigitNext rest) :
    fraction? ('.' :: padded width n ++ rest) = some (n * Nat.pow 10 (9 - width), rest) := by
  have hlength := length_padded hw hn
  rw [List.cons_append, fraction?, spanDigits_padded_append width n h]
  split
  · next heq => exact absurd (congrArg Prod.fst heq) (padded_ne_nil width n)
  · next heq =>
    cases heq
    simp only [List.take_of_length_le (Nat.le_trans (Nat.le_of_eq hlength) hle), ofDecimal_padded,
      hlength]

theorem fraction?_renderFraction_append {nano : Nat} (h : nano < 1000000000) :
    fraction? (renderFraction nano ++ ['Z']) = some (nano, ['Z']) := by
  have hnext : NoDigitNext ['Z'] := .cons (by decide)
  rw [renderFraction]
  split
  · next hzero =>
    rw [hzero]
    rfl
  split
  · next hmilli =>
    have hlt : nano / 1000000 < Nat.pow 10 3 := Nat.div_lt_of_lt_mul h
    have hwhole : nano / 1000000 * Nat.pow 10 (9 - 3) = nano :=
      Nat.div_mul_cancel (Nat.dvd_of_mod_eq_zero hmilli)
    rw [fraction?_padded_append (by decide) (by decide) hlt hnext, hwhole]
  split
  · next hmicro =>
    have hlt : nano / 1000 < Nat.pow 10 6 := Nat.div_lt_of_lt_mul h
    have hwhole : nano / 1000 * Nat.pow 10 (9 - 6) = nano :=
      Nat.div_mul_cancel (Nat.dvd_of_mod_eq_zero hmicro)
    rw [fraction?_padded_append (by decide) (by decide) hlt hnext, hwhole]
  · have hlt : nano < Nat.pow 10 9 := h
    have hwhole : nano * Nat.pow 10 (9 - 9) = nano := Nat.mul_one nano
    rw [fraction?_padded_append (by decide) (by decide) hlt hnext, hwhole]

theorem time?_append (t : TimeOfDay) :
    time? (padded 2 t.hour ++ ':' :: padded 2 t.minute ++ ':' :: padded 2 t.second ++
      renderFraction t.nano ++ ['Z']) = some (t, ['Z']) := by
  have hcolon : isBlank ':' = false := by decide
  have hhour : t.hour < Nat.pow 10 2 := Nat.lt_trans t.hour_lt (by decide)
  have hminute : t.minute < Nat.pow 10 2 := Nat.lt_trans t.minute_lt (by decide)
  have hsecond : t.second < Nat.pow 10 2 := Nat.lt_of_le_of_lt t.second_le (by decide)
  simp only [time?, List.append_assoc, List.cons_append, mark?_cons hcolon,
    number?_padded_append (by decide) hhour, number?_padded_append (by decide) hminute,
    number?_padded_append (by decide) hsecond, fraction?_renderFraction_append t.nano_lt,
    Option.bind_eq_bind, Option.bind_some, TimeOfDay.ofNumbers?_self]
  rfl

/-- In universal time local time is the same. -/
theorem ofLocal?_zero (t : Instant) : ofLocal? t.date t.time 0 = some t := by
  have hhour := t.time.hour_lt
  have hminute := t.time.minute_lt
  have hofDay : ((60 * (t.time.hour : Int) + t.time.minute - 0) % 1440).toNat =
      60 * t.time.hour + t.time.minute := by omega
  have hdiv : (60 * t.time.hour + t.time.minute) / 60 = t.time.hour := by omega
  have hmod : (60 * t.time.hour + t.time.minute) % 60 = t.time.minute := by omega
  rw [ofLocal?, if_neg (by omega), if_neg (by omega), hofDay]
  simp only [Option.bind_some]
  rw [hdiv, hmod, TimeOfDay.ofNumbers?_self, Option.map_some]

/-- **The text of an instant reads back as that instant.** -/
theorem parse?_text (t : Instant) : parse? t.text = some t := by
  have hdate := date?_append t.date ('T' :: (padded 2 t.time.hour ++ ':' ::
    padded 2 t.time.minute ++ ':' :: padded 2 t.time.second ++ renderFraction t.time.nano ++ ['Z']))
  have hrender : t.render = renderYear t.date.year ++ '-' :: padded 2 t.date.month ++
      '-' :: padded 2 t.date.day ++ 'T' :: (padded 2 t.time.hour ++ ':' :: padded 2 t.time.minute ++
        ':' :: padded 2 t.time.second ++ renderFraction t.time.nano ++ ['Z']) := by
    simp only [render, List.append_assoc, List.cons_append]
  rw [parse?, text, String.toList_ofList, hrender, ofChars?, hdate, Option.bind_some]
  simp only [true_or, if_true, time?_append, Option.bind_some]
  rw [trimStart_cons_of_not_blank (by decide), offset?, Option.bind_some, allBlank_nil, if_pos rfl,
    ofLocal?_zero]

end Instant

end Portcullis
