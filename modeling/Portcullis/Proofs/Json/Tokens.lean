import Portcullis.Json.Token
import Portcullis.Json.Writer
import Portcullis.Proofs.Text.Digits

/-! Tokens that are written are read back.

A string reads back whatever it holds: quotes, backslashes and control characters stand escaped,
so the string ends at its own quote and nowhere before. A number reads back where a token that
may follow a value comes next. -/
namespace Portcullis.Json
open Text

/-! ### Marks -/

/-- The characters that are tokens of their own. -/
def marks : List (Char × Token) :=
  [('[', .openArray), (']', .closeArray), ('{', .openObject), ('}', .closeObject), (',', .comma),
    (':', .colon)]

theorem tokens?_mark {c : Char} {t : Token} (h : (c, t) ∈ marks) (rest : List Char) :
    tokens? (c :: rest) = (tokens? rest).map (t :: ·) := by
  simp only [marks, List.mem_cons, Prod.mk.injEq, List.not_mem_nil, or_false] at h
  rcases h with ⟨rfl, rfl⟩ | ⟨rfl, rfl⟩ | ⟨rfl, rfl⟩ | ⟨rfl, rfl⟩ | ⟨rfl, rfl⟩ | ⟨rfl, rfl⟩
  all_goals rw [tokens?]

/-! ### Strings -/

/-- A character below the space is read back from its escape. -/
theorem ofHex?_of_lt {n : Nat} (h : n < 0x20) :
    ofHex? ['0', '0', Nat.digitChar (n / 16), Nat.digitChar (n % 16)] = some n := by
  have hall : ∀ n < 0x20,
      ofHex? ['0', '0', Nat.digitChar (n / 16), Nat.digitChar (n % 16)] = some n := by decide
  exact hall n h

/-- What is written for a character stands for that character. -/
theorem codes?_escape_append (c : Char) (text : List Char) :
    codes? (escape c ++ text) =
      (codes? text).map fun (codes, rest) => (c.toNat :: codes, rest) := by
  fun_cases escape c with
  | case8 c _ _ _ _ _ _ _ hlt =>
    simp only [List.cons_append, List.nil_append, codes?, ofHex?_of_lt hlt, Option.bind_some]
  | case9 c hquote hbackslash _ _ _ _ _ hge =>
    rw [List.singleton_append, codes?, if_neg hge]
    · exact hquote
    · intro _ _ _ _ _ h
      exact absurd h hbackslash
    · intro _ _ h
      exact absurd h hbackslash
  | _ => simp [codes?, shortEscape?]

/-- A string ends at its own quote. -/
theorem codes?_flatMap_escape (chars rest : List Char) :
    codes? (chars.flatMap escape ++ '"' :: rest) = some (chars.map Char.toNat, rest) := by
  induction chars with
  | nil => rw [List.flatMap_nil, List.nil_append, codes?, List.map_nil]
  | cons c chars ih =>
    rw [List.flatMap_cons, List.append_assoc, codes?_escape_append, ih, Option.map_some,
      List.map_cons]

/-- No character is half of a surrogate pair. -/
theorem not_surrogate (c : Char) : ¬(0xd800 ≤ c.toNat ∧ c.toNat < 0xe000) := by
  have hvalid := c.valid
  simp only [UInt32.isValidChar, Nat.isValidChar] at hvalid
  simp only [Char.toNat]
  omega

theorem textOf?_map_toNat (chars : List Char) : textOf? (chars.map Char.toNat) = some chars := by
  induction chars with
  | nil => rw [List.map_nil, textOf?]
  | cons c chars ih =>
    have hc := not_surrogate c
    rw [List.map_cons, textOf?.eq_def]
    simp only
    rw [if_neg (by omega), if_neg (by omega), ih, Option.map_some, Char.ofNat_toNat]

@[simp] theorem Literal.ofCodes_map_toNat (s : String) :
    Literal.ofCodes (s.toList.map Char.toNat) = .text s := by
  rw [Literal.ofCodes, textOf?_map_toNat]
  exact congrArg Literal.text String.ofList_toList

theorem tokens?_text_append (s : String) (rest : List Char) :
    tokens? ((Literal.text s).render ++ rest) =
      (tokens? rest).map (.string (.text s) :: ·) := by
  have hcodes : codes? (s.toList.flatMap escape ++ '"' :: rest) =
      some (s.toList.map Char.toNat, rest) := codes?_flatMap_escape _ _
  rw [Literal.render, List.cons_append, List.cons_append, List.append_assoc, List.singleton_append,
    tokens?]
  split
  · next heq =>
    rw [hcodes] at heq
    cases heq
    rw [Literal.ofCodes_map_toNat]
  · next heq =>
    rw [hcodes] at heq
    cases heq

/-! ### Numbers -/

/-- What may follow a complete value. -/
def Ends (text : List Char) : Prop := ∀ c ∈ text.head?, c = ',' ∨ c = ']' ∨ c = '}'

theorem Ends.nil : Ends [] := by
  intro c hc
  cases hc

theorem Ends.comma (rest : List Char) : Ends (',' :: rest) := by
  intro c hc
  cases hc
  exact .inl rfl

theorem Ends.closeArray (rest : List Char) : Ends (']' :: rest) := by
  intro c hc
  cases hc
  exact .inr (.inl rfl)

theorem Ends.closeObject (rest : List Char) : Ends ('}' :: rest) := by
  intro c hc
  cases hc
  exact .inr (.inr rfl)

theorem Ends.noDigitNext {text : List Char} (h : Ends text) : NoDigitNext text := by
  intro c hc
  rcases h c hc with rfl | rfl | rfl <;> decide

theorem Ends.fraction? {text : List Char} (h : Ends text) : fraction? text = some (none, text) := by
  rw [Json.fraction?.eq_def]
  split
  · have hpoint := h '.' rfl
    simp at hpoint
  · rfl

theorem Ends.exponent? {text : List Char} (h : Ends text) : exponent? text = some (none, text) := by
  cases text with
  | nil => rfl
  | cons c rest =>
    have hletter : ¬(c = 'e' ∨ c = 'E') := by
      rcases h c rfl with rfl | rfl | rfl <;> decide
    rw [Json.exponent?.eq_def]
    simp only
    rw [if_neg hletter]

theorem Numeral.render_ofNat (n : Nat) : (Numeral.ofNat n).render = decimal n := by
  simp [Numeral.render, Numeral.ofNat]

theorem unsigned?_decimal_append (n : Nat) {rest : List Char} (h : Ends rest) :
    unsigned? false (decimal n ++ rest) = some (.ofNat n, rest) := by
  rw [unsigned?, spanDigits_decimal_append n h.noDigitNext]
  split
  · next heq => exact absurd (congrArg Prod.fst heq) (decimal_ne_nil n)
  · next heq =>
    have hnil := eq_nil_of_decimal_eq_zero_cons (congrArg Prod.fst heq)
    cases hnil
  · next heq =>
    cases heq
    simp only [h.fraction?, Option.bind_some, h.exponent?, Option.map_some, ofDecimal_decimal]
    rfl

theorem number?_decimal_append (n : Nat) {rest : List Char} (h : Ends rest) :
    number? (decimal n ++ rest) = some (.ofNat n, rest) := by
  rw [number?.eq_def]
  split
  · next heq =>
    -- A minus is no digit.
    obtain ⟨c, digits, hdecimal, hdigit⟩ := exists_decimal_eq_cons n
    rw [hdecimal, List.cons_append, List.cons.injEq] at heq
    rw [heq.1] at hdigit
    exact absurd hdigit (by decide)
  · exact unsigned?_decimal_append n h

/-- A token that starts with a digit is a number. -/
theorem tokens?_of_number? {c : Char} {text rest : List Char} {n : Numeral}
    (hc : c.isDigit = true) (h : number? (c :: text) = some (n, rest)) :
    tokens? (c :: text) = (tokens? rest).map (.number n :: ·) := by
  have hspace : isSpace c = false := by
    cases hs : isSpace c
    · rfl
    · simp only [isSpace, Bool.or_eq_true, decide_eq_true_eq] at hs
      rcases hs with ((rfl | rfl) | rfl) | rfl <;> exact absurd hc (by decide)
  rw [tokens?, if_neg (by rw [hspace]; exact Bool.false_ne_true)]
  · split
    · next heq =>
      rw [h] at heq
      cases heq
      rfl
    · next heq =>
      rw [h] at heq
      cases heq
  all_goals
    intros
    subst c
    exact absurd hc (by decide)

theorem tokens?_ofNat_append (n : Nat) {rest : List Char} (h : Ends rest) :
    tokens? ((Numeral.ofNat n).render ++ rest) =
      (tokens? rest).map (.number (.ofNat n) :: ·) := by
  have hnumber := number?_decimal_append n h
  obtain ⟨c, digits, hdecimal, hdigit⟩ := exists_decimal_eq_cons n
  rw [Numeral.render_ofNat]
  rw [hdecimal] at hnumber ⊢
  exact tokens?_of_number? hdigit hnumber

end Portcullis.Json
