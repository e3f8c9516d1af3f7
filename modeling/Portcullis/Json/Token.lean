import Portcullis.Json.Value
import Portcullis.Text.Digits
/-! The tokens of JSON text.

Blanks between tokens are the four characters the format names. A number runs as
far as its grammar goes, a string to its closing quote; what is no token makes the
whole text no JSON. -/
namespace Portcullis.Json
open Text

inductive Token where
  | openArray
  | closeArray
  | openObject
  | closeObject
  | comma
  | colon
  | null
  | bool (b : Bool)
  | number (n : Numeral)
  | string (s : Literal)
  deriving DecidableEq, Repr

/-- The four characters that may stand between tokens. -/
def isSpace (c : Char) : Bool := c = ' ' || c = '\t' || c = '\n' || c = '\r'

/-! ### Numbers -/

/-- The digits behind a point, if a point is next. At least one must follow. -/
def fraction? (text : List Char) : Option (Option (List Char) × List Char) :=
  match text with
  | '.' :: rest =>
    match spanDigits rest with
    | ([], _) => none
    | (digits, rest) => some (some digits, rest)
  | _ => some (none, text)

/-- The digits of an exponent with the sign that stood before them. -/
def exponentDigits? (negative : Bool) (text : List Char) : Option (Option Int × List Char) :=
  match spanDigits text with
  | ([], _) => none
  | (digits, rest) =>
    let size : Int := ofDecimal digits
    some (some (if negative then -size else size), rest)

/-- The exponent, if one is next. -/
def exponent? (text : List Char) : Option (Option Int × List Char) :=
  match text with
  | c :: rest =>
    if c = 'e' ∨ c = 'E' then
      match rest with
      | '+' :: rest => exponentDigits? false rest
      | '-' :: rest => exponentDigits? true rest
      | _ => exponentDigits? false rest
    else some (none, text)
  | [] => some (none, text)

/-- A number without its sign. A whole part of several digits does not start with zero. -/
def unsigned? (negative : Bool) (text : List Char) : Option (Numeral × List Char) :=
  match spanDigits text with
  | ([], _) => none
  | ('0' :: _ :: _, _) => none
  | (digits, rest) =>
    (fraction? rest).bind fun (fraction, rest) =>
      (exponent? rest).map fun (exponent, rest) =>
        (⟨negative, ofDecimal digits, fraction, exponent⟩, rest)

/-- The number a text starts with, and what follows it. -/
def number? (text : List Char) : Option (Numeral × List Char) :=
  match text with
  | '-' :: rest => unsigned? true rest
  | _ => unsigned? false text

/-! ### Strings -/

/-- The code point that a letter after a backslash stands for. -/
def shortEscape? (c : Char) : Option Nat :=
  match c with
  | '"' => some 0x22
  | '\\' => some 0x5c
  | '/' => some 0x2f
  | 'b' => some 0x8
  | 'f' => some 0xc
  | 'n' => some 0xa
  | 'r' => some 0xd
  | 't' => some 0x9
  | _ => none

/-- The code points of a string up to its closing quote, surrogates among them as they
are escaped, and what follows the quote. Control characters must be escaped. -/
def codes? : List Char → Option (List Nat × List Char)
  | [] => none
  | '"' :: rest => some ([], rest)
  | '\\' :: 'u' :: a :: b :: c :: d :: rest =>
    (ofHex? [a, b, c, d]).bind fun code =>
      (codes? rest).map fun (codes, rest) => (code :: codes, rest)
  | '\\' :: c :: rest =>
    (shortEscape? c).bind fun code =>
      (codes? rest).map fun (codes, rest) => (code :: codes, rest)
  | c :: rest =>
    if c.toNat < 0x20 then none
    else (codes? rest).map fun (codes, rest) => (c.toNat :: codes, rest)

/-- The text of code points, with surrogate pairs joined; none if a surrogate stays alone. -/
def textOf? : List Nat → Option (List Char)
  | [] => some []
  | code :: rest =>
    if 0xd800 ≤ code ∧ code < 0xdc00 then
      match rest with
      | low :: rest =>
        if 0xdc00 ≤ low ∧ low < 0xe000 then
          (textOf? rest).map (Char.ofNat (0x10000 + (code - 0xd800) * 0x400 + (low - 0xdc00)) :: ·)
        else none
      | [] => none
    else if 0xdc00 ≤ code ∧ code < 0xe000 then none
    else (textOf? rest).map (Char.ofNat code :: ·)

def Literal.ofCodes (codes : List Nat) : Literal :=
  match textOf? codes with
  | some chars => .text (String.ofList chars)
  | none => .unpaired

/-! ### Token lists -/

theorem spanDigits_length (text : List Char) :
    (spanDigits text).2.length + (spanDigits text).1.length = text.length := by
  have := congrArg List.length (List.takeWhile_append_dropWhile (p := Char.isDigit) (l := text))
  simp only [List.length_append] at this
  simp only [spanDigits]
  omega

theorem fraction?_length {text rest : List Char} {f : Option (List Char)}
    (h : fraction? text = some (f, rest)) : rest.length ≤ text.length := by
  simp only [fraction?] at h
  split at h
  · rename_i tail
    have := spanDigits_length tail
    split at h
    · simp at h
    · rename_i digits after heq
      simp only [Option.some.injEq, Prod.mk.injEq] at h
      rw [heq] at this
      simp only [← h.2, List.length_cons]
      simp only at this
      omega
  · simp only [Option.some.injEq, Prod.mk.injEq] at h
    simp [h.2]

theorem exponentDigits?_length {negative : Bool} {text rest : List Char} {e : Option Int}
    (h : exponentDigits? negative text = some (e, rest)) : rest.length ≤ text.length := by
  simp only [exponentDigits?] at h
  have := spanDigits_length text
  split at h
  · simp at h
  · rename_i digits after heq
    simp only [Option.some.injEq, Prod.mk.injEq] at h
    rw [heq] at this
    simp only [← h.2]
    simp only at this
    omega

theorem exponent?_length {text rest : List Char} {e : Option Int}
    (h : exponent? text = some (e, rest)) : rest.length ≤ text.length := by
  simp only [exponent?] at h
  split at h
  · split at h
    · split at h
      all_goals
        have := exponentDigits?_length h
        simp only [List.length_cons] at this ⊢
        omega
    · simp only [Option.some.injEq, Prod.mk.injEq] at h
      simp [← h.2]
  · simp only [Option.some.injEq, Prod.mk.injEq] at h
    simp [← h.2]

theorem unsigned?_length {negative : Bool} {text rest : List Char} {n : Numeral}
    (h : unsigned? negative text = some (n, rest)) : rest.length < text.length := by
  simp only [unsigned?] at h
  have := spanDigits_length text
  split at h
  · simp at h
  · simp at h
  · rename_i digits after hne hzero heq
    simp only [Option.bind_eq_some_iff, Option.map_eq_some_iff] at h
    obtain ⟨⟨f, mid⟩, hf, ⟨e, last⟩, he, hn⟩ := h
    rw [Prod.mk.injEq] at hn
    have h1 := fraction?_length hf
    have h2 := exponent?_length he
    rw [heq] at this
    have := List.length_pos_iff.mpr hne
    rw [← hn.2]
    simp only at *
    omega

theorem number?_length {text rest : List Char} {n : Numeral}
    (h : number? text = some (n, rest)) : rest.length < text.length := by
  simp only [number?] at h
  split at h
  · have := unsigned?_length h
    simp
    omega
  · exact unsigned?_length h

theorem codes?_length {text rest : List Char} {codes : List Nat}
    (h : codes? text = some (codes, rest)) : rest.length < text.length := by
  fun_induction codes? text generalizing codes rest with
  | case1 => simp at h
  | case2 tail => simp_all
  | case3 a b c d tail ih =>
    simp only [Option.bind_eq_some_iff, Option.map_eq_some_iff] at h
    obtain ⟨code, _, ⟨cs, r⟩, hr, heq⟩ := h
    cases heq
    have := ih hr
    simp
    omega
  | case4 c tail _ ih =>
    simp only [Option.bind_eq_some_iff, Option.map_eq_some_iff] at h
    obtain ⟨code, _, ⟨cs, r⟩, hr, heq⟩ := h
    cases heq
    have := ih hr
    simp
    omega
  | case5 => simp at h
  | case6 c tail _ _ _ _ ih =>
    obtain ⟨⟨cs, r⟩, hr, heq⟩ := Option.map_eq_some_iff.mp h
    cases heq
    have := ih hr
    simp
    omega

/-- The tokens of a text. -/
def tokens? : List Char → Option (List Token)
  | [] => some []
  | '[' :: rest => (tokens? rest).map (.openArray :: ·)
  | ']' :: rest => (tokens? rest).map (.closeArray :: ·)
  | '{' :: rest => (tokens? rest).map (.openObject :: ·)
  | '}' :: rest => (tokens? rest).map (.closeObject :: ·)
  | ',' :: rest => (tokens? rest).map (.comma :: ·)
  | ':' :: rest => (tokens? rest).map (.colon :: ·)
  | 'n' :: 'u' :: 'l' :: 'l' :: rest => (tokens? rest).map (.null :: ·)
  | 't' :: 'r' :: 'u' :: 'e' :: rest => (tokens? rest).map (.bool true :: ·)
  | 'f' :: 'a' :: 'l' :: 's' :: 'e' :: rest => (tokens? rest).map (.bool false :: ·)
  | '"' :: rest =>
    match _h : codes? rest with
    | some (codes, rest) => (tokens? rest).map (.string (.ofCodes codes) :: ·)
    | none => none
  | c :: rest =>
    if isSpace c then tokens? rest
    else
      match _h : number? (c :: rest) with
      | some (n, rest) => (tokens? rest).map (.number n :: ·)
      | none => none
termination_by text => text.length
decreasing_by
  all_goals first
    | simp only [List.length_cons]; omega
    | have := codes?_length ‹_›; simp only [List.length_cons]; omega
    | exact number?_length ‹_›

end Portcullis.Json
