import Portcullis.Audit.Chain

/-! The bytes of texts.

Bytes determine the text they stand for. A byte that begins a character is never one that goes on
with a character, so where the bytes of one text end with those of another, the text itself ends
with the other (`ends_of_utf8_eq_append`). -/
namespace Portcullis.Audit

/-- The bytes of characters, one after the other. -/
def encoded (chars : List Char) : List UInt8 := chars.flatMap String.utf8EncodeChar

theorem utf8_eq_encoded (s : String) : utf8 s = encoded s.toList := by
  rw [utf8, String.toUTF8_eq_toByteArray, ← String.utf8Encode_toList, List.utf8Encode,
    List.data_toByteArray]
  rfl

theorem utf8_inj {s t : String} : utf8 s = utf8 t ↔ s = t := by
  constructor
  · intro h
    exact String.toByteArray_inj.mp (ByteArray.ext (Array.toList_inj.mp h))
  · rintro rfl
    rfl

theorem encoded_inj {a b : List Char} (h : encoded a = encoded b) : a = b := by
  have hutf8 : utf8 (String.ofList a) = utf8 (String.ofList b) := by
    rw [utf8_eq_encoded, utf8_eq_encoded, String.toList_ofList, String.toList_ofList, h]
  exact String.ofList_injective (utf8_inj.mp hutf8)

/-- What bytes of characters start with begins a character. -/
theorem isFirstByte_of_encoded_eq_cons {chars : List Char} {byte : UInt8} {rest : List UInt8}
    (h : encoded chars = byte :: rest) : byte.IsUTF8FirstByte := by
  cases chars with
  | nil => cases h
  | cons c chars =>
    have hpos : 0 < (String.utf8EncodeChar c).length := by
      rw [String.length_utf8EncodeChar]
      exact c.utf8Size_pos
    have hfirst : (String.utf8EncodeChar c)[0] = byte := by
      have hget : (encoded (c :: chars))[0]? = some byte := by rw [h, List.getElem?_cons_zero]
      rw [encoded, List.flatMap_cons, List.getElem?_append_left hpos,
        List.getElem?_eq_getElem hpos] at hget
      exact Option.some_inj.mp hget
    rw [← hfirst, UInt8.isUTF8FirstByte_getElem_utf8EncodeChar]

/-- No character is begun inside another one. -/
theorem eq_nil_of_utf8EncodeChar_eq_append {c : Char} {front : List UInt8} {byte : UInt8}
    {back : List UInt8} (h : String.utf8EncodeChar c = front ++ byte :: back)
    (hbyte : byte.IsUTF8FirstByte) : front = [] := by
  have hlt : front.length < (String.utf8EncodeChar c).length := by
    rw [h, List.length_append, List.length_cons]
    omega
  have hget : (String.utf8EncodeChar c)[front.length] = byte := by
    simp only [h, List.getElem_append_right (Nat.le_refl _), Nat.sub_self, List.getElem_cons_zero]
  rw [← hget, UInt8.isUTF8FirstByte_getElem_utf8EncodeChar] at hbyte
  exact List.eq_nil_of_length_eq_zero hbyte

theorem ends_of_encoded_eq_append {chars tail : List Char} {bytes : List UInt8}
    (h : encoded chars = bytes ++ encoded tail) : ∃ front, chars = front ++ tail := by
  induction chars generalizing bytes with
  | nil =>
    have htail : encoded tail = encoded [] := (List.append_eq_nil_iff.mp h.symm).2
    exact ⟨[], (encoded_inj htail).symm⟩
  | cons c rest ih =>
    rw [encoded, List.flatMap_cons] at h
    rcases List.append_eq_append_iff.mp h with ⟨more, hbytes, hrest⟩ | ⟨more, hc, htail⟩
    · obtain ⟨front, hfront⟩ := ih hrest
      exact ⟨c :: front, by rw [hfront, List.cons_append]⟩
    · -- The tail begins within the bytes of `c`: at their end, or else at their start.
      cases more with
      | nil =>
        have hrest : encoded rest = [] ++ encoded tail := htail.symm
        obtain ⟨front, hfront⟩ := ih hrest
        exact ⟨c :: front, by rw [hfront, List.cons_append]⟩
      | cons byte more =>
        obtain rfl := eq_nil_of_utf8EncodeChar_eq_append hc (isFirstByte_of_encoded_eq_cons htail)
        exact ⟨[], encoded_inj h⟩

/-- **Bytes that end with those of a text stand for a text that ends with it.** -/
theorem ends_of_utf8_eq_append {s t : String} {bytes : List UInt8} (h : utf8 s = bytes ++ utf8 t) :
    ∃ front, s.toList = front ++ t.toList := by
  rw [utf8_eq_encoded, utf8_eq_encoded] at h
  exact ends_of_encoded_eq_append h

end Portcullis.Audit
