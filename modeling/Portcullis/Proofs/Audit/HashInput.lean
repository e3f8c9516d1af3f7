import Portcullis.Proofs.Audit.Entries
import Portcullis.Proofs.Text.Encoding

/-! The bytes that hashes are taken over.

A trail's name, a place, a hash and an entry's text are joined without anything between them. The
name may be of any length and so may the text, but a text never ends with another entry's text, so
two joined inputs that are the same have the same text at their end. The hash and the place before
it have a fixed length, and what is left is the name. -/
namespace Portcullis.Audit
open Json

/-- The text of an entry ends with that of another only if they are the same entry. -/
theorem utf8_compact_eq_append {a b : Entry} {front : List UInt8}
    (h : utf8 a.toJson.compact = front ++ utf8 b.toJson.compact) : a = b := by
  obtain ⟨chars, hchars⟩ := ends_of_utf8_eq_append h
  have htext : a.toJson.compact = b.toJson.compact := by
    apply String.toList_inj.mp
    rw [hchars, Entry.compact_eq_append hchars, List.nil_append]
  exact Entry.compact_inj htext

/-- So many bytes hold a number up to their size. -/
theorem littleEndian_inj {count n m : Nat} (h : littleEndian count n = littleEndian count m)
    (hn : n < Nat.pow 256 count) (hm : m < Nat.pow 256 count) : n = m := by
  induction count generalizing n m with
  | zero =>
    have hn : n < 1 := hn
    have hm : m < 1 := hm
    omega
  | succ count ih =>
    rw [littleEndian, littleEndian, List.cons.injEq] at h
    obtain ⟨hbyte, hrest⟩ := h
    have hlow : n % 256 = m % 256 := by
      have htoNat := congrArg UInt8.toNat hbyte
      rwa [UInt8.toNat_ofNat_of_lt' (Nat.mod_lt _ (by decide)),
        UInt8.toNat_ofNat_of_lt' (Nat.mod_lt _ (by decide))] at htoNat
    have hn : n < Nat.pow 256 count * 256 := hn
    have hm : m < Nat.pow 256 count * 256 := hm
    have hhigh : n / 256 = m / 256 := by
      refine ih hrest ?_ ?_
      · exact Nat.div_lt_of_lt_mul (Nat.mul_comm _ _ ▸ hn)
      · exact Nat.div_lt_of_lt_mul (Nat.mul_comm _ _ ▸ hm)
    omega

/-- **The bytes that a hash is taken over determine all four parts of them**, as long as the hashes
before are of one length. -/
theorem hashInput_inj {trailId trailId' : String} {sequence sequence' : UInt64}
    {entry entry' : Entry} {before before' : String}
    (hlength : (utf8 before).length = (utf8 before').length)
    (h : hashInput trailId sequence entry before = hashInput trailId' sequence' entry' before') :
    trailId = trailId' ∧ sequence = sequence' ∧ entry = entry' ∧ before = before' := by
  rw [hashInput, hashInput] at h
  have hentry : entry = entry' := by
    rcases List.append_eq_append_iff.mp h with ⟨more, -, hmore⟩ | ⟨more, -, hmore⟩
    · exact utf8_compact_eq_append hmore
    · exact (utf8_compact_eq_append hmore).symm
  subst hentry
  have hfront := List.append_cancel_right h
  obtain ⟨hfront, hbefore⟩ := List.append_inj' hfront hlength
  obtain ⟨hname, hplace⟩ := List.append_inj' hfront (by simp only [length_littleEndian])
  refine ⟨utf8_inj.mp hname, ?_, rfl, utf8_inj.mp hbefore⟩
  exact UInt64.toNat_inj.mp (littleEndian_inj hplace sequence.toNat_lt sequence'.toNat_lt)

end Portcullis.Audit
