/-!
# Texts by their bytes

The bytes of a text order it like its characters: a smaller character begins with smaller bytes,
however many bytes either of the two has.
-/

namespace Courier.Text

/-- The bytes of a text. -/
def bytes (s : String) : List UInt8 :=
  s.toUTF8.data.toList

theorem bytes_eq (s : String) : bytes s = s.toList.flatMap String.utf8EncodeChar := by
  have hbytes : s.toUTF8 = s.toList.utf8Encode := by
    rw [String.utf8Encode_toList]
    rfl
  rw [bytes, hbytes, List.utf8Encode, List.data_toByteArray]

theorem cons_lt_cons_iff {x y : UInt8} {xs ys : List UInt8} :
    x :: xs < y :: ys ↔ x.toNat < y.toNat ∨ x.toNat = y.toNat ∧ xs < ys := by
  rw [List.cons_lt_cons_iff, UInt8.lt_iff_toNat_lt, UInt8.toNat_inj]

/-- The bytes of a smaller character come first, whatever follows the two. -/
theorem utf8EncodeChar_append_lt {c d : Char} (h : c < d) (more more' : List UInt8) :
    String.utf8EncodeChar c ++ more < String.utf8EncodeChar d ++ more' := by
  have hlt : c.val.toNat < d.val.toNat := h
  have hbound : d.val.toNat < 0x110000 := by
    have hvalid := d.valid
    simp only [UInt32.isValidChar, Nat.isValidChar] at hvalid
    omega
  unfold String.utf8EncodeChar
  dsimp only
  generalize c.val.toNat = m at *
  generalize d.val.toNat = n at *
  -- The first of the digits to the base 64 that differ decides, as it does among the bytes.
  have hdigits : m / 262144 < n / 262144 ∨ m / 262144 = n / 262144 ∧
      (m / 4096 < n / 4096 ∨ m / 4096 = n / 4096 ∧
        (m / 64 < n / 64 ∨ m / 64 = n / 64 ∧ m % 64 < n % 64)) := by
    omega
  by_cases hlarge : 0xffff < m
  · -- Both have four bytes, one for each digit.
    simp only [Nat.not_le.mpr (show 0x7f < m by omega), Nat.not_le.mpr (show 0x7f < n by omega),
      Nat.not_le.mpr (show 0x7ff < m by omega), Nat.not_le.mpr (show 0x7ff < n by omega),
      Nat.not_le.mpr hlarge, Nat.not_le.mpr (show 0xffff < n by omega), if_false,
      List.cons_append, List.nil_append, cons_lt_cons_iff, UInt8.toNat_ofNat']
    rcases hdigits with h | ⟨hfirst, h | ⟨hsecond, h | ⟨hthird, h⟩⟩⟩
    · exact .inl (by omega)
    · exact .inr ⟨by omega, .inl (by omega)⟩
    · exact .inr ⟨by omega, .inr ⟨by omega, .inl (by omega)⟩⟩
    · exact .inr ⟨by omega, .inr ⟨by omega, .inr ⟨by omega, .inl (by omega)⟩⟩⟩
  · repeat' split
    all_goals simp only [List.cons_append, List.nil_append, cons_lt_cons_iff, UInt8.toNat_ofNat']
    all_goals omega

theorem flatMap_utf8EncodeChar_lt {cs ds : List Char} (h : cs < ds) :
    cs.flatMap String.utf8EncodeChar < ds.flatMap String.utf8EncodeChar := by
  induction h with
  | @nil d ds =>
      cases hd : String.utf8EncodeChar d with
      | nil =>
          have hsize := d.utf8Size_pos
          rw [← String.length_utf8EncodeChar, hd] at hsize
          cases hsize
      | cons x xs =>
          rw [List.flatMap_nil, List.flatMap_cons, hd]
          exact List.nil_lt_cons _ _
  | rel h =>
      rw [List.flatMap_cons, List.flatMap_cons]
      exact utf8EncodeChar_append_lt h _ _
  | cons _ ih =>
      rw [List.flatMap_cons, List.flatMap_cons]
      exact List.append_left_lt ih

/-- Texts are in the order of their bytes. -/
theorem lt_iff_bytes_lt {s t : String} : s < t ↔ bytes s < bytes t := by
  rw [bytes_eq, bytes_eq]
  constructor
  · exact flatMap_utf8EncodeChar_lt
  · intro h
    have hnot : ¬ t.toList < s.toList := fun hgt =>
      List.lt_asymm h (flatMap_utf8EncodeChar_lt hgt)
    rcases List.le_iff_lt_or_eq.mp (List.not_lt.mp hnot) with hlt | heq
    · exact hlt
    · rw [heq] at h
      exact absurd h (List.lt_irrefl _)

end Courier.Text
