import Mathlib.Data.Char
import Mathlib.Tactic.SplitIfs
import PosixRegistry.Text.Utf8

/-!
# Text — the bytes of a text

The bytes of a text are the UTF-8 encodings of its characters, one after the other
(`utf8Bytes_eq_flatMap`).  The encoding keeps order: a character with a smaller code point
has an encoding that is smaller at its first differing byte, whatever follows either one
(`utf8EncodeChar_append_lt`).  So ordering texts by their characters, as the library's `<`
does, is ordering them byte by byte (`lt_iff_utf8Bytes_lt`, `le_iff_utf8Bytes_le`).
-/

namespace PosixRegistry.Text

theorem toList_loop (bs : ByteArray) (i : Nat) (r : List UInt8) :
    ByteArray.toList.loop bs i r = r.reverse ++ bs.data.toList.drop i := by
  fun_induction ByteArray.toList.loop bs i r with
  | case1 i r h ih =>
    have hi : i < bs.data.toList.length := by simpa using h
    rw [ih, List.drop_eq_getElem_cons hi]
    simp [ByteArray.get!, getElem!_pos bs.data i (by simpa using h)]
  | case2 i r h =>
    have : bs.data.toList.length ≤ i := by simp; omega
    simp [List.drop_eq_nil_of_le this]

theorem toList_eq_toList_data (bs : ByteArray) : bs.toList = bs.data.toList := by
  simp [ByteArray.toList, toList_loop]

/-- The bytes of a text are the encodings of its characters in turn. -/
theorem utf8Bytes_eq_flatMap (s : String) :
    utf8Bytes s = s.toList.flatMap String.utf8EncodeChar := by
  rw [utf8Bytes, toList_eq_toList_data, String.toUTF8_eq_toByteArray, ← String.utf8Encode_toList,
    List.utf8Encode, List.toList_data_toByteArray]

theorem utf8Bytes_append (s t : String) : utf8Bytes (s ++ t) = utf8Bytes s ++ utf8Bytes t := by
  simp [utf8Bytes_eq_flatMap]

theorem char_toNat_lt (c : Char) : c.val.toNat < 0x110000 := by
  have h := c.valid
  simp only [UInt32.isValidChar, Nat.isValidChar] at h
  omega

/-- **UTF-8 keeps order**: the encoding of a smaller code point is smaller at a byte where the
two encodings differ, so it stays smaller whatever follows either. -/
theorem utf8EncodeChar_append_lt {c d : Char} (h : c < d) (r s : List UInt8) :
    String.utf8EncodeChar c ++ r < String.utf8EncodeChar d ++ s := by
  have hv : c.val.toNat < d.val.toNat := h
  have hc := char_toNat_lt c
  have hd := char_toNat_lt d
  -- base-64 digits of both code points, for the encodings of equal length
  have digits : ∀ n : Nat, n = 64 * (n / 64) + n % 64 ∧ n / 64 = 64 * (n / 4096) + n / 64 % 64 ∧
      n / 4096 = 64 * (n / 262144) + n / 4096 % 64 := fun n => by omega
  have hcd := digits c.val.toNat
  have hdd := digits d.val.toNat
  unfold String.utf8EncodeChar
  dsimp only
  -- one case per pair of lengths; the lexicographic comparison becomes arithmetic on the bytes
  split_ifs <;> simp only [List.cons_append, List.nil_append, List.cons_lt_cons_iff,
    UInt8.lt_iff_toNat_lt, ← UInt8.toNat_inj, UInt8.toNat_ofNat'] <;>
    simp (disch := omega) only [Nat.mod_eq_of_lt] <;> omega

theorem append_left_lt_iff {l r s : List UInt8} : l ++ r < l ++ s ↔ r < s := by
  induction l with
  | nil => rfl
  | cons b l ih => simp [ih]

theorem flatMap_utf8EncodeChar_ne_nil {l : List Char} (h : l ≠ []) :
    l.flatMap String.utf8EncodeChar ≠ [] := by
  obtain ⟨c, l, rfl⟩ := List.exists_cons_of_ne_nil h
  simp

/-- Character lists compare as their encodings do. -/
theorem lt_iff_flatMap_lt (l m : List Char) :
    l < m ↔ l.flatMap String.utf8EncodeChar < m.flatMap String.utf8EncodeChar := by
  induction l generalizing m with
  | nil =>
    cases m with
    | nil => simp
    | cons d m =>
      simp only [List.nil_lt_cons, List.flatMap_nil, true_iff]
      obtain ⟨b, bs, hb⟩ := List.exists_cons_of_ne_nil
        (flatMap_utf8EncodeChar_ne_nil (List.cons_ne_nil d m))
      rw [hb]
      exact List.nil_lt_cons b bs
  | cons c l ih =>
    cases m with
    | nil => simp
    | cons d m =>
      simp only [List.flatMap_cons, List.cons_lt_cons_iff]
      rcases lt_trichotomy c d with hcd | rfl | hdc
      · simp [hcd, utf8EncodeChar_append_lt hcd]
      · simp [append_left_lt_iff, ih]
      · -- the other character is smaller, and so are its bytes
        have hgt := utf8EncodeChar_append_lt hdc (m.flatMap String.utf8EncodeChar)
          (l.flatMap String.utf8EncodeChar)
        simp only [Char.lt_asymm hdc, false_or, (Char.ne_of_lt hdc).symm, false_and, false_iff]
        exact List.lt_asymm hgt

/-- **Texts compare byte by byte**: the order of texts by code points is the order of their
UTF-8 bytes. -/
theorem lt_iff_utf8Bytes_lt (s t : String) : s < t ↔ utf8Bytes s < utf8Bytes t := by
  rw [utf8Bytes_eq_flatMap, utf8Bytes_eq_flatMap, String.lt_iff]
  exact lt_iff_flatMap_lt s.toList t.toList

theorem le_iff_utf8Bytes_le (s t : String) : s ≤ t ↔ utf8Bytes s ≤ utf8Bytes t := by
  rw [← String.not_lt, ← List.not_lt, lt_iff_utf8Bytes_lt]

end PosixRegistry.Text
