import Mathlib
import PosixRegistry.Text.Decimal

/-!
# Text — decimal integers read back what they print

A printed natural number is a list of decimal digits whose value, read left to right, is the
number (`digitsValue_toDigits`); the digits of `n` are those of `n / 10` and then the digit of
`n % 10`.  Reading digits against a bound only ever sees values up to the whole one, so digits
whose whole value is within the bound read without refusal (`digitsWithin_eq`).

Hence a signed 64-bit integer reads back from its printed text (`readInt64_toString`), the
smallest one included: its magnitude `2^63` is the bound a minus sign allows.
-/

namespace PosixRegistry.Text

/-- The number decimal digits stand for, read left to right after the value `acc`. -/
def digitsValue (acc : Nat) (ds : List Char) : Nat :=
  ds.foldl (fun a c => 10 * a + (c.toNat - '0'.toNat)) acc

theorem digitsValue_cons (acc : Nat) (c : Char) (ds : List Char) :
    digitsValue acc (c :: ds) = digitsValue (10 * acc + (c.toNat - '0'.toNat)) ds :=
  List.foldl_cons ..

theorem digitsValue_append (acc : Nat) (ds es : List Char) :
    digitsValue acc (ds ++ es) = digitsValue (digitsValue acc ds) es :=
  List.foldl_append

/-- Reading more digits never makes the value smaller. -/
theorem le_digitsValue (acc : Nat) (ds : List Char) : acc ≤ digitsValue acc ds := by
  induction ds generalizing acc with
  | nil => exact Nat.le_refl acc
  | cons c ds ih =>
    rw [digitsValue_cons]
    exact Nat.le_trans (by omega) (ih _)

/-- **The digits of a number stand for it.** -/
theorem digitsValue_toDigits (n : Nat) : digitsValue 0 (Nat.toDigits 10 n) = n := by
  induction n using Nat.strongRecOn with
  | ind n ih =>
    by_cases h : n < 10
    · rw [Nat.toDigits_of_lt_base h]
      simp [digitsValue, Nat.toNat_digitChar_sub_48_of_lt_ten h]
    · -- the digits of `n / 10`, then the last digit
      rw [Nat.toDigits_of_base_le (by omega) (by omega), digitsValue_append, ih (n / 10) (by omega)]
      have h0 : '0'.toNat = 48 := rfl
      simp only [digitsValue, List.foldl_cons, List.foldl_nil, h0,
        Nat.toNat_digitChar_sub_48_of_lt_ten (Nat.mod_lt n (by omega : 10 > 0))]
      omega

theorem toDigits_ne_nil (n : Nat) : Nat.toDigits 10 n ≠ [] :=
  List.ne_nil_of_length_pos Nat.length_toDigits_pos

theorem isDigit_of_mem_toDigits {n : Nat} {c : Char} (h : c ∈ Nat.toDigits 10 n) : c.isDigit :=
  Nat.isDigit_of_mem_toDigits (by decide) (by decide) h

/-- Digits whose whole value is within the bound read to it: every value on the way is at most
the whole one. -/
theorem digitsWithin_eq {bound : Nat} {overflow : IntFault} {acc : Nat} {ds : List Char}
    (hd : ∀ c ∈ ds, c.isDigit) (hb : digitsValue acc ds ≤ bound) :
    digitsWithin bound overflow acc ds = .ok (digitsValue acc ds) := by
  induction ds generalizing acc with
  | nil => rfl
  | cons c ds ih =>
    rw [digitsValue_cons] at hb ⊢
    have hnext := le_digitsValue (10 * acc + (c.toNat - '0'.toNat)) ds
    simp only [digitsWithin, hd c List.mem_cons_self, if_true]
    rw [if_pos (by omega)]
    exact ih (fun d hmem => hd d (List.mem_cons_of_mem c hmem)) hb

theorem digitsWithin_toDigits {bound n : Nat} {overflow : IntFault} (h : n ≤ bound) :
    digitsWithin bound overflow 0 (Nat.toDigits 10 n) = .ok n := by
  rw [digitsWithin_eq (fun _ => isDigit_of_mem_toDigits) (by rw [digitsValue_toDigits]; exact h),
    digitsValue_toDigits]

/-- **A signed 64-bit integer reads back from its printed text.** -/
theorem readInt64_toString {i : Int} (hlo : -2 ^ 63 ≤ i) (hhi : i < 2 ^ 63) :
    readInt64 (toString i) = .ok i := by
  obtain ⟨d, ds, hds⟩ := List.exists_cons_of_ne_nil (toDigits_ne_nil i.natAbs)
  have hdigit : d.isDigit := isDigit_of_mem_toDigits (hds ▸ List.mem_cons_self)
  have hplus : d ≠ '+' := fun h => by subst h; exact absurd hdigit (by decide)
  have hminus : d ≠ '-' := fun h => by subst h; exact absurd hdigit (by decide)
  unfold readInt64 readInteger
  cases i with
  | ofNat n =>
    have htext : (toString (Int.ofNat n)).toList = d :: ds := by
      show (Nat.repr n).toList = _
      simpa [Nat.repr] using hds
    have hn : n ≤ Nat.pow 2 63 - 1 := by
      have htop : Nat.pow 2 63 = 9223372036854775808 := rfl
      simp at hhi; omega
    simp only [htext]
    -- the text starts with a digit: only the last pattern matches
    split
    all_goals first | (exfalso; simp_all; done) | skip
    rw [← hds, if_pos trivial]
    simp only [Int.natAbs_ofNat', digitsWithin_toDigits hn]
    rfl
  | negSucc m =>
    have htext : (toString (Int.negSucc m)).toList = '-' :: d :: ds := by
      show ("-" ++ Nat.repr (m + 1)).toList = _
      simpa [Nat.repr] using hds
    have hm : m + 1 ≤ Nat.pow 2 63 - 1 + 1 := by
      have htop : Nat.pow 2 63 = 9223372036854775808 := rfl
      simp at hlo; omega
    simp only [htext]
    -- a minus sign and then a digit: only the pattern of a negative number matches
    rw [← hds, if_pos trivial, if_pos trivial]
    simp only [Int.natAbs_negSucc, digitsWithin_toDigits hm]
    rfl

end PosixRegistry.Text
