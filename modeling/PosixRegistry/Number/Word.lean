/-!
# Machine words

Unsigned 64-bit and 32-bit words as natural numbers below their modulus, with the arithmetic a
machine does on them: addition and subtraction wrap around, conversion from a wider or signed
number keeps the low bits. Signed 64-bit integers wrap the same way into their range.

Token expiry and the rate limiter's clock are computed this way, so a very large leeway or
rate wraps instead of growing without bound.
-/

namespace PosixRegistry.Number

/-- The number of 64-bit words, `2^64`. -/
def wordModulus : Nat := 18446744073709551616

/-- The number of 32-bit words, `2^32`. -/
def halfWordModulus : Nat := 4294967296

/-- A number as a 64-bit word: its low 64 bits, two's complement for a negative one. -/
def Word.ofInt (i : Int) : Nat := (i % (wordModulus : Int)).toNat

/-- The sum of two words, wrapped. -/
def Word.add (a b : Nat) : Nat := (a + b) % wordModulus

/-- The difference of two words, wrapped. -/
def Word.sub (a b : Nat) : Nat := (a + (wordModulus - b % wordModulus)) % wordModulus

/-- The product of two words, wrapped. -/
def Word.mul (a b : Nat) : Nat := (a * b) % wordModulus

/-- A number as a 32-bit word: its low 32 bits. -/
def HalfWord.ofNat (n : Nat) : Nat := n % halfWordModulus

/-- A signed 64-bit integer wrapped into `[-2^63, 2^63)`. -/
def Int64.wrap (i : Int) : Int :=
  let w := Word.ofInt i
  if w < 9223372036854775808 then w else (w : Int) - wordModulus

/-- Whether an integer is a signed 64-bit one, in `[-2^63, 2^63)`. -/
def Int64.Fits (i : Int) : Prop := -9223372036854775808 ≤ i ∧ i < 9223372036854775808

theorem Word.add_lt (a b : Nat) : Word.add a b < wordModulus :=
  Nat.mod_lt _ (by decide)

theorem Word.sub_lt (a b : Nat) : Word.sub a b < wordModulus :=
  Nat.mod_lt _ (by decide)

theorem Word.sub_of_le {a b : Nat} (h : b ≤ a) (ha : a < wordModulus) : Word.sub a b = a - b := by
  unfold Word.sub
  have hb : b % wordModulus = b := Nat.mod_eq_of_lt (by omega)
  rw [hb, show a + (wordModulus - b) = (a - b) + wordModulus by omega, Nat.add_mod_right]
  exact Nat.mod_eq_of_lt (by omega)

end PosixRegistry.Number
