/-!
# Decimal integers

Reading a decimal integer of a fixed width the way the standard library of the service reads
one: an optional sign (`-` only for signed widths), then digits. The characters are read left
to right and the first problem found is the one reported: a character that is not a digit, or
a value that leaves the range. A lone sign is a bad digit; an empty text is its own fault.
-/

namespace PosixRegistry.Text

/-- Why a text is not an integer of the width asked for. -/
inductive IntFault where
  | empty
  | invalidDigit
  | tooLarge
  | tooSmall
  deriving DecidableEq, Repr

/-- The wording of a fault. -/
def IntFault.message : IntFault → String
  | .empty => "cannot parse integer from empty string"
  | .invalidDigit => "invalid digit found in string"
  | .tooLarge => "number too large to fit in target type"
  | .tooSmall => "number too small to fit in target type"

/-- Accumulates digits into a magnitude that must stay within a bound. -/
def digitsWithin (bound : Nat) (overflow : IntFault) : Nat → List Char → Except IntFault Nat
  | acc, [] => .ok acc
  | acc, c :: cs =>
    if c.isDigit then
      let next := 10 * acc + (c.toNat - '0'.toNat)
      if next ≤ bound then digitsWithin bound overflow next cs else .error overflow
    else .error .invalidDigit

/-- Reads an integer of `bits` bits, signed or not. -/
def readInteger (signed : Bool) (bits : Nat) (s : String) : Except IntFault Int :=
  let top : Nat := if signed then Nat.pow 2 (bits - 1) - 1 else Nat.pow 2 bits - 1
  match s.toList with
  | [] => .error .empty
  | ['+'] | ['-'] => .error .invalidDigit
  | '+' :: ds => Int.ofNat <$> digitsWithin top .tooLarge 0 ds
  | '-' :: ds =>
    if signed then (fun n => -Int.ofNat n) <$> digitsWithin (top + 1) .tooSmall 0 ds
    else .error .invalidDigit
  | ds => Int.ofNat <$> digitsWithin top .tooLarge 0 ds

/-- Reads a signed 64-bit integer. -/
def readInt64 (s : String) : Except IntFault Int := readInteger true 64 s

end PosixRegistry.Text
