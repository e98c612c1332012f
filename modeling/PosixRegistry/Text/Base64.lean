/-!
# URL-safe base64 without padding

Bytes are written six bits to a character from the URL-safe alphabet (`-` and `_` for 62 and
63), with no padding. Reading is strict: only alphabet characters, no padding, no lone final
character, and the unused bits of the last character must be zero.
-/

namespace PosixRegistry.Text

/-- The character of a six-bit value. -/
def base64Char (n : Nat) : Char :=
  if n < 26 then Char.ofNat ('A'.toNat + n)
  else if n < 52 then Char.ofNat ('a'.toNat + (n - 26))
  else if n < 62 then Char.ofNat ('0'.toNat + (n - 52))
  else if n = 62 then '-' else '_'

/-- The six-bit value of a character, if it is in the alphabet. -/
def base64Value (c : Char) : Option Nat :=
  if 'A' ≤ c ∧ c ≤ 'Z' then some (c.toNat - 'A'.toNat)
  else if 'a' ≤ c ∧ c ≤ 'z' then some (c.toNat - 'a'.toNat + 26)
  else if '0' ≤ c ∧ c ≤ '9' then some (c.toNat - '0'.toNat + 52)
  else if c = '-' then some 62
  else if c = '_' then some 63
  else none

/-- Writes bytes, three to four characters; a final one or two bytes take two or three. -/
def base64Encode : List UInt8 → String
  | a :: b :: c :: rest =>
    let n := a.toNat * 65536 + b.toNat * 256 + c.toNat
    String.ofList [base64Char (n / 262144), base64Char (n / 4096 % 64), base64Char (n / 64 % 64),
      base64Char (n % 64)] ++ base64Encode rest
  | [a, b] =>
    let n := a.toNat * 65536 + b.toNat * 256
    String.ofList [base64Char (n / 262144), base64Char (n / 4096 % 64), base64Char (n / 64 % 64)]
  | [a] =>
    let n := a.toNat * 65536
    String.ofList [base64Char (n / 262144), base64Char (n / 4096 % 64)]
  | [] => ""

/-- Reads six-bit values four at a time. -/
def base64Groups : List Nat → Option (List UInt8)
  | a :: b :: c :: d :: rest =>
    let n := a * 262144 + b * 4096 + c * 64 + d
    (base64Groups rest).map fun tail =>
      [UInt8.ofNat (n / 65536), UInt8.ofNat (n / 256 % 256), UInt8.ofNat (n % 256)] ++ tail
  | [a, b, c] =>
    let n := a * 262144 + b * 4096 + c * 64
    if n % 256 = 0 then some [UInt8.ofNat (n / 65536), UInt8.ofNat (n / 256 % 256)] else none
  | [a, b] =>
    let n := a * 262144 + b * 4096
    if n % 65536 = 0 then some [UInt8.ofNat (n / 65536)] else none
  | [_] => none
  | [] => some []

/-- Reads a text strictly. -/
def base64Decode (s : String) : Option (List UInt8) := do
  let values ← s.toList.mapM base64Value
  base64Groups values

end PosixRegistry.Text
