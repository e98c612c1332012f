/-!
# Reading bytes as UTF-8

Two readings of a byte list: the strict one, which refuses any ill-formed byte, and the lossy
one, which keeps every well-formed sequence and puts one replacement character `U+FFFD` in
place of each maximal ill-formed part (the longest start of a sequence that could still have
become well-formed, or one lone byte). That is the replacement rule of the Unicode standard.
-/

namespace PosixRegistry.Text

/-- Whether a byte continues a sequence. -/
def isContinuation (b : UInt8) : Bool := 0x80 ≤ b && b ≤ 0xBF

/-- The sequence at the head of the bytes: `(true, n)` for a well-formed sequence of `n`
bytes, `(false, n)` for a maximal ill-formed part of `n` bytes. -/
def headRun : List UInt8 → Bool × Nat
  | [] => (false, 1)
  | b :: r =>
    if b ≤ 0x7F then (true, 1)
    else if 0xC2 ≤ b ∧ b ≤ 0xDF then
      match r with
      | c :: _ => if isContinuation c then (true, 2) else (false, 1)
      | [] => (false, 1)
    else if 0xE0 ≤ b ∧ b ≤ 0xEF then
      let lo : UInt8 := if b = 0xE0 then 0xA0 else 0x80
      let hi : UInt8 := if b = 0xED then 0x9F else 0xBF
      match r with
      | c1 :: r1 =>
        if c1 < lo ∨ hi < c1 then (false, 1)
        else match r1 with
          | c2 :: _ => if isContinuation c2 then (true, 3) else (false, 2)
          | [] => (false, 2)
      | [] => (false, 1)
    else if 0xF0 ≤ b ∧ b ≤ 0xF4 then
      let lo : UInt8 := if b = 0xF0 then 0x90 else 0x80
      let hi : UInt8 := if b = 0xF4 then 0x8F else 0xBF
      match r with
      | c1 :: r1 =>
        if c1 < lo ∨ hi < c1 then (false, 1)
        else match r1 with
          | c2 :: r2 =>
            if !isContinuation c2 then (false, 2)
            else match r2 with
              | c3 :: _ => if isContinuation c3 then (true, 4) else (false, 3)
              | [] => (false, 3)
          | [] => (false, 2)
      | [] => (false, 1)
    else (false, 1)

/-- The code point of a well-formed sequence. -/
def codePoint : List UInt8 → Nat
  | [b] => b.toNat
  | [b0, b1] => (b0.toNat % 32) * 64 + b1.toNat % 64
  | [b0, b1, b2] => (b0.toNat % 16) * 4096 + (b1.toNat % 64) * 64 + b2.toNat % 64
  | [b0, b1, b2, b3] =>
    (b0.toNat % 8) * 262144 + (b1.toNat % 64) * 4096 + (b2.toNat % 64) * 64 + b3.toNat % 64
  | _ => 0xFFFD

/-- The characters of bytes, each maximal ill-formed part read as `U+FFFD`. -/
def lossyChars (bs : List UInt8) : List Char :=
  match bs with
  | [] => []
  | b :: r =>
    let (ok, n) := headRun (b :: r)
    let c := if ok then Char.ofNat (codePoint ((b :: r).take n)) else '�'
    c :: lossyChars ((b :: r).drop (max n 1))
termination_by bs.length
decreasing_by simp only [List.length_drop, List.length_cons]; omega

/-- Bytes read as UTF-8, each maximal ill-formed part replaced by `U+FFFD`. -/
def decodeLossy (bs : List UInt8) : String := String.ofList (lossyChars bs)

/-- Bytes read as UTF-8, if they are well-formed. -/
def decodeStrict? (bs : List UInt8) : Option String := String.fromUTF8? (ByteArray.mk bs.toArray)

/-- The bytes of a text. -/
def utf8Bytes (s : String) : List UInt8 := s.toUTF8.toList

end PosixRegistry.Text
