import PosixRegistry.Json.Fault
/-!
# Reading JSON text

A strict reader over the bytes of a text. It keeps the line and column of the next byte, and
reports a fault either at the place it has reached (after the byte that gave it away) or one
byte further, when it only looked at the next byte — the two places a strict reader of JSON
names.

Blanks are space, tab, line feed and carriage return. A string may not hold a control
character, and its escapes are the eight short ones and `\uXXXX`, a leading surrogate needing
its trailing partner. A number is an optional minus, an integer part without a leading zero,
then an optional fraction and exponent. An integer without fraction or exponent that fits a
machine word stays exact; `-0` and every other number become a double, computed as the
significand times or divided by the power of ten, each step rounded, and refused when the
product overflows. Nesting of arrays and objects is limited to 127 levels.

Each loop runs on a budget of steps equal to the bytes left, and each step reads a byte.
-/

namespace PosixRegistry.Json

open PosixRegistry.Number

/-- Where a reader stands: the bytes still to read, and the line (from 1) and column (bytes
since the last line feed) of the next one. -/
structure Cursor where
  rest : List UInt8
  line : Nat := 1
  col : Nat := 0

namespace Cursor

/-- A reader at the start of some bytes. -/
def ofBytes (bs : List UInt8) : Cursor := ⟨bs, 1, 0⟩

/-- A reader at the start of a text. -/
def ofString (s : String) : Cursor := ofBytes s.toUTF8.toList

/-- The place the reader has reached. -/
def here (c : Cursor) : Pos := ⟨c.line, c.col⟩

/-- The place one byte further, or the end of the text. -/
def ahead (c : Cursor) : Pos :=
  match c.rest with
  | [] => c.here
  | b :: _ => if b = 10 then ⟨c.line + 1, 0⟩ else ⟨c.line, c.col + 1⟩

/-- The next byte, if any. -/
def peek (c : Cursor) : Option UInt8 := c.rest.head?

/-- The reader after the next byte. -/
def bump (c : Cursor) : Cursor :=
  match c.rest with
  | [] => c
  | b :: r => if b = 10 then ⟨r, c.line + 1, 0⟩ else ⟨r, c.line, c.col + 1⟩

/-- The reader after `n` more bytes. -/
def advance : Nat → Cursor → Cursor
  | 0, c => c
  | n + 1, c => advance n c.bump

/-- The number of bytes left, the budget of a loop that reads one byte a step. -/
def budget (c : Cursor) : Nat := c.rest.length + 1

/-- The reader after the blanks ahead. -/
def skipBlank (c : Cursor) : Cursor :=
  match h : c.rest with
  | b :: r =>
    if b = 0x20 ∨ b = 0x09 ∨ b = 0x0D then skipBlank ⟨r, c.line, c.col + 1⟩
    else if b = 0x0A then skipBlank ⟨r, c.line + 1, 0⟩
    else c
  | [] => c
termination_by c.rest.length
decreasing_by all_goals simp [h]

end Cursor

/-- A text fault at the place reached. -/
def failHere {α : Type} (f : SyntaxFault) (c : Cursor) : Except Fault α :=
  .error (Fault.text f c.here)

/-- A text fault one byte further. -/
def failAhead {α : Type} (f : SyntaxFault) (c : Cursor) : Except Fault α :=
  .error (Fault.text f c.ahead)

/-- Whether a byte is a decimal digit. -/
def isDigit (b : UInt8) : Bool := 0x30 ≤ b ∧ b ≤ 0x39

/-- The value of a hexadecimal digit. -/
def hexValue (b : UInt8) : Option Nat :=
  if 0x30 ≤ b ∧ b ≤ 0x39 then some (b.toNat - 0x30)
  else if 0x61 ≤ b ∧ b ≤ 0x66 then some (b.toNat - 0x61 + 10)
  else if 0x41 ≤ b ∧ b ≤ 0x46 then some (b.toNat - 0x41 + 10)
  else none

/-- The UTF-8 bytes of a code point. -/
def utf8Bytes (n : Nat) : List UInt8 :=
  if n < 0x80 then [n.toUInt8]
  else if n < 0x800 then [(0xC0 + n / 64).toUInt8, (0x80 + n % 64).toUInt8]
  else if n < 0x10000 then
    [(0xE0 + n / 4096).toUInt8, (0x80 + n / 64 % 64).toUInt8, (0x80 + n % 64).toUInt8]
  else
    [(0xF0 + n / 262144).toUInt8, (0x80 + n / 4096 % 64).toUInt8,
     (0x80 + n / 64 % 64).toUInt8, (0x80 + n % 64).toUInt8]

/-! ### Literals -/

/-- Reads the rest of a literal word (`ull` of `null`), byte by byte. -/
def readWord : List UInt8 → Cursor → Except Fault Cursor
  | [], c => .ok c
  | w :: ws, c =>
    match c.peek with
    | none => failHere .eofValue c
    | some b => if b = w then readWord ws c.bump else failHere .expectedIdent c.bump

/-! ### Strings -/

/-- Four hexadecimal digits of a `\u` escape. -/
def readHex4 (c : Cursor) : Except Fault (Nat × Cursor) :=
  match c.rest with
  | a :: b :: d :: e :: _ =>
    let c' := c.advance 4
    match hexValue a, hexValue b, hexValue d, hexValue e with
    | some a, some b, some d, some e => .ok (((a * 16 + b) * 16 + d) * 16 + e, c')
    | _, _, _, _ => failHere .invalidEscape c'
  | _ => failHere .eofString (c.advance c.rest.length)

/-- The rest of a `\u` escape: one code point, a leading surrogate with its partner. -/
def readUnicode (c : Cursor) : Except Fault (List UInt8 × Cursor) := do
  let (n, c) ← readHex4 c
  if 0xDC00 ≤ n ∧ n ≤ 0xDFFF then failHere .loneLeadingSurrogate c
  else if n < 0xD800 ∨ 0xDBFF < n then pure (utf8Bytes n, c)
  else
    match c.peek with
    | none => failHere .eofString c
    | some b =>
      if b ≠ 0x5C then failHere .unexpectedEndOfHexEscape c.bump else
      let c := c.bump
      match c.peek with
      | none => failHere .eofString c
      | some b =>
        if b ≠ 0x75 then failHere .unexpectedEndOfHexEscape c.bump else
        let (n2, c) ← readHex4 c.bump
        if n2 < 0xDC00 ∨ 0xDFFF < n2 then failHere .loneLeadingSurrogate c
        else pure (utf8Bytes (0x10000 + (n - 0xD800) * 1024 + (n2 - 0xDC00)), c)

/-- The byte an escape letter stands for, for the seven short escapes other than `\u`. -/
def shortEscape (b : UInt8) : Option UInt8 :=
  if b = 0x22 then some 0x22 else if b = 0x5C then some 0x5C else if b = 0x2F then some 0x2F
  else if b = 0x62 then some 0x08 else if b = 0x66 then some 0x0C else if b = 0x6E then some 0x0A
  else if b = 0x72 then some 0x0D else if b = 0x74 then some 0x09 else none

/-- An escape after its backslash. -/
def readEscape (c : Cursor) : Except Fault (List UInt8 × Cursor) :=
  match c.peek with
  | none => failHere .eofString c
  | some b =>
    match shortEscape b with
    | some e => .ok ([e], c.bump)
    | none => if b = 0x75 then readUnicode c.bump else failHere .invalidEscape c.bump

/-- The bytes of a string up to its closing quote, escapes resolved (in reverse in `acc`). -/
def readStrBytes : Nat → List UInt8 → Cursor → Except Fault (List UInt8 × Cursor)
  | 0, _, c => failHere .eofString c
  | fuel + 1, acc, c =>
    match c.peek with
    | none => failHere .eofString c
    | some b =>
      if b = 0x22 then .ok (acc.reverse, c.bump)
      else if b = 0x5C then do
        let (bs, c') ← readEscape c.bump
        readStrBytes fuel (bs.reverse ++ acc) c'
      else if b < 0x20 then failHere .controlChar c.bump
      else readStrBytes fuel (b :: acc) c.bump

/-- A string after its opening quote. -/
def readStr (c : Cursor) : Except Fault (String × Cursor) := do
  let (bs, c) ← readStrBytes c.budget [] c
  match String.fromUTF8? (ByteArray.mk bs.toArray) with
  | some s => pure (s, c)
  | none => failHere .invalidCodePoint c

/-- Passes over an escape after its backslash, without judging a `\u` code point. -/
def skipEscape (c : Cursor) : Except Fault Cursor :=
  match c.peek with
  | none => failHere .eofString c
  | some b =>
    match shortEscape b with
    | some _ => .ok c.bump
    | none => if b = 0x75 then (readHex4 c.bump).map (·.2) else failHere .invalidEscape c.bump

/-- Passes over a string after its opening quote. A control character is reported where it
stands, not after it. -/
def skipStr : Nat → Cursor → Except Fault Cursor
  | 0, c => failHere .eofString c
  | fuel + 1, c =>
    match c.peek with
    | none => failHere .eofString c
    | some b =>
      if b = 0x22 then .ok c.bump
      else if b = 0x5C then do skipStr fuel (← skipEscape c.bump)
      else if b < 0x20 then failHere .controlChar c
      else skipStr fuel c.bump

/-! ### Numbers -/

/-- A number as read: an exact word (non-negative, or negative), or a double. -/
inductive Scalar where
  | nat (n : Nat)
  | neg (i : Int)
  | float (x : Binary64)

/-- The value of a number read. -/
def Scalar.toValue : Scalar → Value
  | .nat n => .int n
  | .neg i => .int i
  | .float x => .float x

/-- What a number stands for in a message. -/
def Scalar.found : Scalar → Found
  | .nat n => .int n
  | .neg i => .int i
  | .float x => .float x

/-- The largest word. -/
def wordMax : Nat := 18446744073709551615

/-- The largest signed 32-bit number. -/
def int32Max : Nat := 2147483647

/-- The nearest double of each power of ten up to `10^308`. -/
def powerOfTen (i : Nat) : Binary64 := Binary64.ofNat false (Nat.pow 10 i)

/-- The double `± significand · 10^exponent`, computed as a strict reader does: the
significand rounded, then multiplied or divided by the power of ten (rounded), in steps of
`10^308` for larger exponents; refused when a product overflows. -/
def floatOfParts (positive : Bool) (significand : Nat) (exponent : Int) (c : Cursor) :
    Except Fault Binary64 :=
  let sign (x : Binary64) := if positive then x else x.negate
  let rec go : Nat → Binary64 → Int → Except Fault Binary64
    | 0, f, _ => .ok (sign f)
    | fuel + 1, f, e =>
      if e.natAbs ≤ 308 then
        if 0 ≤ e then
          match f.mul (powerOfTen e.natAbs) with
          | some g => .ok (sign g)
          | none => failHere .numberOutOfRange c
        else .ok (sign ((f.div (powerOfTen e.natAbs)).getD f))
      else if f.isZero then .ok (sign f)
      else if 0 ≤ e then failHere .numberOutOfRange c
      else go fuel ((f.div (powerOfTen 308)).getD f) (e + 308)
  go (exponent.natAbs / 308 + 1) (Binary64.ofNat false significand) exponent

/-- Passes over the digits ahead. -/
def skipDigits : Nat → Cursor → Cursor
  | 0, c => c
  | fuel + 1, c =>
    match c.peek with
    | some b => if isDigit b then skipDigits fuel c.bump else c
    | none => c

/-- The exponent part after `e`. -/
def readExponent (positive : Bool) (significand : Nat) (start : Int) (c : Cursor) :
    Except Fault (Scalar × Cursor) :=
  let c := c.bump
  let (positiveExp, c) :=
    match c.peek with
    | some 0x2B => (true, c.bump)
    | some 0x2D => (false, c.bump)
    | _ => (true, c)
  match c.peek with
  | none => failHere .eofValue c
  | some b =>
    let c := c.bump
    if !isDigit b then failHere .invalidNumber c else
    let rec go : Nat → Nat → Cursor → Except Fault (Scalar × Cursor)
      | 0, exp, c => finish positiveExp exp c
      | fuel + 1, exp, c =>
        match c.peek with
        | some d =>
          if isDigit d then
            let c := c.bump
            let exp' := exp * 10 + (d.toNat - 0x30)
            if int32Max < exp' then
              if significand ≠ 0 ∧ positiveExp then failHere .numberOutOfRange c
              else
                let c := skipDigits c.budget c
                .ok (.float (if positive then ⟨false, 0, 0⟩ else ⟨true, 0, 0⟩), c)
            else go fuel exp' c
          else finish positiveExp exp c
        | none => finish positiveExp exp c
    go c.budget (b.toNat - 0x30) c
where
  /-- The double once the exponent digits are read. -/
  finish (positiveExp : Bool) (exp : Nat) (c : Cursor) : Except Fault (Scalar × Cursor) :=
    let e : Int := if positiveExp then start + exp else start - exp
    let e := max (min e int32Max) (-2147483648 : Int)
    (floatOfParts positive significand e c).map fun x => (.float x, c)

/-- The fraction part after its point, then an exponent if one follows. Once the significand
would leave a word, the remaining digits are passed over; a fraction cut short that way counts
as having digits. -/
def readFraction (positive : Bool) (significand : Nat) (before : Int) (c : Cursor) :
    Except Fault (Scalar × Cursor) :=
  let c := c.bump
  let rec go : Nat → Nat → Int → Cursor → Nat × Int × Bool × Cursor
    | 0, s, after, c => (s, after, false, c)
    | fuel + 1, s, after, c =>
      match c.peek with
      | some d =>
        if isDigit d then
          let s' := s * 10 + (d.toNat - 0x30)
          if wordMax < s' then (s, after, true, skipDigits c.budget c)
          else go fuel s' (after - 1) c.bump
        else (s, after, false, c)
      | none => (s, after, false, c)
  let (s, after, cut, c) := go c.budget significand 0 c
  if after = 0 ∧ !cut then
    match c.peek with
    | some _ => failAhead .invalidNumber c
    | none => failAhead .eofValue c
  else
    match c.peek with
    | some 0x65 | some 0x45 => readExponent positive s (before + after) c
    | _ => (floatOfParts positive s (before + after) c).map fun x => (.float x, c)

/-- What follows the integer digits: a fraction, an exponent, or the end of the number. -/
def readNumberTail (positive : Bool) (significand : Nat) (c : Cursor) : Except Fault (Scalar × Cursor) :=
  match c.peek with
  | some 0x2E => readFraction positive significand 0 c
  | some 0x65 | some 0x45 => readExponent positive significand 0 c
  | _ =>
    if positive then .ok (.nat significand, c)
    else if significand = 0 ∨ Nat.pow 2 63 < significand then
      .ok (.float (Binary64.ofNat true significand), c)
    else .ok (.neg (-(significand : Int)), c)

/-- Digits beyond a word: counted as powers of ten, then a fraction or exponent. -/
def readLongInteger (positive : Bool) (significand : Nat) : Nat → Int → Cursor → Except Fault (Scalar × Cursor)
  | 0, exp, c => (floatOfParts positive significand exp c).map fun x => (.float x, c)
  | fuel + 1, exp, c =>
    match c.peek with
    | some d =>
      if isDigit d then readLongInteger positive significand fuel (exp + 1) c.bump
      else if d = 0x2E then readFraction positive significand exp c
      else if d = 0x65 ∨ d = 0x45 then readExponent positive significand exp c
      else (floatOfParts positive significand exp c).map fun x => (.float x, c)
    | none => (floatOfParts positive significand exp c).map fun x => (.float x, c)

/-- The integer digits after the first one. -/
def readDigits (positive : Bool) : Nat → Nat → Cursor → Except Fault (Scalar × Cursor)
  | 0, s, c => readNumberTail positive s c
  | fuel + 1, s, c =>
    match c.peek with
    | some d =>
      if isDigit d then
        let s' := s * 10 + (d.toNat - 0x30)
        if wordMax < s' then readLongInteger positive s c.budget 0 c
        else readDigits positive fuel s' c.bump
      else readNumberTail positive s c
    | none => readNumberTail positive s c

/-- A number from its first digit (the minus sign already read when `positive` is false). -/
def readNumber (positive : Bool) (c : Cursor) : Except Fault (Scalar × Cursor) :=
  match c.peek with
  | none => failHere .eofValue c
  | some b =>
    let c1 := c.bump
    if b = 0x30 then
      match c1.peek with
      | some d => if isDigit d then failAhead .invalidNumber c1 else readNumberTail positive 0 c1
      | none => readNumberTail positive 0 c1
    else if isDigit b then readDigits positive c1.budget (b.toNat - 0x30) c1
    else failHere .invalidNumber c1

/-- Passes over the exponent part from its `e`; a digit must follow the sign. -/
def skipExponent (c : Cursor) : Except Fault Cursor :=
  let c := c.bump
  let c := match c.peek with
    | some 0x2B | some 0x2D => c.bump
    | _ => c
  match c.peek with
  | some d => if isDigit d then .ok (skipDigits c.budget c.bump) else failHere .invalidNumber c.bump
  | none => failHere .invalidNumber c

/-- Passes over what follows the integer digits of a number. -/
def skipNumberTail (c : Cursor) : Except Fault Cursor :=
  match c.peek with
  | some 0x2E =>
    let c := c.bump
    match c.peek with
    | some d =>
      if isDigit d then
        let c := skipDigits c.budget c
        match c.peek with
        | some 0x65 | some 0x45 => skipExponent c
        | _ => .ok c
      else failAhead .invalidNumber c
    | none => failAhead .invalidNumber c
  | some 0x65 | some 0x45 => skipExponent c
  | _ => .ok c

/-- Passes over a number from its first digit (after the minus sign, if any), checking only
its form: its size is not judged. -/
def skipNumber (c : Cursor) : Except Fault Cursor :=
  match c.peek with
  | some 0x30 =>
    let c := c.bump
    match c.peek with
    | some d => if isDigit d then failAhead .invalidNumber c else skipNumberTail c
    | none => .ok c
  | some d =>
    if isDigit d then skipNumberTail (skipDigits c.budget c.bump)
    else failHere .invalidNumber c.bump
  | none => failHere .invalidNumber c

/-! ### Whole values -/

/-- The colon between a key and its value. -/
def readColon (c : Cursor) : Except Fault Cursor :=
  let c := c.skipBlank
  match c.peek with
  | some 0x3A => .ok c.bump
  | some _ => failAhead .expectedColon c
  | none => failAhead .eofObject c

/-- The close of an array whose items were all read. -/
def closeArray (c : Cursor) : Except Fault Cursor :=
  let c := c.skipBlank
  match c.peek with
  | some 0x5D => .ok c.bump
  | some 0x2C =>
    let c := c.bump.skipBlank
    match c.peek with
    | some 0x5D => failAhead .trailingComma c
    | _ => failAhead .trailingCharacters c
  | some _ => failAhead .trailingCharacters c
  | none => failAhead .eofList c

/-- The close of an object whose members were all read. -/
def closeObject (c : Cursor) : Except Fault Cursor :=
  let c := c.skipBlank
  match c.peek with
  | some 0x7D => .ok c.bump
  | some 0x2C => failAhead .trailingComma c
  | some _ => failAhead .trailingCharacters c
  | none => failAhead .eofObject c

/-- Where the next item of an array starts: `none` at the close, after a comma otherwise. -/
def nextItem (first : Bool) (c : Cursor) : Except Fault (Option Cursor) :=
  let c := c.skipBlank
  match c.peek with
  | some 0x5D => .ok none
  | some 0x2C =>
    if first then .ok (some c) else
    let c := c.bump.skipBlank
    match c.peek with
    | some 0x5D => failAhead .trailingComma c
    | some _ => .ok (some c)
    | none => failAhead .eofValue c
  | some _ => if first then .ok (some c) else failAhead .expectedListCommaOrEnd c
  | none => failAhead .eofList c

/-- The next key of an object: `none` at the close, the key and the reader after it
otherwise. -/
def nextKey (first : Bool) (c : Cursor) : Except Fault (Option (String × Cursor)) := do
  let c := c.skipBlank
  let c ← match c.peek with
    | some 0x7D => return none
    | some 0x2C => if first then pure c else pure c.bump.skipBlank
    | some _ => if first then pure c else failAhead .expectedObjectCommaOrEnd c
    | none => failAhead .eofObject c
  match c.peek with
  | some 0x22 => let (k, c) ← readStr c.bump; pure (some (k, c))
  | some 0x7D => failAhead .trailingComma c
  | some _ => failAhead .keyMustBeString c
  | none => failAhead .eofValue c

mutual

/-- A whole value, with `depth` levels of nesting still allowed. -/
def readValue (depth : Nat) (c : Cursor) : Except Fault (Value × Cursor) :=
  let c := c.skipBlank
  match c.peek with
  | none => failAhead .eofValue c
  | some b =>
    if b = 0x6E then (readWord [0x75, 0x6C, 0x6C] c.bump).map fun c => (.null, c)
    else if b = 0x74 then (readWord [0x72, 0x75, 0x65] c.bump).map fun c => (.bool true, c)
    else if b = 0x66 then
      (readWord [0x61, 0x6C, 0x73, 0x65] c.bump).map fun c => (.bool false, c)
    else if b = 0x2D then (readNumber false c.bump).map fun (n, c) => (n.toValue, c)
    else if isDigit b then (readNumber true c).map fun (n, c) => (n.toValue, c)
    else if b = 0x22 then (readStr c.bump).map fun (s, c) => (.str s, c)
    else if b = 0x5B then
      match depth with
      | 0 | 1 => failAhead .recursionLimit c
      | d + 1 => do
        let (items, c) ← readItems d c.bump.budget true [] c.bump
        let c ← closeArray c
        pure (.arr items, c)
    else if b = 0x7B then
      match depth with
      | 0 | 1 => failAhead .recursionLimit c
      | d + 1 => do
        let (fields, c) ← readMembers d c.bump.budget true [] c.bump
        let c ← closeObject c
        pure (.obj fields, c)
    else failAhead .expectedValue c
termination_by (depth, 0)

/-- The items of an array, up to (not including) its close. -/
def readItems (depth : Nat) (fuel : Nat) (first : Bool) (acc : List Value) (c : Cursor) :
    Except Fault (List Value × Cursor) :=
  match fuel with
  | 0 => failAhead .eofList c
  | fuel + 1 => do
    match ← nextItem first c with
    | none => pure (acc.reverse, c.skipBlank)
    | some c =>
      let (v, c) ← readValue depth c
      readItems depth fuel false (v :: acc) c
termination_by (depth, fuel + 1)

/-- The members of an object, up to (not including) its close. -/
def readMembers (depth : Nat) (fuel : Nat) (first : Bool) (acc : List (String × Value))
    (c : Cursor) : Except Fault (List (String × Value) × Cursor) :=
  match fuel with
  | 0 => failAhead .eofObject c
  | fuel + 1 => do
    match ← nextKey first c with
    | none => pure (acc.reverse, c.skipBlank)
    | some (k, c) =>
      let c ← readColon c
      let (v, c) ← readValue depth c
      readMembers depth fuel false ((k, v) :: acc) c
termination_by (depth, fuel + 1)

end

/-- Passes over a literal, a number or a string, from its first byte. -/
def skipScalar (b : UInt8) (c : Cursor) : Except Fault Cursor :=
  if b = 0x6E then readWord [0x75, 0x6C, 0x6C] c.bump
  else if b = 0x74 then readWord [0x72, 0x75, 0x65] c.bump
  else if b = 0x66 then readWord [0x61, 0x6C, 0x73, 0x65] c.bump
  else if b = 0x2D then skipNumber c.bump
  else if isDigit b then skipNumber c
  else if b = 0x22 then skipStr c.bump.budget c.bump
  else failAhead .expectedValue c

/-- The fault for a frame that ends too early. -/
def eofOf (frame : UInt8) : SyntaxFault := if frame = 0x5B then .eofList else .eofObject

/-- The fault for a frame where a comma or its close was due. -/
def commaOrEndOf (frame : UInt8) : SyntaxFault :=
  if frame = 0x5B then .expectedListCommaOrEnd else .expectedObjectCommaOrEnd

/-- Whether a byte closes the frame opened by another. -/
def closes (frame b : UInt8) : Bool := (frame = 0x5B ∧ b = 0x5D) ∨ (frame = 0x7B ∧ b = 0x7D)

mutual

/-- The start of a value, inside the open frames `stack` (innermost first). -/
def skipStart : Nat → List UInt8 → Cursor → Except Fault Cursor
  | 0, _, c => failAhead .eofValue c
  | fuel + 1, stack, c =>
    let c := c.skipBlank
    match c.peek with
    | none => failAhead .eofValue c
    | some b =>
      if b = 0x5B ∨ b = 0x7B then skipAfter fuel (b :: stack) false c.bump
      else do
        let c ← skipScalar b c
        match stack with
        | [] => pure c
        | _ => skipAfter fuel stack true c

/-- After a value or an opening bracket of the innermost frame: a comma (when one may
stand), the close of the frame, or the first member. -/
def skipAfter : Nat → List UInt8 → Bool → Cursor → Except Fault Cursor
  | 0, _, _, c => failAhead .eofValue c
  | _ + 1, [], _, c => .ok c
  | fuel + 1, frame :: outer, acceptComma, c =>
    let c := c.skipBlank
    match c.peek with
    | none => failAhead (eofOf frame) c
    | some b =>
      if b = 0x2C ∧ acceptComma then skipMember fuel (frame :: outer) c.bump
      else if closes frame b then
        match outer with
        | [] => .ok c.bump
        | _ => skipAfter fuel outer true c.bump
      else if acceptComma then failAhead (commaOrEndOf frame) c
      else skipMember fuel (frame :: outer) c

/-- The next member of the innermost frame: for an object its key and colon first. -/
def skipMember : Nat → List UInt8 → Cursor → Except Fault Cursor
  | 0, _, c => failAhead .eofValue c
  | fuel + 1, stack, c =>
    match stack with
    | 0x7B :: _ => do
      let c := c.skipBlank
      let c ← match c.peek with
        | some 0x22 => skipStr c.bump.budget c.bump
        | some _ => failAhead .keyMustBeString c
        | none => failAhead .eofObject c
      let c := c.skipBlank
      match c.peek with
      | some 0x3A => skipStart fuel stack c.bump
      | some _ => failAhead .expectedColon c
      | none => failAhead .eofObject c
    | _ => skipStart fuel stack c

end

/-- Passes over a whole value, as a reader that ignores it does: without a nesting limit,
judging numbers only by their form, and with its own order of checks for commas and keys. -/
def skipValue (c : Cursor) : Except Fault Cursor :=
  skipStart (3 * c.budget) [] c

/-- A whole text as one value; only blanks may follow it. -/
def parseText (s : String) : Except Fault Value := do
  let (v, c) ← readValue 128 (Cursor.ofString s)
  let c := c.skipBlank
  match c.peek with
  | some _ => failAhead .trailingCharacters c
  | none => pure v

end PosixRegistry.Json
