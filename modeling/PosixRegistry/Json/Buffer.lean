import PosixRegistry.Json.Reader
/-!
# Reading a value whole, and where a failure leaves the reader

Some members are read by a reader that takes whatever value stands there and only afterwards
decides whether it fits. Such a reader can fail half way: on a number beyond the double range,
on a string that is not UTF-8, or on nesting deeper than its limit. The failure may be caught
by whoever asked for the member, and reading then goes on from wherever the reader stopped.
This module gives both the value and that place.

The places follow the reader step by step:

* a failed scalar stops after it, except a number whose positive exponent overflows 32 bits:
  that one stops right after the digit that overflowed, unless its significand is zero, and a
  string, which stops where its fault was noticed: after a bad escape, after the byte that
  follows a leading surrogate without its partner, after a control character;
* nesting beyond the limit fails before the opening bracket;
* when an item of an array fails, the array takes its close if the close is next, or its
  comma (and the blanks after it) if a comma is next; an object takes its close only;
* an array or object that refuses to be a value at all (as a number reader does) still takes
  its close when it is empty.

The input has already been read once and found well-formed, except for the code points its
strings escape, so only these failures arise.
-/

namespace PosixRegistry.Json

/-- Passes over digits, noting whether any of them is not zero. -/
def skipDigitsNoting : Nat → Bool → Cursor → Bool × Cursor
  | 0, nz, c => (nz, c)
  | fuel + 1, nz, c =>
    match c.peek with
    | some b => if isDigit b then skipDigitsNoting fuel (nz || b != 0x30) c.bump else (nz, c)
    | none => (nz, c)

/-- Passes over the digits of a positive exponent of a number whose significand is not zero,
stopping after the digit that takes the exponent beyond 32 bits. -/
def exponentStop : Nat → Nat → Cursor → Cursor
  | 0, _, c => c
  | fuel + 1, exp, c =>
    match c.peek with
    | some b =>
      if isDigit b then
        let exp := exp * 10 + (b.toNat - 0x30)
        if int32Max < exp then c.bump else exponentStop fuel exp c.bump
      else c
    | none => c

/-- The reader moved forward to a place, or as far as the fuel goes. -/
def seekPos (p : Pos) : Nat → Cursor → Cursor
  | 0, c => c
  | fuel + 1, c => if c.here = p then c else seekPos p fuel c.bump

/-- Where a string reader that failed stops. Every fault of the string reader is reported at
the place the reader has reached when it gives up: after the escape or byte that gave it away
(a leading surrogate takes the byte after it along), or after the closing quote when the text
is not UTF-8. -/
def strStop (c : Cursor) (f : Fault) : Cursor :=
  match f.pos with
  | some p => seekPos p c.budget c
  | none => c

/-- Where a reader that failed on the number starting here stops. -/
def numberStop (c : Cursor) : Cursor :=
  let c := if c.peek = some 0x2D then c.bump else c
  let (nz, c) := skipDigitsNoting c.budget false c
  let (nz, c) :=
    if c.peek = some 0x2E then skipDigitsNoting c.bump.budget nz c.bump else (nz, c)
  match c.peek with
  | some 0x65 | some 0x45 =>
    let c := c.bump
    let (positive, c) := match c.peek with
      | some 0x2B => (true, c.bump)
      | some 0x2D => (false, c.bump)
      | _ => (true, c)
    if positive && nz then exponentStop c.budget 0 c else skipDigits c.budget c
  | _ => c

/-- Where a failed array stands once it has tried to take its close. -/
def endArray (c : Cursor) : Cursor :=
  let c := c.skipBlank
  match c.peek with
  | some 0x5D => c.bump
  | some 0x2C => c.bump.skipBlank
  | _ => c

/-- Where a failed object stands once it has tried to take its close. -/
def endObject (c : Cursor) : Cursor :=
  let c := c.skipBlank
  match c.peek with
  | some 0x7D => c.bump
  | _ => c

/-- Reads a scalar from its first byte: the value, or the place a failure stops at. -/
def bufferScalar (b : UInt8) (c : Cursor) : Option Value × Cursor :=
  if b = 0x22 then
    match readStr c.bump with
    | .ok (s, c') => (some (.str s), c')
    | .error f => (none, strStop c.bump f)
  else if b = 0x2D ∨ isDigit b then
    let read := if b = 0x2D then readNumber false c.bump else readNumber true c
    match read with
    | .ok (n, c') => (some n.toValue, c')
    | .error _ => (none, numberStop c)
  else
    match readValue 1 c with
    | .ok (v, c') => (some v, c')
    | .error _ => (none, c)

mutual

/-- Reads a value whole with `depth` levels of nesting still allowed: the value, or none, and
where the reader stands. -/
def bufferValue : Nat → Nat → Cursor → Option Value × Cursor
  | 0, _, c => (none, c)
  | fuel + 1, depth, c =>
    let c := c.skipBlank
    match c.peek with
    | none => (none, c)
    | some b =>
      if b = 0x5B then
        if depth ≤ 1 then (none, c)
        else
          match bufferItems fuel (depth - 1) true [] c.bump with
          | (some items, c') => (some (.arr items), c'.bump)
          | (none, c') => (none, endArray c')
      else if b = 0x7B then
        if depth ≤ 1 then (none, c)
        else
          match bufferMembers fuel (depth - 1) true [] c.bump with
          | (some fields, c') => (some (.obj fields), c'.bump)
          | (none, c') => (none, endObject c')
      else bufferScalar b c

/-- The items of an array up to its close, which is left unread. -/
def bufferItems : Nat → Nat → Bool → List Value → Cursor → Option (List Value) × Cursor
  | 0, _, _, _, c => (none, c)
  | fuel + 1, depth, first, acc, c =>
    let c := c.skipBlank
    match c.peek with
    | some 0x5D => (some acc.reverse, c)
    | some 0x2C =>
      if first then
        match bufferValue fuel depth c with
        | (some v, c') => bufferItems fuel depth false (v :: acc) c'
        | (none, c') => (none, c')
      else
        match bufferValue fuel depth c.bump with
        | (some v, c') => bufferItems fuel depth false (v :: acc) c'
        | (none, c') => (none, c')
    | some _ =>
      if first then
        match bufferValue fuel depth c with
        | (some v, c') => bufferItems fuel depth false (v :: acc) c'
        | (none, c') => (none, c')
      else (none, c)
    | none => (none, c)

/-- The members of an object up to its close, which is left unread. -/
def bufferMembers : Nat → Nat → Bool → List (String × Value) → Cursor →
    Option (List (String × Value)) × Cursor
  | 0, _, _, _, c => (none, c)
  | fuel + 1, depth, first, acc, c =>
    let c := c.skipBlank
    match c.peek with
    | some 0x7D => (some acc.reverse, c)
    | some b =>
      let c := if !first && b = 0x2C then c.bump.skipBlank else c
      if (first || b = 0x2C) && c.peek = some 0x22 then
        match readStr c.bump with
        | .error f => (none, strStop c.bump f)
        | .ok (k, c) =>
          match readColon c with
          | .error _ => (none, c.skipBlank)
          | .ok c =>
            match bufferValue fuel depth c with
            | (some v, c') => bufferMembers fuel depth false ((k, v) :: acc) c'
            | (none, c') => (none, c')
      else (none, c)
    | none => (none, c)

end

/-- Where a reader that wants a number, and refuses anything else, stops on the value here:
after a scalar (or where a number failed), and for an array or object right after its opening
bracket, or after its close when it is empty. -/
def numberReaderStop (c : Cursor) : Cursor :=
  let c := c.skipBlank
  match c.peek with
  | some 0x5B => endArray c.bump
  | some 0x7B => endObject c.bump
  | some b => (bufferScalar b c).2
  | none => c

end PosixRegistry.Json
