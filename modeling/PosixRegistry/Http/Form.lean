import PosixRegistry.Text.Decimal
import PosixRegistry.Text.Utf8
/-!
# Percent-decoding and query strings

A path segment is percent-decoded: `%` followed by two hexadecimal digits stands for that
byte, and any other `%` stays as it is. A query string is read as form data: it is split at
`&`, empty pieces are skipped, each piece is split at its first `=` (a piece without one has
an empty value), `+` stands for a space, and names and values are percent-decoded and read
as UTF-8 with ill-formed parts replaced.

The pairs of a query string then fill the fields of a parameter record. Unknown names are
ignored. A field given twice, a number that does not read as a signed 64-bit integer, and a
required field not given are refused, in that order of discovery: pairs are read from left to
right, and missing fields are looked for last, in field order.
-/

namespace PosixRegistry.Http

/-- The value of a hexadecimal digit byte. -/
def hexValue? (b : UInt8) : Option Nat :=
  if 0x30 ≤ b ∧ b ≤ 0x39 then some (b.toNat - 0x30)
  else if 0x61 ≤ b ∧ b ≤ 0x66 then some (b.toNat - 0x61 + 10)
  else if 0x41 ≤ b ∧ b ≤ 0x46 then some (b.toNat - 0x41 + 10)
  else none

/-- Percent-decodes bytes: `%XY` with two hexadecimal digits becomes that byte. -/
def percentDecode (bs : List UInt8) : List UInt8 :=
  match bs with
  | [] => []
  | b :: x :: y :: more =>
    match b == 0x25, hexValue? x, hexValue? y with
    | true, some h, some l => UInt8.ofNat (h * 16 + l) :: percentDecode more
    | _, _, _ => b :: percentDecode (x :: y :: more)
  | b :: rest => b :: percentDecode rest
termination_by bs.length

/-- Splits bytes at every occurrence of a byte. -/
def splitBytes (sep : UInt8) (bs : List UInt8) : List (List UInt8) :=
  let (pieces, last) := bs.foldl (fun (acc : List (List UInt8) × List UInt8) b =>
    if b = sep then (acc.2.reverse :: acc.1, []) else (acc.1, b :: acc.2)) ([], [])
  (last.reverse :: pieces).reverse

/-- Splits bytes at the first occurrence of a byte; without one, the second part is empty. -/
def splitFirst (sep : UInt8) (bs : List UInt8) : List UInt8 × List UInt8 :=
  match bs.idxOf? sep with
  | some i => (bs.take i, bs.drop (i + 1))
  | none => (bs, [])

/-- One name or value of form data: `+` as a space, percent-decoded, read as UTF-8. -/
def formText (bs : List UInt8) : String :=
  Text.decodeLossy (percentDecode (bs.map fun b => if b = 0x2B then 0x20 else b))

/-- The name and value pairs of form data. -/
def formPairs (query : String) : List (String × String) :=
  ((splitBytes 0x26 (Text.utf8Bytes query)).filter (!·.isEmpty)).map fun piece =>
    let (n, v) := splitFirst 0x3D piece
    (formText n, formText v)

/-- The kinds of a parameter field. -/
inductive ParamKind where
  | text
  | int
  deriving DecidableEq, Repr

/-- A parameter field: its name, its kind and whether it must be given. -/
structure ParamField where
  name : String
  kind : ParamKind
  required : Bool
  deriving DecidableEq, Repr

/-- The value of a parameter field. -/
inductive ParamValue where
  | text (s : String)
  | int (i : Int)
  deriving DecidableEq, Repr

/-- Reads one value as a field's kind. -/
def ParamKind.read : ParamKind → String → Except String ParamValue
  | .text, s => .ok (.text s)
  | .int, s =>
    match Text.readInt64 s with
    | .ok i => .ok (.int i)
    | .error f => .error f.message

/-- Puts the pairs into the slots of the fields, refusing a repeated field or a bad value. -/
def fillParams (fields : List ParamField) :
    List (Option ParamValue) → List (String × String) → Except String (List (Option ParamValue))
  | slots, [] => .ok slots
  | slots, (n, v) :: rest =>
    match fields.findIdx? (·.name == n) with
    | none => fillParams fields slots rest
    | some i =>
      match slots[i]?, fields[i]? with
      | some (some _), _ => .error s!"duplicate field `{n}`"
      | _, some f => do
        let x ← f.kind.read v
        fillParams fields (slots.set i (some x)) rest
      | _, none => fillParams fields slots rest

/-- Reads a query string into the fields of a parameter record. -/
def readParams (fields : List ParamField) (query : String) :
    Except String (List (Option ParamValue)) := do
  let slots ← fillParams fields (fields.map fun _ => none) (formPairs query)
  match (fields.zip slots).find? (fun (f, s) => f.required && s.isNone) with
  | some (f, _) => throw s!"missing field `{f.name}`"
  | none => pure slots

/-- The text in a parameter slot. -/
def ParamValue.text? : Option ParamValue → Option String
  | some (.text s) => some s
  | _ => none

/-- The integer in a parameter slot. -/
def ParamValue.int? : Option ParamValue → Option Int
  | some (.int i) => some i
  | _ => none

end PosixRegistry.Http
