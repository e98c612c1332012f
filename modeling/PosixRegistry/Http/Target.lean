/-!
# Request targets

The target of a request is read the way the server's request type reads it, and refused with
the same reasons. A target is one of:

* a path, starting with `/`, optionally followed by `?` and a query;
* `*`;
* an absolute URI: a scheme, `://`, an authority (host, optional port, optional user
  information before `@`), then a path and query;
* an authority alone.

A fragment (from `#`) is dropped. The path may hold the URI characters and also `"`, `{`, `}`
and any non-ASCII character; space, `<`, `>`, backquote and control characters are refused.
The query also allows backquote, but refuses `"`; neither allows the delete character. An absolute URI
needs something after its `://`.
Routing then sees only the path: `/` for an absolute URI without one, and the empty path
for an authority alone.
-/

namespace PosixRegistry.Http

/-- Why a target is refused. -/
inductive TargetFault where
  | invalidChar
  | invalidAuthority
  | invalidFormat
  | empty
  | tooLong
  | schemeTooLong
  deriving DecidableEq, Repr

/-- How a refusal reads. -/
def TargetFault.text : TargetFault → String
  | .invalidChar => "invalid uri character"
  | .invalidAuthority => "invalid authority"
  | .invalidFormat => "invalid format"
  | .empty => "empty string"
  | .tooLong => "uri too long"
  | .schemeTooLong => "scheme too long"

/-- A target as routed: its path and its query string (empty when there is none). -/
structure Target where
  path : String
  query : String := ""
  deriving DecidableEq, Repr

/-- The longest target, in bytes. -/
def targetMaxLength : Nat := 65534

/-- The longest scheme, in bytes. -/
def schemeMaxLength : Nat := 64

/-- Whether a byte is an ASCII letter or digit. -/
def isAsciiAlnum (b : UInt8) : Bool :=
  (0x30 ≤ b && b ≤ 0x39) || (0x41 ≤ b && b ≤ 0x5A) || (0x61 ≤ b && b ≤ 0x7A)

/-- The bytes an authority may hold as they are. -/
def isUriByte (b : UInt8) : Bool :=
  isAsciiAlnum b || "!#$&'()*+,-./:;=?@[]_~".toList.any (·.toNat == b.toNat)

/-- The bytes a scheme may hold. -/
def isSchemeByte (b : UInt8) : Bool := isAsciiAlnum b || b == 0x2B || b == 0x2D || b == 0x2E

/-- The bytes a path may hold before its query. -/
def isPathByte (b : UInt8) : Bool :=
  b == 0x21 || (0x24 ≤ b && b ≤ 0x3B) || b == 0x3D || (0x40 ≤ b && b ≤ 0x5F) ||
    (0x61 ≤ b && b ≤ 0x7A) || b == 0x7C || b == 0x7E || 0x80 ≤ b ||
    b == 0x22 || b == 0x7B || b == 0x7D

/-- The bytes a query may hold. -/
def isQueryByte (b : UInt8) : Bool :=
  b == 0x21 || (0x24 ≤ b && b ≤ 0x3B) || b == 0x3D || (0x3F ≤ b && b ≤ 0x7E) || 0x80 ≤ b

/-- Text of bytes that are known to be well-formed. -/
def bytesText (bs : List UInt8) : String :=
  (String.fromUTF8? (ByteArray.mk bs.toArray)).getD ""

/-- The query bytes up to a fragment, all allowed. -/
def readQuery : List UInt8 → Except TargetFault (List UInt8)
  | [] => .ok []
  | b :: rest =>
    if b == 0x23 then .ok []
    else if isQueryByte b then (readQuery rest).map (b :: ·)
    else .error .invalidChar

/-- A path and query: the path bytes up to `?` or `#`, then the query. -/
def readPathAndQuery : List UInt8 → Except TargetFault (List UInt8 × Option (List UInt8))
  | [] => .ok ([], none)
  | b :: rest =>
    if b == 0x3F then (readQuery rest).map fun q => ([], some q)
    else if b == 0x23 then .ok ([], none)
    else if isPathByte b then (readPathAndQuery rest).map fun (p, q) => (b :: p, q)
    else .error .invalidChar

/-- The state of the authority reader: colons since the last `@` or `]`, whether `[` and `]`
were seen, whether a `%` was seen since, and where the last `@` stood. -/
structure AuthorityScan where
  colons : Nat := 0
  opened : Bool := false
  closed : Bool := false
  percent : Bool := false
  atSign : Option Nat := none

/-- The length of the authority at the head of the bytes (up to `/`, `?` or `#`). -/
def authorityEnd (bs : List UInt8) : Except TargetFault Nat :=
  let rec go : List UInt8 → Nat → AuthorityScan → Except TargetFault (Nat × AuthorityScan)
    | [], i, st => .ok (i, st)
    | b :: rest, i, st =>
      if b == 0x2F || b == 0x3F || b == 0x23 then .ok (i, st)
      else if b == 0x3A then
        if 8 ≤ st.colons then .error .invalidAuthority
        else go rest (i + 1) { st with colons := st.colons + 1 }
      else if b == 0x5B then
        if st.percent || st.opened then .error .invalidAuthority
        else go rest (i + 1) { st with opened := true }
      else if b == 0x5D then
        if !st.opened || st.closed then .error .invalidAuthority
        else go rest (i + 1) { st with closed := true, colons := 0, percent := false }
      else if b == 0x40 then go rest (i + 1) { st with atSign := some i, colons := 0, percent := false }
      else if isUriByte b then go rest (i + 1) st
      else if b == 0x25 then go rest (i + 1) { st with percent := true }
      else .error .invalidChar
  match go bs 0 {} with
  | .error e => .error e
  | .ok (stop, st) =>
    if st.opened != st.closed then .error .invalidAuthority
    else if 1 < st.colons then .error .invalidAuthority
    else if 0 < stop ∧ st.atSign = some (stop - 1) then .error .invalidAuthority
    else if st.percent then .error .invalidAuthority
    else .ok stop

/-- The length of the scheme at the head of the bytes, with the `://` after it, if there is
one. -/
def schemeLength (bs : List UInt8) : Except TargetFault (Option Nat) :=
  let lower := bs.map fun b => if 0x41 ≤ b && b ≤ 0x5A then b + 0x20 else b
  let http := "http://".toUTF8.toList
  let https := "https://".toUTF8.toList
  if lower.take 7 == http then .ok (some 7)
  else if lower.take 8 == https then .ok (some 8)
  else if bs.length ≤ 3 then .ok none
  else
    let rec scan : List UInt8 → Nat → Except TargetFault (Option Nat)
      | [], _ => .ok none
      | b :: rest, i =>
        if b == 0x3A then
          if rest.take 2 == [0x2F, 0x2F] then
            if schemeMaxLength < i then .error .schemeTooLong else .ok (some (i + 3))
          else .ok none
        else if isSchemeByte b then scan rest (i + 1)
        else .ok none
    scan bs 0

/-- The target of a path and query. -/
def targetOf (absolute : Bool) (p : List UInt8) (q : Option (List UInt8)) : Target :=
  let path := if p.isEmpty && absolute then "/" else bytesText p
  { path, query := (q.map bytesText).getD "" }

/-- Reads a request target. -/
def Target.parse (s : String) : Except TargetFault Target :=
  let bs := s.toUTF8.toList
  if targetMaxLength < bs.length then .error .tooLong
  else match bs with
  | [] => .error .empty
  | [0x2F] => .ok { path := "/" }
  | [0x2A] => .ok { path := "*" }
  | [b] => (authorityEnd [b]).bind fun n => if n = 1 then .ok { path := "" } else .error .invalidChar
  | 0x2F :: rest => (readPathAndQuery rest).map fun (p, q) => targetOf false (0x2F :: p) q
  | _ => do
    match ← schemeLength bs with
    | none =>
      let n ← authorityEnd bs
      if n ≠ bs.length then .error .invalidFormat else .ok { path := "" }
    | some k =>
      let rest := bs.drop k
      if rest.isEmpty then throw .empty
      let n ← authorityEnd rest
      if n = 0 then .error .invalidFormat
      else
        let (p, q) ← readPathAndQuery (rest.drop n)
        pure (targetOf true p q)

end PosixRegistry.Http
