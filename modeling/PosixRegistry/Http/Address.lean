/-!
# Socket addresses

The address a connection comes from, written `a.b.c.d:port` or `[v6]:port`, and the text of
its IP address, which is what the audit log records when no forwarding header names a client.

Reading follows the usual grammar. An IPv4 address is four decimal octets of at most three
digits, with no leading zero and none above 255. An IPv6 address is up to eight groups of
one to four hexadecimal digits. One `::` may stand for a run of zero groups, and an IPv4
address may fill the last two groups. An IPv6 socket address may carry a zone number after
`%`. A port is decimal, leading zeros allowed, at most 65535. The whole text must be read.

An IPv6 address is written in lowercase hexadecimal with its longest run of at least two zero
groups (the first such run on a tie) shortened to `::`. An IPv4-mapped address is written
`::ffff:a.b.c.d`.
-/

namespace PosixRegistry.Http

/-- An IP address: four octets, or eight 16-bit groups. -/
inductive IpAddr where
  | v4 (octets : List Nat)
  | v6 (groups : List Nat)
  deriving DecidableEq, Repr

/-- A socket address: an IP address and a port. -/
structure SocketAddr where
  ip : IpAddr
  port : Nat
  deriving DecidableEq, Repr

/-! ### Reading -/

/-- A reader over characters: a result and what is left, or nothing. -/
abbrev Reader (α : Type) := List Char → Option (α × List Char)

/-- The value of a digit in a radix. -/
def digitIn (radix : Nat) (c : Char) : Option Nat :=
  let n := c.toNat
  let d :=
    if 0x30 ≤ n ∧ n ≤ 0x39 then some (n - 0x30)
    else if 0x61 ≤ n ∧ n ≤ 0x7A then some (n - 0x61 + 10)
    else if 0x41 ≤ n ∧ n ≤ 0x5A then some (n - 0x41 + 10)
    else none
  d.bind fun v => if v < radix then some v else none

/-- The leading run of digits of a radix: their values and the rest. -/
def digitRun (radix : Nat) : List Char → List Nat × List Char
  | [] => ([], [])
  | c :: cs =>
    match digitIn radix c with
    | some d => let (ds, rest) := digitRun radix cs; (d :: ds, rest)
    | none => ([], c :: cs)

/-- The value of digits in a radix. -/
def digitsValueIn (radix : Nat) (ds : List Nat) : Nat := ds.foldl (fun acc d => acc * radix + d) 0

/-- A number: at least one digit, at most `maxDigits` if given, a value below `bound`, and a
leading zero only when `zeroPrefix` allows it or the number is one digit. -/
def readNumber (radix : Nat) (maxDigits : Option Nat) (zeroPrefix : Bool) (bound : Nat) :
    Reader Nat := fun cs =>
  let (ds, rest) := digitRun radix cs
  let n := digitsValueIn radix ds
  if ds.isEmpty then none
  else if maxDigits.any (· < ds.length) then none
  else if bound ≤ n then none
  else if !zeroPrefix && ds.head? == some 0 && 1 < ds.length then none
  else some (n, rest)

/-- One given character. -/
def readChar (c : Char) : Reader Unit
  | d :: rest => if c = d then some ((), rest) else none
  | [] => none

/-- An item, after a separator unless it is the first. -/
def readSeparated {α : Type} (sep : Char) (first : Bool) (item : Reader α) : Reader α := fun cs =>
  if first then item cs
  else (readChar sep cs).bind fun (_, rest) => item rest

/-- An IPv4 address: four octets separated by dots. -/
def readIpv4 : Reader (List Nat) := fun cs => do
  let octet := readNumber 10 (some 3) false 256
  let (a, cs) ← octet cs
  let (b, cs) ← readSeparated '.' false octet cs
  let (c, cs) ← readSeparated '.' false octet cs
  let (d, cs) ← readSeparated '.' false octet cs
  pure ([a, b, c, d], cs)

/-- Colon-separated groups, at most `limit`, the last two possibly an IPv4 address: the
groups read, whether an IPv4 address ended them, and the rest. -/
def readGroups : Nat → Nat → Reader (List Nat × Bool)
  | 0, _ => fun cs => some (([], false), cs)
  | limit + 1, i => fun cs =>
    let v4 := if 0 < limit then readSeparated ':' (i == 0) readIpv4 cs else none
    match v4 with
    | some (os, rest) =>
      let g1 := (os.getD 0 0) * 256 + os.getD 1 0
      let g2 := (os.getD 2 0) * 256 + os.getD 3 0
      some (([g1, g2], true), rest)
    | none =>
      match readSeparated ':' (i == 0) (readNumber 16 (some 4) true 65536) cs with
      | some (g, rest) =>
        match readGroups limit (i + 1) rest with
        | some ((gs, v4), rest) => some ((g :: gs, v4), rest)
        | none => some (([g], false), rest)
      | none => some (([], false), cs)

/-- An IPv6 address. -/
def readIpv6 : Reader (List Nat) := fun cs => do
  let ((head, headV4), cs) ← readGroups 8 0 cs
  if head.length == 8 then pure (head, cs)
  else if headV4 then none
  else
    let (_, cs) ← readChar ':' cs
    let (_, cs) ← readChar ':' cs
    let ((tail, _), cs) ← readGroups (8 - (head.length + 1)) 0 cs
    pure (head ++ List.replicate (8 - head.length - tail.length) 0 ++ tail, cs)

/-- A port after a colon. -/
def readPort : Reader Nat := fun cs =>
  (readChar ':' cs).bind fun (_, rest) => readNumber 10 none true 65536 rest

/-- A socket address with an IPv4 address. -/
def readSocketV4 : Reader SocketAddr := fun cs => do
  let (ip, cs) ← readIpv4 cs
  let (port, cs) ← readPort cs
  pure (⟨.v4 ip, port⟩, cs)

/-- A socket address with an IPv6 address in brackets and an optional zone. -/
def readSocketV6 : Reader SocketAddr := fun cs => do
  let (_, cs) ← readChar '[' cs
  let (ip, cs) ← readIpv6 cs
  let cs := match (readChar '%' cs).bind fun (_, r) => readNumber 10 none true 4294967296 r with
    | some (_, rest) => rest
    | none => cs
  let (_, cs) ← readChar ']' cs
  let (port, cs) ← readPort cs
  pure (⟨.v6 ip, port⟩, cs)

/-- Reads a whole text as a socket address. -/
def SocketAddr.parse? (s : String) : Option SocketAddr :=
  let whole (r : Reader SocketAddr) : Option SocketAddr :=
    match r s.toList with
    | some (a, []) => some a
    | _ => none
  (whole readSocketV4).or (whole readSocketV6)

/-! ### Writing -/

/-- A number in lowercase hexadecimal. -/
def hexText (n : Nat) : String := String.ofList (Nat.toDigits 16 n)

/-- Groups in hexadecimal joined by colons. -/
def groupsText (gs : List Nat) : String := ":".intercalate (gs.map hexText)

/-- The longest run of zero groups, as start and length; the first on a tie. -/
def zeroRun (gs : List Nat) : Nat × Nat :=
  let step (acc : (Nat × Nat) × (Nat × Nat) × Nat) (g : Nat) :=
    let (best, cur, i) := acc
    let cur := if g = 0 then (if cur.2 = 0 then (i, 1) else (cur.1, cur.2 + 1)) else (0, 0)
    let best := if best.2 < cur.2 then cur else best
    (best, cur, i + 1)
  (gs.foldl step ((0, 0), (0, 0), 0)).1

/-- The text of an IP address. -/
def IpAddr.text : IpAddr → String
  | .v4 os => ".".intercalate (os.map toString)
  | .v6 gs =>
    if gs.take 6 = [0, 0, 0, 0, 0, 0xFFFF] then
      let a := gs.getD 6 0
      let b := gs.getD 7 0
      s!"::ffff:{a / 256}.{a % 256}.{b / 256}.{b % 256}"
    else
      let (start, len) := zeroRun gs
      if 1 < len then groupsText (gs.take start) ++ "::" ++ groupsText (gs.drop (start + len))
      else groupsText gs

end PosixRegistry.Http
