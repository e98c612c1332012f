import PosixRegistry.Json.Reader
/-!
# Shapes: reading a record out of JSON

A shape says what a reader asks for: a signed 64-bit integer, an unsigned one of 16, 32 or 64
bits, a string, a boolean, a list of strings, one of a few names, a record of named members, any
value at all, or any of these or `null`. A record member is required, optional (`null` or absent
reads as nothing), or has a default (absent reads as nothing; `null` is refused unless the
member's shape allows it).

A record is read from an object, its members in any order and unknown ones passed over; a
member given twice is refused, and after the close the first required member that is missing,
in the record's own order. It is also read from an array of its members in the record's order.

The same shapes are read from text — with the place of each refusal and the member it arose
under — and from an already read value, whose objects are maps sorted by key.
-/

namespace PosixRegistry.Json

/-- Whether a record member must be present. -/
inductive Presence where
  /-- Absent is refused. -/
  | required
  /-- Absent or `null` reads as nothing; an array must still hold it. -/
  | optional
  /-- Absent reads as nothing, in an object or at the end of an array. -/
  | defaulted
  deriving DecidableEq

/-- What a reader asks for. -/
inductive Shape where
  /-- A signed 64-bit integer. -/
  | int
  /-- An unsigned integer of the given width. -/
  | word (bits : Nat)
  /-- A string. -/
  | text
  /-- A boolean. -/
  | flag
  /-- An array of strings. -/
  | texts
  /-- One of a few names, written as a string or as an object with that one key and `null`. -/
  | choice (names : List String)
  /-- A record with a name and its members in order. -/
  | record (name : String) (members : List (String × Shape × Presence))
  /-- The shape, or `null`. -/
  | nullable (s : Shape)
  /-- Any value, kept as read. -/
  | value

/-- What was read for a shape. -/
inductive Got where
  | int (i : Int)
  | text (s : String)
  | flag (b : Bool)
  | texts (xs : List String)
  | choice (name : String)
  | record (slots : List (Option Got))
  | null
  | value (v : Value)
  deriving Inhabited

/-- The largest signed 64-bit integer. -/
def int64Max : Int := 9223372036854775807

/-- How a shape is named in a message. -/
def Shape.expected : Shape → String
  | .int => "i64"
  | .word bits => s!"u{bits}"
  | .text => "a string"
  | .flag => "a boolean"
  | .texts => "a sequence"
  | .choice _ => "string or map"
  | .record name _ => "struct " ++ name
  | .nullable s => s.expected
  | .value => "any value"

/-- The expectation of an array standing for a record. -/
def recordLength (name : String) (n : Nat) : String :=
  s!"struct {name} with {n} elements"

/-! ### From a value -/

/-- A number against an integer shape: in range, or refused by value or by kind. -/
def checkInt (bits : Option Nat) (expected : String) (v : Value) : Except Fault Got :=
  match v with
  | .int i =>
    match bits with
    | none => if int64Max < i then .error (Fault.mismatch (.invalidValue (.int i) expected))
      else .ok (.int i)
    | some b => if i < 0 ∨ Int.ofNat (Nat.pow 2 b) ≤ i then .error (Fault.mismatch (.invalidValue (.int i) expected))
      else .ok (.int i)
  | v => .error (Fault.mismatch (.invalidType v.found expected))

/-- The strings of an array, each read as a string. -/
def readTexts : List Value → Except Fault (List String)
  | [] => .ok []
  | .str s :: rest => (readTexts rest).map (s :: ·)
  | v :: _ => .error (Fault.mismatch (.invalidType v.found "a string"))

/-- A name against the allowed names. -/
def checkName (names : List String) (n : String) : Except Fault Got :=
  if names.contains n then .ok (.choice n)
  else .error (Fault.mismatch (.unknownVariant n names))

mutual

/-- Reads a shape out of a value. -/
def Shape.ofValue : Shape → Value → Except Fault Got
  | .int, v => checkInt none "i64" v
  | .word b, v => checkInt (some b) s!"u{b}" v
  | .text, .str s => .ok (.text s)
  | .text, v => .error (Fault.mismatch (.invalidType v.found "a string"))
  | .flag, .bool b => .ok (.flag b)
  | .flag, v => .error (Fault.mismatch (.invalidType v.found "a boolean"))
  | .texts, .arr items => (readTexts items).map .texts
  | .texts, v => .error (Fault.mismatch (.invalidType v.found "a sequence"))
  | .choice names, .str s => checkName names s
  | .choice names, .obj [(k, x)] => do
    let g ← checkName names k
    match x with
    | .null => pure g
    | x => .error (Fault.mismatch (.invalidType x.found "unit"))
  | .choice _, .obj _ => .error (Fault.mismatch (.invalidValue .map "map with a single key"))
  | .choice _, v => .error (Fault.mismatch (.invalidType v.found "string or map"))
  | .nullable _, .null => .ok .null
  | .nullable s, v => s.ofValue v
  | .value, v => .ok (.value v)
  | .record _ members, .obj fields => do
    let slots ← Shape.membersOfValue members fields (members.map fun _ => none)
    match (members.zip slots).find? (fun (m, g) => m.2.2 = .required ∧ g.isNone) with
    | some (m, _) => .error (Fault.mismatch (.missingField m.1))
    | none => pure (.record slots)
  | .record name members, .arr items => do
    let slots ← Shape.itemsOfValue name members.length members items 0
    if members.length < items.length then
      .error (Fault.mismatch (.invalidLength items.length "fewer elements in array"))
    else pure (.record slots)
  | .record name _, v => .error (Fault.mismatch (.invalidType v.found ("struct " ++ name)))

/-- Reads the members of a record from the fields of an object, in the object's order. -/
def Shape.membersOfValue (members : List (String × Shape × Presence)) :
    List (String × Value) → List (Option Got) → Except Fault (List (Option Got))
  | [], slots => .ok slots
  | (k, x) :: rest, slots =>
    match Shape.slotIndex members k 0 with
    | some (i, s) => do
      let g ← s.ofValue x
      Shape.membersOfValue members rest (slots.set i (some g))
    | none => Shape.membersOfValue members rest slots

/-- Reads the members of a record from the items of an array, in the record's order. -/
def Shape.itemsOfValue (name : String) (n : Nat) :
    List (String × Shape × Presence) → List Value → Nat → Except Fault (List (Option Got))
  | [], _, _ => .ok []
  | (_, s, p) :: rest, items, i =>
    match items with
    | x :: more => do
      let g ← s.ofValue x
      let gs ← Shape.itemsOfValue name n rest more (i + 1)
      pure (some g :: gs)
    | [] =>
      if p = .defaulted then do
        let gs ← Shape.itemsOfValue name n rest [] (i + 1)
        pure (none :: gs)
      else .error (Fault.mismatch (.invalidLength i (recordLength name n)))

/-- The position and shape of the member with a given name. -/
def Shape.slotIndex : List (String × Shape × Presence) → String → Nat → Option (Nat × Shape)
  | [], _, _ => none
  | (n, s, _) :: rest, k, i => if n = k then some (i, s) else Shape.slotIndex rest k (i + 1)

end

/-! ### From text -/

/-- The refusal of a reader that found something of the wrong kind where a shape was due, read
far enough to name it; a bracket is named without being read. -/
def wrongKind (expected : String) (c : Cursor) : Except Fault (Got × Cursor) :=
  let refuse (found : Found) (c : Cursor) : Except Fault (Got × Cursor) :=
    .error ((Fault.mismatch (.invalidType found expected)).placeAt c.here)
  match c.peek with
  | some 0x6E => do refuse .null (← readWord [0x75, 0x6C, 0x6C] c.bump)
  | some 0x74 => do refuse (.bool true) (← readWord [0x72, 0x75, 0x65] c.bump)
  | some 0x66 => do refuse (.bool false) (← readWord [0x61, 0x6C, 0x73, 0x65] c.bump)
  | some 0x2D => do let (n, c) ← readNumber false c.bump; refuse n.found c
  | some 0x22 => do let (s, c) ← readStr c.bump; refuse (.str s) c
  | some 0x5B => refuse .seq c
  | some 0x7B => refuse .map c
  | some b => if isDigit b then do let (n, c) ← readNumber true c; refuse n.found c
    else failAhead .expectedValue c
  | none => failAhead .expectedValue c

/-- Reads a member's value from text: an integer, a string, a boolean, or any of them or
`null`. Other shapes are read as a whole value first. -/
def Shape.ofText : Shape → Cursor → Except Fault (Got × Cursor)
  | .int, c =>
    let c := c.skipBlank
    let checked (n : Scalar) (c : Cursor) : Except Fault (Got × Cursor) :=
      match n with
      | .nat k => if int64Max < k then
          .error ((Fault.mismatch (.invalidValue (.int k) "i64")).placeAt c.here)
        else .ok (.int k, c)
      | .neg i => .ok (.int i, c)
      | .float x => .error ((Fault.mismatch (.invalidType (.float x) "i64")).placeAt c.here)
    match c.peek with
    | none => failAhead .eofValue c
    | some 0x2D => do let (n, c) ← readNumber false c.bump; checked n c
    | some b => if isDigit b then do let (n, c) ← readNumber true c; checked n c
      else wrongKind "i64" c
  | .text, c =>
    let c := c.skipBlank
    match c.peek with
    | none => failAhead .eofValue c
    | some 0x22 => (readStr c.bump).map fun (s, c) => (.text s, c)
    | some _ => wrongKind "a string" c
  | .flag, c =>
    let c := c.skipBlank
    match c.peek with
    | none => failAhead .eofValue c
    | some 0x74 => (readWord [0x72, 0x75, 0x65] c.bump).map fun c => (.flag true, c)
    | some 0x66 => (readWord [0x61, 0x6C, 0x73, 0x65] c.bump).map fun c => (.flag false, c)
    | some _ => wrongKind "a boolean" c
  | .nullable s, c =>
    let c := c.skipBlank
    match c.peek with
    | some 0x6E => (readWord [0x75, 0x6C, 0x6C] c.bump).map fun c => (.null, c)
    | _ => s.ofText c
  | s, c => do
    let (v, c) ← readValue 127 c
    match s.ofValue v with
    | .ok g => pure (g, c)
    | .error f => .error (f.placeAt c.here)

/-- Where a reader that stopped inside an object places a refusal: past the object's close
when it stands next, else after the blanks. -/
def afterObjectPos (c : Cursor) : Pos :=
  let c := c.skipBlank
  match c.peek with
  | some 0x7D => c.bump.here
  | _ => c.here

/-- Where a reader that stopped inside an array places a refusal. -/
def afterArrayPos (c : Cursor) : Pos :=
  let c := c.skipBlank
  match c.peek with
  | some 0x5D => c.bump.here
  | some 0x2C => c.bump.skipBlank.here
  | _ => c.here

/-- How reading the members of an object ended: at its close, or refused where it stood. -/
inductive MembersEnd where
  | closed (slots : List (Option Got)) (c : Cursor)
  | refused (f : Fault) (c : Cursor)

/-- Reads the members of an object from text into the record's slots. -/
def membersOfText (members : List (String × Shape × Presence)) :
    Nat → Bool → List (Option Got) → Cursor → MembersEnd
  | 0, _, _, c => .refused (Fault.text .eofObject c.ahead) c
  | fuel + 1, first, slots, c =>
    match nextKey first c with
    | .error f => .refused f c
    | .ok none => .closed slots c.skipBlank
    | .ok (some (k, c)) =>
      let value : Except Fault (Option (Nat × Got) × Cursor) :=
        match Shape.slotIndex members k 0 with
        | some (i, s) =>
          match slots[i]? with
          | some (some _) => .error (Fault.mismatch (.duplicateField k))
          | _ => do
            let c ← (readColon c).mapError (·.under (.key k))
            let (g, c) ← (s.ofText c).mapError (·.under (.key k))
            pure (some (i, g), c)
        | none => do
          let c ← (readColon c).mapError (·.under (.key k))
          let c ← (skipValue c).mapError (·.under (.key k))
          pure (none, c)
      match value with
      | .error f => .refused f c
      | .ok (none, c) => membersOfText members fuel false slots c
      | .ok (some (i, g), c) => membersOfText members fuel false (slots.set i (some g)) c

/-- Reads the members of a record from the items of an array in text. -/
def itemsOfText (name : String) (n : Nat) :
    List (String × Shape × Presence) → Nat → List (Option Got) → Cursor →
      Except Fault (List (Option Got) × Cursor)
  | [], _, acc, c => .ok (acc.reverse, c)
  | (_, s, p) :: rest, i, acc, c =>
    match nextItem (i = 0) c with
    | .error f => .error (f.under (.index i))
    | .ok none =>
      if p = .defaulted then itemsOfText name n rest (i + 1) (none :: acc) c
      else .error ((Fault.mismatch (.invalidLength i (recordLength name n))).placeAt
        (afterArrayPos c))
    | .ok (some c) =>
      match s.ofText c with
      | .error f => .error (f.under (.index i))
      | .ok (g, c) => itemsOfText name n rest (i + 1) (some g :: acc) c

/-- Reads a record from text: an object, or an array of its members. What follows the
record is left to the caller. -/
def readRecord (name : String) (members : List (String × Shape × Presence)) (c : Cursor) :
    Except Fault (List (Option Got) × Cursor) :=
  let c := c.skipBlank
  match c.peek with
  | none => failAhead .eofValue c
  | some 0x7B =>
    match membersOfText members c.bump.budget true (members.map fun _ => none) c.bump with
    | .refused f c => .error (f.placeAt (afterObjectPos c))
    | .closed slots c =>
      match (members.zip slots).find? (fun (m, g) => m.2.2 = .required ∧ g.isNone) with
      | some (m, _) => .error ((Fault.mismatch (.missingField m.1)).placeAt (afterObjectPos c))
      | none => (closeObject c).map fun c => (slots, c)
  | some 0x5B =>
    match itemsOfText name members.length members 0 [] c.bump with
    | .error f => .error f
    | .ok (slots, c) => (closeArray c).map fun c => (slots, c)
  | some _ =>
    match wrongKind ("struct " ++ name) c with
    | .error f => .error f
    | .ok (_, c) => .ok ([], c)

/-- Reads a record from a reader at the start of its input. With `complete`, only blanks may
follow the record; without, whatever follows it is left unread. -/
def readRecordFrom (name : String) (members : List (String × Shape × Presence)) (complete : Bool)
    (c : Cursor) : Except Fault (List (Option Got)) := do
  let (slots, c) ← readRecord name members c
  if complete then
    let c := c.skipBlank
    match c.peek with
    | some _ => failAhead .trailingCharacters c
    | none => pure slots
  else pure slots

/-- Reads a record from a whole text. -/
def readRecordText (name : String) (members : List (String × Shape × Presence)) (complete : Bool)
    (s : String) : Except Fault (List (Option Got)) :=
  readRecordFrom name members complete (Cursor.ofString s)

/-- Reads a record from whole bytes, which need not be well-formed UTF-8 where the record
passes over them. -/
def readRecordBytes (name : String) (members : List (String × Shape × Presence))
    (complete : Bool) (bs : List UInt8) : Except Fault (List (Option Got)) :=
  readRecordFrom name members complete (Cursor.ofBytes bs)

/-! ### Reading members out of a decoded record -/

/-- The integer in a slot, if any. -/
def Got.int? : Option Got → Option Int
  | some (.int i) => some i
  | _ => none

/-- The text in a slot, if any. -/
def Got.text? : Option Got → Option String
  | some (.text s) => some s
  | _ => none

/-- The boolean in a slot, or false. -/
def Got.flagOrFalse : Option Got → Bool
  | some (.flag b) => b
  | _ => false

/-- The slot at a position. -/
def slotAt (slots : List (Option Got)) (i : Nat) : Option Got := (slots[i]?).getD none

end PosixRegistry.Json
