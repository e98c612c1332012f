import PosixRegistry.Number.Binary64
/-!
# JSON values

A JSON value keeps the distinction a reader draws between numbers: an integer that fits a
machine word (from `-2^63` up to `2^64 - 1`) stays an exact integer, and any other number —
one with a fraction or an exponent, or too large — is a double. Objects keep their members
in the order they were written, duplicates included; `canonical` sorts them by key and keeps
the last of equal keys, which is how a decoded document behaves as a map.

Writing is compact: no blanks, members in stored order, strings with `"` and `\` escaped,
the controls below `0x20` written as `\b`, `\t`, `\n`, `\f`, `\r` or `\u00xx`, and every
other character as itself.
-/

namespace PosixRegistry.Json

open PosixRegistry.Number

/-- A JSON value. -/
inductive Value where
  | null
  | bool (b : Bool)
  | int (i : Int)
  | float (x : Binary64)
  | str (s : String)
  | arr (items : List Value)
  | obj (fields : List (String × Value))
  deriving Inhabited

namespace Value

/-- The value stored under a key: the last member with that key. -/
def get? (v : Value) (key : String) : Option Value :=
  match v with
  | .obj fields => (fields.reverse.find? fun f => f.1 == key).map (·.2)
  | _ => none

/-- Inserts a member into a list sorted by key, replacing a member with the same key. -/
def insertSorted (kv : String × Value) : List (String × Value) → List (String × Value)
  | [] => [kv]
  | f :: rest =>
    if kv.1 < f.1 then kv :: f :: rest
    else if kv.1 = f.1 then kv :: rest
    else f :: insertSorted kv rest

/-- The value as a map: object members sorted by key, the last of equal keys kept. -/
def canonical : Value → Value
  | .arr items => .arr (items.attach.map fun ⟨x, _⟩ => canonical x)
  | .obj fields =>
    .obj ((fields.attach.map fun ⟨f, _⟩ => (f.1, canonical f.2)).foldl
      (fun acc kv => insertSorted kv acc) [])
  | v => v
termination_by v => sizeOf v
decreasing_by
  all_goals simp_wf
  · have := List.sizeOf_lt_of_mem ‹_ ∈ items›; omega
  · have := List.sizeOf_lt_of_mem ‹_ ∈ fields›
    cases f; simp_all; omega

/-- Removes every member with one of the given keys, at every depth. -/
def eraseKeys (keys : List String) : Value → Value
  | .arr items => .arr (items.attach.map fun ⟨x, _⟩ => eraseKeys keys x)
  | .obj fields =>
    .obj ((fields.attach.filter fun f => !keys.contains f.1.1).map
      fun ⟨f, _⟩ => (f.1, eraseKeys keys f.2))
  | v => v
termination_by v => sizeOf v
decreasing_by
  all_goals simp_wf
  · have := List.sizeOf_lt_of_mem ‹_ ∈ items›; omega
  · have := List.sizeOf_lt_of_mem ‹_ ∈ fields›
    cases f; simp_all; omega

end Value

/-- Four hexadecimal digits, lowercase. -/
def hex4 (n : Nat) : String :=
  let ds := Nat.toDigits 16 n
  String.ofList (List.replicate (4 - ds.length) '0' ++ ds)

/-- One character of a string as written inside quotes. -/
def escapeChar (c : Char) : String :=
  if c = '"' then "\\\""
  else if c = '\\' then "\\\\"
  else if c = '\x08' then "\\b"
  else if c = '\t' then "\\t"
  else if c = '\n' then "\\n"
  else if c = '\x0c' then "\\f"
  else if c = '\r' then "\\r"
  else if c.toNat < 0x20 then "\\u" ++ hex4 c.toNat
  else String.singleton c

/-- A string written as a JSON string. -/
def quoteString (s : String) : String :=
  "\"" ++ String.join (s.toList.map escapeChar) ++ "\""

namespace Value

/-- The compact text of a value. -/
def write : Value → String
  | .null => "null"
  | .bool b => if b then "true" else "false"
  | .int i => toString i
  | .float x => x.text
  | .str s => quoteString s
  | .arr items => "[" ++ ",".intercalate (items.attach.map fun ⟨x, _⟩ => write x) ++ "]"
  | .obj fields =>
    "\x7b" ++ ",".intercalate (fields.attach.map fun ⟨f, _⟩ => quoteString f.1 ++ ":" ++ write f.2)
      ++ "\x7d"
termination_by v => sizeOf v
decreasing_by
  all_goals simp_wf
  · have := List.sizeOf_lt_of_mem ‹_ ∈ items›; omega
  · have := List.sizeOf_lt_of_mem ‹_ ∈ fields›
    cases f; simp_all; omega

/-- An object from members. -/
def object (fields : List (String × Value)) : Value := .obj fields

/-- A string or `null`. -/
def ofOptStr : Option String → Value
  | some s => .str s
  | none => .null

/-- An integer or `null`. -/
def ofOptInt : Option Int → Value
  | some i => .int i
  | none => .null

end Value

end PosixRegistry.Json
