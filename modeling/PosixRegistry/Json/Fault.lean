import PosixRegistry.Json.Value
import PosixRegistry.Text.Quote
/-!
# Why a JSON text or value was refused

A refusal is either a fault of the text itself — it is not JSON, or it ends too early — or a
mismatch between well-formed JSON and the shape a reader asked for: a field missing or given
twice, a value of the wrong kind, a number out of the asked range, an array of the wrong
length, a name that is not one of the allowed ones.

A refusal made while reading text carries the line and column (in bytes) where it was noticed;
one made while decoding an already read value carries none. It also carries the path to the
member where it arose: a field name, or an index in brackets.

The wording follows one fixed table: `invalid type: <what was found>, expected <what was
asked>`, where what was found reads `null`, ``boolean `true` ``, ``integer `5` ``,
``floating point `1.5` ``, `string "…"`, `sequence` or `map`.
-/

namespace PosixRegistry.Json

open PosixRegistry.Number

/-- The faults of a JSON text. -/
inductive SyntaxFault where
  | eofList
  | eofObject
  | eofString
  | eofValue
  | expectedColon
  | expectedListCommaOrEnd
  | expectedObjectCommaOrEnd
  | expectedIdent
  | expectedValue
  | invalidEscape
  | invalidNumber
  | numberOutOfRange
  | invalidCodePoint
  | controlChar
  | keyMustBeString
  | loneLeadingSurrogate
  | trailingComma
  | trailingCharacters
  | unexpectedEndOfHexEscape
  | recursionLimit
  deriving DecidableEq

namespace SyntaxFault

/-- The wording of a text fault. -/
def message : SyntaxFault → String
  | .eofList => "EOF while parsing a list"
  | .eofObject => "EOF while parsing an object"
  | .eofString => "EOF while parsing a string"
  | .eofValue => "EOF while parsing a value"
  | .expectedColon => "expected `:`"
  | .expectedListCommaOrEnd => "expected `,` or `]`"
  | .expectedObjectCommaOrEnd => "expected `,` or `\x7d`"
  | .expectedIdent => "expected ident"
  | .expectedValue => "expected value"
  | .invalidEscape => "invalid escape"
  | .invalidNumber => "invalid number"
  | .numberOutOfRange => "number out of range"
  | .invalidCodePoint => "invalid unicode code point"
  | .controlChar => "control character (\\u0000-\\u001F) found while parsing a string"
  | .keyMustBeString => "key must be a string"
  | .loneLeadingSurrogate => "lone leading surrogate in hex escape"
  | .trailingComma => "trailing comma"
  | .trailingCharacters => "trailing characters"
  | .unexpectedEndOfHexEscape => "unexpected end of hex escape"
  | .recursionLimit => "recursion limit exceeded"

end SyntaxFault

/-- What a reader found where it asked for something else. -/
inductive Found where
  | null
  | bool (b : Bool)
  | int (i : Int)
  | float (x : Binary64)
  | str (s : String)
  | seq
  | map
  | unit

/-- How a found thing is named in a message. -/
def Found.describe : Found → String
  | .null => "null"
  | .bool b => s!"boolean `{b}`"
  | .int i => s!"integer `{i}`"
  | .float x => s!"floating point `{x.text}`"
  | .str s => "string " ++ Text.quote s
  | .seq => "sequence"
  | .map => "map"
  | .unit => "unit value"

/-- What a value found at a place stands for. -/
def Value.found : Value → Found
  | .null => .null
  | .bool b => .bool b
  | .int i => .int i
  | .float x => .float x
  | .str s => .str s
  | .arr _ => .seq
  | .obj _ => .map

/-- The ways well-formed JSON can miss the shape asked for. -/
inductive Mismatch where
  | invalidType (found : Found) (expected : String)
  | invalidValue (found : Found) (expected : String)
  | invalidLength (n : Nat) (expected : String)
  | missingField (name : String)
  | duplicateField (name : String)
  | unknownVariant (name : String) (allowed : List String)

/-- Names in backticks: one, two joined by `or`, more as `one of` a list. -/
def oneOf : List String → String
  | [] => "there are no variants"
  | [a] => s!"`{a}`"
  | [a, b] => s!"`{a}` or `{b}`"
  | names => "one of " ++ ", ".intercalate (names.map fun n => s!"`{n}`")

/-- The wording of a mismatch. -/
def Mismatch.message : Mismatch → String
  | .invalidType f e => s!"invalid type: {f.describe}, expected {e}"
  | .invalidValue f e => s!"invalid value: {f.describe}, expected {e}"
  | .invalidLength n e => s!"invalid length {n}, expected {e}"
  | .missingField n => s!"missing field `{n}`"
  | .duplicateField n => s!"duplicate field `{n}`"
  | .unknownVariant n [] => s!"unknown variant `{n}`, there are no variants"
  | .unknownVariant n allowed => s!"unknown variant `{n}`, expected {oneOf allowed}"

/-- A fault of the text, or a mismatch of its content. -/
inductive Cause where
  | text (f : SyntaxFault)
  | data (m : Mismatch)

/-- A place in a text: line from 1, column in bytes since the last line feed. -/
structure Pos where
  line : Nat
  col : Nat
  deriving DecidableEq

/-- One step of the path to a member. -/
inductive Step where
  | key (name : String)
  | index (i : Nat)

/-- The path written as members joined by dots, indexes in brackets. -/
def pathText : List Step → String
  | [] => ""
  | steps =>
    let rec go : Bool → List Step → String
      | _, [] => ""
      | first, .key k :: rest => (if first then "" else ".") ++ k ++ go false rest
      | _, .index i :: rest => s!"[{i}]" ++ go false rest
    go true steps

/-- A refusal: its cause, where in the text it was noticed, and the path to the member. -/
structure Fault where
  cause : Cause
  pos : Option Pos := none
  path : List Step := []

namespace Fault

/-- A text fault noticed at a place. -/
def text (f : SyntaxFault) (p : Pos) : Fault := ⟨.text f, some p, []⟩

/-- A mismatch, not yet placed. -/
def mismatch (m : Mismatch) : Fault := ⟨.data m, none, []⟩

/-- Places a refusal that has no place yet. -/
def placeAt (f : Fault) (p : Pos) : Fault :=
  match f.pos with
  | some _ => f
  | none => { f with pos := some p }

/-- Puts the refusal under a member, unless it already lies under a deeper one. -/
def under (f : Fault) (s : Step) : Fault :=
  match f.path with
  | [] => { f with path := [s] }
  | _ => f

/-- Whether the refusal is a mismatch of content rather than a fault of the text. -/
def isMismatch (f : Fault) : Bool :=
  match f.cause with
  | .data _ => true
  | .text _ => false

/-- The message without the path: the cause, then the place if there is one. -/
def message (f : Fault) : String :=
  let cause := match f.cause with
    | .text s => s.message
    | .data m => m.message
  match f.pos with
  | some p => s!"{cause} at line {p.line} column {p.col}"
  | none => cause

/-- The message with the path in front, when there is a path. -/
def messageWithPath (f : Fault) : String :=
  match f.path with
  | [] => f.message
  | steps => pathText steps ++ ": " ++ f.message

end Fault

end PosixRegistry.Json
