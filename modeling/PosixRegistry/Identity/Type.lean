import PosixRegistry.Text.Blank
/-!
# Identity types and identifier spaces

Every account and group has one of four identity types. The type decides which range its
numeric identifier is expected to fall in and which group types an account may join. Numeric
identifiers live in one of two spaces: user ids for accounts, group ids for groups.

A type name is read after trimming Unicode white space and lowering ASCII letters; the exact
lowercase names are the only ones written.
-/

namespace PosixRegistry

/-- The four classifications shared by accounts and groups. -/
inductive IdentityType where
  | people
  | system
  | service
  | database
  deriving DecidableEq, Repr, Inhabited

namespace IdentityType

/-- The lowercase name, used on the wire and in messages. -/
def name : IdentityType → String
  | .people => "people"
  | .system => "system"
  | .service => "service"
  | .database => "database"

/-- All types, in range order. -/
def all : List IdentityType := [.system, .people, .service, .database]

/-- The type with exactly this name. -/
def ofName? : String → Option IdentityType
  | "people" => some .people
  | "system" => some .system
  | "service" => some .service
  | "database" => some .database
  | _ => none

/-- The type named by a text, read after trimming white space and lowering ASCII letters. -/
def parse (s : String) : Option IdentityType :=
  ofName? (String.map Char.toLower (Text.trimBlank s))

/-- Whether this is the system type. -/
def isSystem (t : IdentityType) : Bool := t == .system

theorem ofName_name (t : IdentityType) : ofName? t.name = some t := by
  cases t <;> rfl

end IdentityType

/-- The two identifier spaces. -/
inductive IdKind where
  | uid
  | gid
  deriving DecidableEq, Repr, Inhabited

namespace IdKind

/-- The uppercase label used in messages. -/
def label : IdKind → String
  | .uid => "UID"
  | .gid => "GID"

/-- The lowercase name used on the wire. -/
def name : IdKind → String
  | .uid => "uid"
  | .gid => "gid"

/-- The space with exactly this name. -/
def ofName? : String → Option IdKind
  | "uid" => some .uid
  | "gid" => some .gid
  | _ => none

end IdKind

end PosixRegistry
