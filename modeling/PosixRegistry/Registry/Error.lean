import PosixRegistry.Identity.Range
/-!
# Registry errors

Every refusal of the registry has a code, a kind and an HTTP status that follows from the
kind: structural problems are 400, conflicts 409, broken references 422, missing records 404,
storage and audit failures 500. A service adds one more refusal, a validation failure with a
free message, which counts as structural.
-/

namespace PosixRegistry

/-- The classes of refusal. -/
inductive ErrorKind where
  | structuralInvalid
  | duplicateConflict
  | referential
  | notFound
  | persistence
  | auditWrite
  deriving DecidableEq, Repr

namespace ErrorKind

/-- The name of the class. -/
def name : ErrorKind → String
  | .structuralInvalid => "StructuralInvalid"
  | .duplicateConflict => "DuplicateConflict"
  | .referential => "Referential"
  | .notFound => "NotFound"
  | .persistence => "Persistence"
  | .auditWrite => "AuditWrite"

/-- The HTTP status of the class. -/
def status : ErrorKind → Nat
  | .structuralInvalid => 400
  | .notFound => 404
  | .duplicateConflict => 409
  | .referential => 422
  | .persistence | .auditWrite => 500

end ErrorKind

/-- The refusals of the registry. -/
inductive RegistryError where
  | accountNotFound (id : Int)
  | groupNotFound (id : Int)
  | accountNotFoundBy (field value : String)
  | groupNotFoundBy (field value : String)
  | membershipNotFound (account group : Int)
  | auditEntryNotFound (id : Int)
  | negativeIdentifier (kind : IdKind)
  | invalidType (name : String)
  | validation (message : String)
  | uidTaken (uid : Int)
  | gidTaken (gid : Int)
  | usernameTaken (name : String)
  | groupnameTaken (name : String)
  | alreadyMember (account group : Int)
  | groupInUse (group accounts : Int)
  | primaryGroupRequired
  | primaryGroupNotSystem (group : Int) (type : IdentityType)
  | missingReference (entity : String) (id : Int)
  | incompatibleTypes (account group : IdentityType)
  | database (message : String)
  | auditWriteFailed (message : String)
  | internal (message : String)
  deriving DecidableEq, Repr

namespace RegistryError

/-- The class of a refusal. -/
def kind : RegistryError → ErrorKind
  | .accountNotFound _ | .groupNotFound _ | .accountNotFoundBy .. | .groupNotFoundBy ..
  | .membershipNotFound .. | .auditEntryNotFound _ => .notFound
  | .negativeIdentifier _ | .invalidType _ | .validation _ => .structuralInvalid
  | .uidTaken _ | .gidTaken _ | .usernameTaken _ | .groupnameTaken _ | .alreadyMember ..
  | .groupInUse .. => .duplicateConflict
  | .primaryGroupRequired | .primaryGroupNotSystem .. | .missingReference ..
  | .incompatibleTypes .. => .referential
  | .database _ | .internal _ => .persistence
  | .auditWriteFailed _ => .auditWrite

/-- The stable code of a refusal. -/
def code : RegistryError → String
  | .accountNotFound _ | .accountNotFoundBy .. => "UNKNOWN_ACCOUNT"
  | .groupNotFound _ | .groupNotFoundBy .. => "UNKNOWN_GROUP"
  | .membershipNotFound .. => "UNKNOWN_MEMBERSHIP"
  | .auditEntryNotFound _ => "UNKNOWN_AUDIT_ENTRY"
  | .negativeIdentifier _ => "NEGATIVE_IDENTIFIER"
  | .invalidType _ => "INVALID_TYPE"
  | .validation _ => "VALIDATION_ERROR"
  | .uidTaken _ => "UID_TAKEN"
  | .gidTaken _ => "GID_TAKEN"
  | .usernameTaken _ => "USERNAME_TAKEN"
  | .groupnameTaken _ => "GROUPNAME_TAKEN"
  | .alreadyMember .. => "ALREADY_MEMBER"
  | .groupInUse .. => "GROUP_IN_USE"
  | .primaryGroupRequired => "PRIMARY_GROUP_REQUIRED"
  | .primaryGroupNotSystem .. => "PRIMARY_GROUP_NOT_SYSTEM"
  | .missingReference .. => "MISSING_REFERENCE"
  | .incompatibleTypes .. => "INCOMPATIBLE_TYPES"
  | .database _ => "DATABASE_ERROR"
  | .auditWriteFailed _ => "AUDIT_WRITE_FAILED"
  | .internal _ => "INTERNAL_ERROR"

/-- The message of a refusal. -/
def message : RegistryError → String
  | .accountNotFound id => s!"Account not found: {id}"
  | .groupNotFound id => s!"Group not found: {id}"
  | .accountNotFoundBy f v => s!"No account with {f} {v}"
  | .groupNotFoundBy f v => s!"No group with {f} {v}"
  | .membershipNotFound a g => s!"Account {a} is not a member of group {g}"
  | .auditEntryNotFound id => s!"Audit entry not found: {id}"
  | .negativeIdentifier k => s!"{k.label} cannot be negative"
  | .invalidType s => s!"invalid type: {s}"
  | .validation s => s!"Validation error: {s}"
  | .uidTaken u => s!"account with UID {u} already exists"
  | .gidTaken g => s!"group with GID {g} already exists"
  | .usernameTaken n => s!"account with username {n} already exists"
  | .groupnameTaken n => s!"group with groupname {n} already exists"
  | .alreadyMember a g => s!"account {a} is already a member of group {g}"
  | .groupInUse g n => s!"group {g} is the primary group of {n} account(s)"
  | .primaryGroupRequired => "system accounts must have a primary group"
  | .primaryGroupNotSystem g t =>
    s!"system accounts must have a system group as primary group (group {g} is {t.name})"
  | .missingReference e id => s!"{e} with ID {id} not found"
  | .incompatibleTypes a g =>
    s!"account of type {a.name} cannot be assigned to group of type {g.name}"
  | .database s => s!"Database error: {s}"
  | .auditWriteFailed s => s!"Audit write failed: {s}"
  | .internal s => s!"Internal error: {s}"

/-- The HTTP status of a refusal. -/
def status (e : RegistryError) : Nat := e.kind.status

end RegistryError

/-- A refusal of a service: one of the registry, or a failed validation. -/
inductive ServiceError where
  | registry (e : RegistryError)
  | invalid (message : String)
  deriving DecidableEq, Repr

namespace ServiceError

/-- The class of a refusal. -/
def kind : ServiceError → ErrorKind
  | .registry e => e.kind
  | .invalid _ => .structuralInvalid

/-- The HTTP status of a refusal. -/
def status : ServiceError → Nat
  | .registry e => e.status
  | .invalid _ => 400

/-- The stable code of a refusal. -/
def code : ServiceError → String
  | .registry e => e.code
  | .invalid _ => "VALIDATION_ERROR"

/-- The message of a refusal. -/
def message : ServiceError → String
  | .registry e => e.message
  | .invalid s => s!"Validation error: {s}"

end ServiceError

instance : Coe RegistryError ServiceError := ⟨.registry⟩

/-- A judgement as a result: fine or a warning is accepted, a refusal is the registry error
for a negative identifier or an unreadable type name. -/
def Verdict.toResult (k : IdKind) : Verdict → Except RegistryError (Option RangeWarning)
  | .fine => .ok none
  | .warning w => .ok (some w)
  | .invalid .negative => .error (.negativeIdentifier k)
  | .invalid (.unknownType n) => .error (.invalidType n)

end PosixRegistry
