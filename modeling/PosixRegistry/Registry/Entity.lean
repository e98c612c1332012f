import PosixRegistry.Registry.Error
/-!
# Records of the registry

Accounts and groups carry a record id drawn from the registry's one sequence, a numeric
identifier (user id or group id), a name and an identity type. Deleting marks a record and
keeps it. A membership pairs an account id with a group id. Every write leaves an audit entry
naming the action, the kind of record, its id, a line of details and the actor behind it.
-/

namespace PosixRegistry

/-- An account row. -/
structure Account where
  id : Int
  uid : Int
  username : String
  type : IdentityType
  primaryGroup : Option Int := none
  firstName : Option String := none
  lastName : Option String := none
  deleted : Bool := false
  deriving DecidableEq, Repr, Inhabited

namespace Account

/-- The first and last name joined by a space, or whichever one is given. -/
def fullName (a : Account) : Option String :=
  match a.firstName, a.lastName with
  | some f, some l => some s!"{f} {l}"
  | some n, none | none, some n => some n
  | none, none => none

/-- Whether the account is of the system type. -/
def isSystem (a : Account) : Bool := a.type.isSystem

end Account

/-- The fields of an account that a write sets. -/
structure AccountDraft where
  uid : Int
  username : String
  type : IdentityType
  primaryGroup : Option Int
  firstName : Option String
  lastName : Option String
  deriving DecidableEq, Repr

/-- The draft that leaves an account as it is. -/
def Account.draft (a : Account) : AccountDraft :=
  ⟨a.uid, a.username, a.type, a.primaryGroup, a.firstName, a.lastName⟩

/-- The account with a draft's fields set. -/
def Account.withDraft (a : Account) (d : AccountDraft) : Account :=
  { a with uid := d.uid, username := d.username, type := d.type, primaryGroup := d.primaryGroup,
           firstName := d.firstName, lastName := d.lastName }

/-- A group row. -/
structure Group where
  id : Int
  gid : Int
  groupname : String
  type : IdentityType
  description : String := ""
  createdBy : Option String := none
  deleted : Bool := false
  deriving DecidableEq, Repr, Inhabited

/-- Whether the group is of the system type. -/
def Group.isSystem (g : Group) : Bool := g.type.isSystem

/-- The fields of a group that a write sets. -/
structure GroupDraft where
  gid : Int
  groupname : String
  type : IdentityType
  description : String
  createdBy : Option String
  deriving DecidableEq, Repr

/-- The draft that leaves a group as it is. -/
def Group.draft (g : Group) : GroupDraft :=
  ⟨g.gid, g.groupname, g.type, g.description, g.createdBy⟩

/-- The group with a draft's identifier, name, type and description set; its creator stays. -/
def Group.withDraft (g : Group) (d : GroupDraft) : Group :=
  { g with gid := d.gid, groupname := d.groupname, type := d.type, description := d.description }

/-- A membership row. -/
structure Membership where
  account : Int
  group : Int
  deriving DecidableEq, Repr

/-- Who performs a write. -/
structure Actor where
  userId : Int
  username : String
  ipAddress : String
  deriving DecidableEq, Repr

/-- The actor used when none is given. -/
def Actor.standard : Actor := ⟨1, "admin", "10.0.0.1"⟩

/-- What an audited write did. -/
inductive AuditAction where
  | create
  | update
  | delete
  | assign
  | remove
  deriving DecidableEq, Repr

namespace AuditAction

/-- All actions, in declaration order. -/
def all : List AuditAction := [.create, .update, .delete, .assign, .remove]

/-- The lowercase name. -/
def name : AuditAction → String
  | .create => "create"
  | .update => "update"
  | .delete => "delete"
  | .assign => "assign"
  | .remove => "remove"

/-- The action with exactly this name. -/
def ofName? : String → Option AuditAction
  | "create" => some .create
  | "update" => some .update
  | "delete" => some .delete
  | "assign" => some .assign
  | "remove" => some .remove
  | _ => none

/-- Reads an action; a text that is no action's exact name is a validation refusal. -/
def parse (s : String) : Except RegistryError AuditAction :=
  match ofName? s with
  | some a => .ok a
  | none => .error (.validation s!"unknown audit action: {s}")

end AuditAction

/-- What kind of record an audit entry is about. -/
inductive AuditEntityType where
  | account
  | group
  | accountGroup
  deriving DecidableEq, Repr

namespace AuditEntityType

/-- All kinds, in declaration order. -/
def all : List AuditEntityType := [.account, .group, .accountGroup]

/-- The snake-case name. -/
def name : AuditEntityType → String
  | .account => "account"
  | .group => "group"
  | .accountGroup => "account_group"

/-- The kind with exactly this name. -/
def ofName? : String → Option AuditEntityType
  | "account" => some .account
  | "group" => some .group
  | "account_group" => some .accountGroup
  | _ => none

/-- Reads a kind; a text that is no kind's exact name is a validation refusal. -/
def parse (s : String) : Except RegistryError AuditEntityType :=
  match ofName? s with
  | some t => .ok t
  | none => .error (.validation s!"unknown audit entity type: {s}")

end AuditEntityType

/-- An audit entry as stored, with the time it was appended. -/
structure AuditEntry where
  id : Int
  action : AuditAction
  entityType : AuditEntityType
  entityId : Int
  details : String
  userId : Int
  username : String
  ipAddress : String
  timestamp : Int
  deriving DecidableEq, Repr

/-- Whether an audit entry comes before another, newest first: the later time first, and of
two at one time the greater id. -/
def AuditEntry.newerOrSame (a b : AuditEntry) : Bool :=
  b.timestamp < a.timestamp || (a.timestamp = b.timestamp && b.id ≤ a.id)

/-- An audit entry before the store gives it an id. -/
structure AuditNote where
  action : AuditAction
  entityType : AuditEntityType
  entityId : Int
  details : String
  actor : Actor
  deriving DecidableEq, Repr

/-- The stored entry of a note under an id, stamped with a time. -/
def AuditNote.entry (n : AuditNote) (id : Int) (timestamp : Int) : AuditEntry :=
  ⟨id, n.action, n.entityType, n.entityId, n.details, n.actor.userId, n.actor.username,
    n.actor.ipAddress, timestamp⟩

/-- A filter over the audit log with a page size and a start. -/
structure AuditQuery where
  entityType : Option AuditEntityType := none
  action : Option AuditAction := none
  entityId : Option Int := none
  userId : Option Int := none
  limit : Int := 50
  offset : Int := 0
  deriving DecidableEq, Repr

namespace AuditQuery

/-- The page size used when none, or none positive, is given. -/
def defaultLimit : Int := 50

/-- The largest page size. -/
def maxLimit : Int := 500

/-- Whether an entry passes every filter that is set. -/
def admits (q : AuditQuery) (e : AuditEntry) : Bool :=
  (q.entityType.all (· == e.entityType)) && (q.action.all (· == e.action)) &&
    (q.entityId.all (· == e.entityId)) && (q.userId.all (· == e.userId))

/-- The query with a usable page: a size that is not positive becomes the default, sizes are
capped, and a negative start becomes zero. -/
def normalized (q : AuditQuery) : AuditQuery :=
  let limit := if q.limit ≤ 0 then defaultLimit else q.limit
  { q with limit := min limit maxLimit, offset := max q.offset 0 }

end AuditQuery

end PosixRegistry
