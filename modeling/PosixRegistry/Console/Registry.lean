import PosixRegistry.Console.Args
/-!
# Registry commands

The commands that drive the account, group, membership, identifier and audit services over
the session's registry, and the store's own inspection and fault switch. Request bodies are
read with their shapes from the command's `request` value; a body that does not fit its shape
is answered with the reader's message.
-/

namespace PosixRegistry.Console

open Json

/-- Runs a service step on a registry. -/
def runService {α : Type} (r : Registry) (s : Service α) : Except ServiceError α × Registry :=
  (s.run).run r

/-- The record a request value holds, or the reader's refusal. -/
def readRecord (shape : Shape) (v : Value) : Except Fault (List (Option Got)) := do
  match ← shape.ofValue v with
  | .record slots => pure slots
  | _ => pure []

/-- Runs a service on a request read from the command, answering a misfit body with the
reader's message. The actor is read once the body fits. -/
def withRequest {β : Type} (shape : Shape) (op : Value) (build : List (Option Got) → β)
    (r : Registry) (k : β → Actor → Service Value) : Args (Value × Registry) :=
  match readRecord shape (anyArg op "request") with
  | .error f => .ok (invalidRequest f.message, r)
  | .ok slots => do
    let actor ← actorArg op
    let (res, r) := runService r (k (build slots) actor)
    pure (answer id res, r)

/-- The row of an account as stored, marked or not. -/
def rawAccountJson (a : Account) : Value :=
  .obj [("id", .int a.id), ("unix_uid", .int a.uid), ("username", .str a.username),
    ("account_type", .str a.type.name), ("primary_group_id", Value.ofOptInt a.primaryGroup),
    ("first_name", Value.ofOptStr a.firstName), ("last_name", Value.ofOptStr a.lastName),
    ("deleted", .bool a.deleted), ("full_name", Value.ofOptStr a.fullName)]

/-- The audit query of a command, built member by member: the entity type and the action are
read and parsed first, each refusal of a name answering the command before any later member
is read; then the identifiers, the limit and the offset. -/
def auditQueryArg (op : Value) : Args (Except RegistryError AuditQuery) := do
  let entityType ← match ← optStr op "entity_type" with
    | some s => match AuditEntityType.parse s with
      | .ok t => pure (some t)
      | .error e => return .error e
    | none => pure none
  let action ← match ← optStr op "action" with
    | some s => match AuditAction.parse s with
      | .ok a => pure (some a)
      | .error e => return .error e
    | none => pure none
  let entityId ← optInt op "entity_id"
  let userId ← optInt op "user_id"
  let limit ← optInt op "limit"
  let offset ← optInt op "offset"
  pure (.ok { entityType, action, entityId, userId, limit := limit.getD 50,
              offset := offset.getD 0 })

/-- Runs a registry command, if the name is one. -/
def registryCommand (p : RangePolicy) (name : String) (op : Value) (r : Registry) :
    Option (Args (Value × Registry)) :=
  let run {α : Type} (f : α → Value) (s : Service α) : Args (Value × Registry) :=
    let (res, r) := runService r s
    pure (answer f res, r)
  let unit : Unit → Value := fun _ => .null
  let list {α : Type} (f : α → Value) (xs : List α) : Value := .arr (xs.map f)
  match name with
  | "create_account" => some <|
    withRequest NewAccount.shape op NewAccount.ofSlots r fun req actor =>
      (Applied.toJson Account.toJson) <$> Service.createAccount p req actor
  | "update_account" => some do
    let id ← reqInt op "id"
    withRequest AccountChange.shape op AccountChange.ofSlots r fun req actor =>
      (Applied.toJson Account.toJson) <$> Service.updateAccount p id req actor
  | "delete_account" => some do
    let id ← reqInt op "id"
    let actor ← actorArg op
    run unit (Service.deleteAccount id actor)
  | "get_account" => some do run Account.toJson (Service.findAccount (← reqInt op "id"))
  | "list_accounts" => some do run (list Account.toJson) (Service.listAccounts (← optStr op "type"))
  | "search_accounts" => some do
    let type ← optStr op "type"
    run (list Account.toJson) (Service.searchAccounts (← reqStr op "q") type)
  | "get_account_by_uid" => some do run Account.toJson (Service.accountByUid (← reqInt op "uid"))
  | "get_account_by_username" => some do
    run Account.toJson (Service.accountByName (← reqStr op "username"))
  | "get_account_groups" => some do
    run (list Group.toJson) (Service.accountGroups (← reqInt op "id"))
  | "create_group" => some <|
    withRequest NewGroup.shape op NewGroup.ofSlots r fun req actor =>
      (Applied.toJson Group.toJson) <$> Service.createGroup p req actor
  | "update_group" => some do
    let id ← reqInt op "id"
    withRequest GroupChange.shape op GroupChange.ofSlots r fun req actor =>
      (Applied.toJson Group.toJson) <$> Service.updateGroup p id req actor
  | "delete_group" => some do
    let id ← reqInt op "id"
    let actor ← actorArg op
    run unit (Service.deleteGroup id actor)
  | "get_group" => some do run Group.toJson (Service.findGroup (← reqInt op "id"))
  | "list_groups" => some do run (list Group.toJson) (Service.listGroups (← optStr op "type"))
  | "search_groups" => some do
    let type ← optStr op "type"
    run (list Group.toJson) (Service.searchGroups (← reqStr op "q") type)
  | "get_group_by_gid" => some do run Group.toJson (Service.groupByGid (← reqInt op "gid"))
  | "get_group_by_groupname" => some do
    run Group.toJson (Service.groupByName (← reqStr op "groupname"))
  | "get_group_members" => some do
    run (list Account.toJson) (Service.groupMembers (← reqInt op "id"))
  | "assign" => some do
    let a ← reqInt op "account_id"
    let g ← reqInt op "group_id"
    let actor ← actorArg op
    run unit (Service.assign a g actor)
  | "remove" => some do
    let a ← reqInt op "account_id"
    let g ← reqInt op "group_id"
    let actor ← actorArg op
    run unit (Service.remove a g actor)
  | "membership_request_validate" => some do
    let a ← reqInt op "account_id"
    let g ← reqInt op "group_id"
    let vs := (MembershipRequest.mk a g).violations
    pure (if vs.isEmpty then ok .null else (violationsError vs).toJson, r)
  | "next_uid" => some do run NextId.toJson (Service.nextId p .uid (← reqStr op "type"))
  | "next_gid" => some do run NextId.toJson (Service.nextId p .gid (← reqStr op "type"))
  | "uid_check" => some do
    let uid ← reqInt op "uid"
    run DuplicateCheck.toJson (Service.duplicateCheck .uid uid (← reqInt op "exclude_id"))
  | "gid_check" => some do
    let gid ← reqInt op "gid"
    run DuplicateCheck.toJson (Service.duplicateCheck .gid gid (← reqInt op "exclude_id"))
  | "validate_uid" => some do
    let uid ← reqInt op "uid"
    pure (ok (p.judgeNamed .uid uid (← reqStr op "type")).toJson, r)
  | "validate_gid" => some do
    let gid ← reqInt op "gid"
    pure (ok (p.judgeNamed .gid gid (← reqStr op "type")).toJson, r)
  | "audit_list" => some do
    match ← auditQueryArg op with
    | .error e => pure (e.toJson, r)
    | .ok q => run (list AuditEntry.toJson) (Service.auditList q)
  | "audit_get" => some do run AuditEntry.toJson (Service.auditGet (← reqInt op "id"))
  | "fail_audit" => some do
    let b ← reqBool op "fail"
    pure (ok .null, { r with failAudit := b })
  | "counts" => some do
    let t := r.tables
    pure (ok (.obj [("accounts", .int t.liveAccounts.length), ("groups", .int t.liveGroups.length),
      ("memberships", .int t.memberships.length), ("audit", .int t.audit.length)]), r)
  | "raw_account" => some do
    let id ← reqInt op "id"
    pure (ok ((r.tables.accounts.find? (·.id == id)).elim .null rawAccountJson), r)
  | _ => none

end PosixRegistry.Console
