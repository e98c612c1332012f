import PosixRegistry.Console.Args
/-!
# Commands over the pure core

Type names, ranges, judgements, proposals, compatibility, name rules, audit names and queries,
refusals and their classes, and the small records built from them. These commands read the
session's range policy and change nothing.
-/

namespace PosixRegistry.Console

open Json

/-- A judgement as a result value: `{"ok": null}`, `{"ok": warning}` or a refusal. -/
def verdictResult (k : IdKind) (v : Verdict) : Value :=
  match v.toResult k with
  | .ok none => ok .null
  | .ok (some w) => ok w.rawJson
  | .error e => e.toJson

/-- The registry error a command describes by variant name and arguments. -/
def errorArg (op : Value) : Args RegistryError := do
  let variant ← reqStr op "variant"
  match variant with
  | "AccountNotFound" => return .accountNotFound (← reqInt op "a")
  | "GroupNotFound" => return .groupNotFound (← reqInt op "a")
  | "AuditEntryNotFound" => return .auditEntryNotFound (← reqInt op "a")
  | "UidTaken" => return .uidTaken (← reqInt op "a")
  | "GidTaken" => return .gidTaken (← reqInt op "a")
  | "AccountNotFoundBy" => do
    let field ← reqStr op "field"
    if field != "UID" && field != "username" then throw s!"unsupported field {field}"
    return .accountNotFoundBy field (← reqStr op "s")
  | "GroupNotFoundBy" => do
    let field ← reqStr op "field"
    if field != "GID" && field != "groupname" then throw s!"unsupported field {field}"
    return .groupNotFoundBy field (← reqStr op "s")
  | "MembershipNotFound" => return .membershipNotFound (← reqInt op "a") (← reqInt op "b")
  | "AlreadyMember" => return .alreadyMember (← reqInt op "a") (← reqInt op "b")
  | "GroupInUse" => return .groupInUse (← reqInt op "a") (← reqInt op "b")
  | "NegativeIdentifier" => return .negativeIdentifier (← reqKind op "kind")
  | "InvalidType" => return .invalidType (← reqStr op "s")
  | "ValidationError" => return .validation (← reqStr op "s")
  | "UsernameTaken" => return .usernameTaken (← reqStr op "s")
  | "GroupnameTaken" => return .groupnameTaken (← reqStr op "s")
  | "DatabaseError" => return .database (← reqStr op "s")
  | "AuditWriteFailed" => return .auditWriteFailed (← reqStr op "s")
  | "InternalError" => return .internal (← reqStr op "s")
  | "PrimaryGroupRequired" => return .primaryGroupRequired
  | "PrimaryGroupNotSystem" => return .primaryGroupNotSystem (← reqInt op "a") (← reqType op "type")
  | "MissingReference" => do
    let entity ← reqStr op "entity"
    if entity != "group" && entity != "account" then throw s!"unsupported entity {entity}"
    return .missingReference entity (← reqInt op "a")
  | "IncompatibleTypes" => return .incompatibleTypes (← reqType op "type") (← reqType op "type2")
  | v => throw s!"unknown variant {v}"

/-- A registry error with its class tests and its service form. -/
def errorInfo (e : RegistryError) : Value :=
  .obj [("code", .str e.code), ("kind", .str e.kind.name), ("status", .int e.status),
    ("message", .str e.message), ("is_not_found", .bool (e.kind == .notFound)),
    ("is_validation", .bool (e.kind == .structuralInvalid)),
    ("is_conflict", .bool (e.kind == .duplicateConflict)),
    ("is_referential", .bool (e.kind == .referential)),
    ("is_audit_write", .bool (e.kind == .auditWrite)), ("service", e.toJson)]

/-- The names of a value of an enumeration: its own name, its display and its JSON form. -/
def namesJson (n : String) : Value := .obj [("as_str", .str n), ("display", .str n), ("json", .str n)]

/-- A warning described by a command's `kind`, `id`, `type`, `min` and `max`. -/
def warningArg (op : Value) : Args RangeWarning := do
  let kind ← reqKind op "kind"
  let id ← reqInt op "id"
  let type ← reqType op "type"
  let min ← reqInt op "min"
  let max ← reqInt op "max"
  pure ⟨kind, id, type, ⟨min, max⟩⟩

/-- The items of a list argument. -/
def listArg (op : Value) (name : String) : Args (List Value) :=
  match op.get? name with
  | some (.arr xs) => .ok xs
  | none => .error s!"missing field {name}"
  | some _ => .error s!"{name} must be an array"

/-- One broken rule given as `[field, code, message or null]`. -/
def violationArg : Value → Args Violation
  | .arr [.str field, .str code, m] =>
    match m with
    | .str m => .ok ⟨field, code, some m, []⟩
    | .null => .ok ⟨field, code, none, []⟩
    | _ => .error "message must be a string or null"
  | .arr [_, _, _] => .error "field and code must be strings"
  | _ => .error "each error must be [field, code, message]"

/-- Reads an audit enumeration value through its shape. -/
def enumFromJson (names : List String) (v : Value) : Value :=
  match (Shape.choice names).ofValue v with
  | .ok (.choice n) => ok (.str n)
  | .ok _ => ok .null
  | .error f => invalidRequest f.message

/-- The audit query of `audit_query_matches`: filters set on a new query. -/
def matchQueryArg (q : Value) : Args AuditQuery := do
  let t ← match ← optStr q "entity_type" with
    | some s => match AuditEntityType.ofName? s with
      | some t => pure (some t)
      | none => throw "unknown entity_type"
    | none => pure none
  let a ← match ← optStr q "action" with
    | some s => match AuditAction.ofName? s with
      | some a => pure (some a)
      | none => throw "unknown action"
    | none => pure none
  pure { entityType := t, action := a, entityId := ← optInt q "entity_id",
         userId := ← optInt q "user_id" }

/-- The audit entry of `audit_query_matches`, read in the order of its fields. -/
def matchEntryArg (e : Value) : Args AuditEntry := do
  let id ← optInt e "id"
  let a ← reqStr e "action"
  let action ← match AuditAction.ofName? a with
    | some a => pure a
    | none => throw "entry action must be a known action"
  let t ← reqStr e "entity_type"
  let entityType ← match AuditEntityType.ofName? t with
    | some t => pure t
    | none => throw "entry entity_type must be a known type"
  let entityId ← reqInt e "entity_id"
  let userId ← reqInt e "user_id"
  pure ⟨id.getD 0, action, entityType, entityId, "", userId, "", "", 0⟩

/-- The parts a context builder needs, in the order it checks them. -/
def contextParts : List String := ["account_repo", "group_repo", "membership_repo", "audit_repo", "store"]

/-- Runs a core command, if the name is one. -/
def coreCommand (p : RangePolicy) (name : String) (op : Value) : Option (Args Value) :=
  match name with
  | "parse_type" => some do
    let s ← reqStr op "s"
    pure (match IdentityType.parse s with
      | some t => ok (.str t.name)
      | none => RegistryError.toJson (.invalidType s))
  | "range_for_name" => some do
    let k ← reqKind op "kind"
    let s ← reqStr op "type"
    pure (match IdentityType.parse s with
      | some t => ok (p.rangeFor k t).toJson
      | none => RegistryError.toJson (.invalidType s))
  | "validate_id" => some do
    let k ← reqKind op "kind"
    let id ← reqInt op "id"
    let t ← reqType op "type"
    let v := p.judge k id t
    let status := match v with
      | .fine => "ok"
      | .warning _ => "warning"
      | .invalid _ => "invalid"
    pure (ok (.obj [("status", .str status), ("message", Value.ofOptStr v.message),
      ("result", verdictResult k v)]))
  | "validate_named" => some do
    let k ← reqKind op "kind"
    let id ← reqInt op "id"
    let v := p.judgeNamed k id (← reqStr op "type")
    pure (ok (.obj [("outcome", v.toJson), ("result", verdictResult k v)]))
  | "id_outcome" => some do
    let k ← reqKind op "kind"
    let id ← reqInt op "id"
    let v := p.judgeNamed k id (← reqStr op "type")
    pure (ok (.obj [("is_ok", .bool v.isFine), ("is_warning", .bool v.isWarning),
      ("is_invalid", .bool v.isInvalid), ("message", Value.ofOptStr v.message)]))
  | "next_after" => some do
    let k ← reqKind op "kind"
    let m ← optInt op "max"
    let t ← reqType op "type"
    pure (ok (.int (p.nextAfter k m t)))
  | "is_compatible" => some do
    let a ← reqType op "account_type"
    let g ← reqType op "group_type"
    pure (ok (.bool (compatible a g)))
  | "validate_unix_name" => some do
    let n ← reqStr op "name"
    pure (if isUnixName n then ok .null else
      .obj [("error", .str "ValidationError"), ("code", .str "unix_name"),
        ("message", .str unixNameMessage)])
  | "audit_query_normalized" => some do
    let q : AuditQuery := { limit := ← reqInt op "limit", offset := ← reqInt op "offset" }
    let q := q.normalized
    pure (ok (.obj [("limit", .int q.limit), ("offset", .int q.offset)]))
  | "parse_audit_action" => some do
    let s ← reqStr op "s"
    pure (match AuditAction.parse s with
      | .ok a => ok (.str a.name)
      | .error e => e.toJson)
  | "parse_audit_entity_type" => some do
    let s ← reqStr op "s"
    pure (match AuditEntityType.parse s with
      | .ok t => ok (.str t.name)
      | .error e => e.toJson)
  | "error_info" => some do pure (ok (errorInfo (← errorArg op)))
  | "service_validation_error" => some do
    pure (ok (ServiceError.toJson (.invalid (← reqStr op "s"))))
  | "build_context" => some do
    let parts ← listArg op "parts"
    let given := parts.filterMap fun
      | .str s => some s
      | _ => none
    pure (match contextParts.find? (!given.contains ·) with
      | some missing => ServiceError.toJson (.invalid s!"{missing} is required")
      | none =>
        let policy := if given.contains "policy" then p else RangePolicy.standard
        ok (.obj [("default_policy", .bool (policy == RangePolicy.standard))]))
  | "readiness" => some do
    let healthy ← reqBool op "database_healthy"
    pure (ok (.obj [("status", .str (if healthy then "ready" else "not_ready")),
      ("checks", .obj [("database", .str (if healthy then "healthy" else "unhealthy"))]),
      ("is_ready", .bool healthy)]))
  | "health" => some (pure (ok (.obj [("status", .str "healthy")])))
  | "identity_type_info" => some do
    let s ← reqStr op "s"
    pure (match IdentityType.parse s with
      | some t => ok (.obj [("as_str", .str t.name), ("display", .str t.name),
          ("is_system", .bool t.isSystem), ("json", .str t.name)])
      | none => RegistryError.toJson (.invalidType s))
  | "id_kind_info" => some do
    let k ← reqKind op "kind"
    pure (ok (.obj [("label", .str k.label), ("display", .str k.label), ("json", .str k.name)]))
  | "range_warning" => some do
    let w ← warningArg op
    pure (ok (.obj [("message", .str w.message), ("display", .str w.message),
      ("range_display", .str w.range.text), ("json", w.rawJson),
      ("validator_kind", .str w.kind.name)]))
  | "applied" => some do
    let ws ← (← listArg op "warnings").mapM fun
      | .obj fields => warningArg (.obj fields)
      | _ => throw "warning must be an object"
    let a : Applied Value := ⟨.obj [("wrapped", ← reqAny op "record")], ws⟩
    pure (ok (.obj [("has_warnings", .bool !ws.isEmpty), ("mapped", a.toJson id)]))
  | "validation_errors" => some do
    let vs ← (← listArg op "errors").mapM violationArg
    pure (violationsError vs).toJson
  | "account_entity" => some do
    let uid ← reqInt op "unix_uid"
    let username ← reqStr op "username"
    let type ← reqType op "type"
    let a : Account := { id := 0, uid, username, type, primaryGroup := ← optInt op "primary_group_id",
                         firstName := ← optStr op "first_name", lastName := ← optStr op "last_name" }
    pure (ok (.obj [("id", .int a.id), ("is_deleted", .bool a.deleted),
      ("is_system", .bool a.isSystem), ("full_name", Value.ofOptStr a.fullName),
      ("touch_moves_forward", .bool true),
      ("draft", .obj [("unix_uid", .int a.uid), ("username", .str a.username),
        ("account_type", .str a.type.name), ("primary_group_id", Value.ofOptInt a.primaryGroup),
        ("first_name", Value.ofOptStr a.firstName), ("last_name", Value.ofOptStr a.lastName)])]))
  | "audit_enums" => some do
    pure (ok (.obj [("actions", .arr (AuditAction.all.map fun a => namesJson a.name)),
      ("entity_types", .arr (AuditEntityType.all.map fun t => namesJson t.name))]))
  | "audit_action_from_json" => some do
    pure (enumFromJson (AuditAction.all.map AuditAction.name) (← reqAny op "value"))
  | "audit_entity_type_from_json" => some do
    pure (enumFromJson (AuditEntityType.all.map AuditEntityType.name) (← reqAny op "value"))
  | "audit_query_matches" => some do
    let q ← matchQueryArg (← reqObj op "query")
    let e ← matchEntryArg (← reqObj op "entry")
    pure (ok (.obj [("limit", .int q.limit), ("offset", .int q.offset),
      ("matches", .bool (q.admits e))]))
  | _ => none

end PosixRegistry.Console
