import PosixRegistry.Registry.Service.Query
/-!
# Records as JSON

The JSON forms of the registry's answers: accounts, groups, audit entries, written records
with their warnings, identifier proposals, duplicate checks, judgements and refusals. Types,
actions and kinds are written by their lowercase names.
-/

namespace PosixRegistry

open Json

/-- A range as `{min, max}`. -/
def IdRange.toJson (r : IdRange) : Value := .obj [("min", .int r.min), ("max", .int r.max)]

/-- An account as answered. -/
def Account.toJson (a : Account) : Value :=
  .obj [("id", .int a.id), ("unix_uid", .int a.uid), ("username", .str a.username),
    ("account_type", .str a.type.name), ("primary_group_id", Value.ofOptInt a.primaryGroup),
    ("first_name", Value.ofOptStr a.firstName), ("last_name", Value.ofOptStr a.lastName)]

/-- A group as answered. -/
def Group.toJson (g : Group) : Value :=
  .obj [("id", .int g.id), ("unix_gid", .int g.gid), ("groupname", .str g.groupname),
    ("group_type", .str g.type.name), ("description", .str g.description),
    ("created_by", Value.ofOptStr g.createdBy)]

/-- An audit entry as answered. -/
def AuditEntry.toJson (e : AuditEntry) : Value :=
  .obj [("id", .int e.id), ("action", .str e.action.name), ("entity_type", .str e.entityType.name),
    ("entity_id", .int e.entityId), ("details", .str e.details), ("user_id", .int e.userId),
    ("username", .str e.username), ("ip_address", .str e.ipAddress)]

/-- A warning as answered with a written record. -/
def RangeWarning.toJson (w : RangeWarning) : Value :=
  .obj [("kind", .str w.kind.name), ("id", .int w.id), ("type", .str w.type.name),
    ("range", w.range.toJson), ("message", .str w.message)]

/-- A warning in its own form, the type under `identity_type`. -/
def RangeWarning.rawJson (w : RangeWarning) : Value :=
  .obj [("kind", .str w.kind.name), ("id", .int w.id), ("identity_type", .str w.type.name),
    ("range", w.range.toJson)]

/-- A written record with its warnings. -/
def Applied.toJson {α : Type} (f : α → Value) (a : Applied α) : Value :=
  .obj [("record", f a.record), ("warnings", .arr (a.warnings.map RangeWarning.toJson))]

/-- A proposal as answered. -/
def NextId.toJson (n : NextId) : Value :=
  .obj [("kind", .str n.kind.name), ("type", .str n.type.name), ("next", .int n.next),
    ("range", n.range.toJson)]

/-- A duplicate check as answered. -/
def DuplicateCheck.toJson (d : DuplicateCheck) : Value :=
  .obj [("kind", .str d.kind.name), ("id", .int d.id), ("exclude_id", .int d.exclude),
    ("duplicate", .bool d.duplicate)]

/-- A judgement as answered: tagged by status. -/
def Verdict.toJson : Verdict → Value
  | .fine => .obj [("status", .str "ok")]
  | .warning w => .obj [("status", .str "warning"), ("message", .str w.message),
      ("range", w.range.toJson)]
  | .invalid r => .obj [("status", .str "invalid"), ("message", .str r.message)]

/-- A refusal as answered: code, class, status and message. -/
def ServiceError.toJson (e : ServiceError) : Value :=
  .obj [("error", .str e.code), ("kind", .str e.kind.name), ("status", .int e.status),
    ("message", .str e.message)]

/-- A registry refusal as answered. -/
def RegistryError.toJson (e : RegistryError) : Value := ServiceError.toJson (.registry e)

end PosixRegistry
