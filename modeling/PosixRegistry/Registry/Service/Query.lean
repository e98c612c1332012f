import PosixRegistry.Registry.Service.Membership
/-!
# Identifier and audit services

Proposals of the next user or group id for a type, duplicate checks of an identifier
(excluding one record id, 0 excluding none), judgements of an identifier against a type given
by name, and pages of the audit log.
-/

namespace PosixRegistry

/-- A proposed identifier with the range it was drawn for. -/
structure NextId where
  kind : IdKind
  type : IdentityType
  next : Int
  range : IdRange

/-- The answer of a duplicate check. -/
structure DuplicateCheck where
  kind : IdKind
  id : Int
  exclude : Int
  duplicate : Bool

namespace Service

/-- The next free identifier of a type in a space. -/
def nextId (p : RangePolicy) (k : IdKind) (type : String) : Service NextId := do
  let t ← parseType type
  let next ← match k with
    | .uid => nextUid p t
    | .gid => nextGid p t
  pure ⟨k, t, next, p.rangeFor k t⟩

/-- Whether a live record other than the excluded one has the identifier. -/
def duplicateCheck (k : IdKind) (id exclude : Int) : Service DuplicateCheck := do
  let t ← tables
  let dup := match k with
    | .uid => t.uidTaken id exclude
    | .gid => t.gidTaken id exclude
  pure ⟨k, id, exclude, dup⟩

/-- A page of the audit log. -/
def auditList (q : AuditQuery) : Service (List AuditEntry) :=
  return (← tables).auditPage q.normalized

/-- The audit entry with an id. -/
def auditGet (id : Int) : Service AuditEntry := do
  match (← tables).findAudit? id with
  | some e => pure e
  | none => fail (.auditEntryNotFound id)

end Service

end PosixRegistry
