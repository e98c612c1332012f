import PosixRegistry.Registry.Store
import PosixRegistry.Registry.Request
/-!
# Service steps

A service step reads and changes the registry and may end in a refusal; what it changed before
the refusal stays changed, so ids drawn by a write that is then refused stay drawn. Writes go
through one audited transaction: begin, make the writes, append the audit entry, commit.
-/

namespace PosixRegistry

/-- A step of a service over the registry. -/
abbrev Service := ExceptT ServiceError (StateM Registry)

/-- A record written by a service, with the range warnings its identifier drew. -/
structure Applied (α : Type) where
  record : α
  warnings : List RangeWarning

namespace Service

/-- Refuses with a registry error. -/
def fail {α : Type} (e : RegistryError) : Service α := throw (.registry e)

/-- The tables as they are now. -/
def tables : Service Tables := return (← get).tables

/-- Takes the result of a registry computation, refusing with its error. -/
def lift {α : Type} : Except RegistryError α → Service α
  | .ok a => pure a
  | .error e => fail e

/-- Runs a transaction step that may draw ids: the draws stay whatever the outcome. -/
def drawing {α : Type} (f : Registry → Registry × Except RegistryError α) : Service α := do
  let (r, res) := f (← get)
  set r
  lift res

/-- Refuses when a request breaks field rules. -/
def checkRules (vs : List Violation) : Service Unit :=
  if vs.isEmpty then pure () else throw (violationsError vs)

/-- Reads a type name, refusing an unreadable one. -/
def parseType (s : String) : Service IdentityType :=
  match IdentityType.parse s with
  | some t => pure t
  | none => fail (.invalidType s)

/-- Starts a transaction. -/
def begin : Service Txn := return (← get).begin

/-- Appends the audit entry and commits. A refused append is an audit failure; a refused
commit keeps its own error. -/
def finish (x : Txn) (n : AuditNote) : Service Unit := do
  let r ← get
  let (r, res) := Txn.appendAudit r x n
  set r
  match res with
  | .error (.auditWriteFailed m) => fail (.auditWriteFailed m)
  | .error e => fail (.auditWriteFailed e.message)
  | .ok (_, x) =>
    match (← get).commit x with
    | .ok r => set r
    | .error e => fail e

/-- Judges an identifier against its type's range, refusing a negative one. -/
def judge (p : RangePolicy) (k : IdKind) (id : Int) (t : IdentityType) :
    Service (List RangeWarning) := do
  let w ← lift ((p.judge k id t).toResult k)
  pure w.toList

end Service

end PosixRegistry
