import PosixRegistry.Proofs.Service.Writes

/-!
# Services — sessions

A session drives one registry from the empty one: each step is one of the eight write requests,
under any range policy and any actor, a switch of the audit fault on or off, or the wall clock
moving on — it never goes back.  The query
services only read the registry, so they add no state to a session.  `Reachable` is the set of
registries a session can leave; the invariants of the registry are proved over it, each from
one step lemma per kind of step.

A step's outcome is read off its specification: `Service.outcome_of_triple` gives, for a run,
the success or refusal that the triple promises, and `Service.outcome_preserves` says that a
property every outcome has holds after the step.
-/

open Std.Do

namespace PosixRegistry

/-- A write request of a session, with the range policy it is judged under and its actor. -/
inductive Mutation where
  | createAccount (p : RangePolicy) (req : NewAccount) (actor : Actor)
  | updateAccount (p : RangePolicy) (id : Int) (req : AccountChange) (actor : Actor)
  | deleteAccount (id : Int) (actor : Actor)
  | createGroup (p : RangePolicy) (req : NewGroup) (actor : Actor)
  | updateGroup (p : RangePolicy) (id : Int) (req : GroupChange) (actor : Actor)
  | deleteGroup (id : Int) (actor : Actor)
  | assign (account group : Int) (actor : Actor)
  | remove (account group : Int) (actor : Actor)

namespace Service

/-- A run of a service step on a registry with its value forgotten: whether it succeeded, and
the registry it left. -/
def outcome {α : Type} (s : Service α) (r : Registry) : Except ServiceError Unit × Registry :=
  ((s.run.run r).1.map fun _ => (), (s.run.run r).2)

variable {α : Type} {s : Service α} {r0 : Registry} {Q : α → Registry → Prop}

/-- The outcome of a run is one the triple promises. -/
theorem outcome_of_triple {E : ServiceError → Registry → Prop}
    (h : ⦃fun r => ⌜r = r0⌝⦄ s ⦃post⟨fun a r => ⌜Q a r⌝, fun e r => ⌜E e r⌝⟩⦄) :
    match s.outcome r0 with
    | (.ok _, r) => ∃ a, Q a r
    | (.error e, r) => E e r := by
  have hrun := run_of_triple h (r := r0) rfl
  unfold outcome
  generalize s.run.run r0 = x at hrun ⊢
  rcases x with ⟨e | a, r⟩
  · exact hrun
  · exact ⟨a, hrun⟩

/-- A property that every success and every roll-back the triple allows has holds after the
step. -/
theorem outcome_preserves {I : Registry → Prop}
    (h : ⦃fun r => ⌜r = r0⌝⦄ s ⦃post⟨fun a r => ⌜Q a r⌝, fun _ r => ⌜r0.RolledBack r⌝⟩⦄)
    (hok : ∀ a r, Q a r → I r) (hback : ∀ r, r0.RolledBack r → I r) : I (s.outcome r0).2 := by
  have ho := outcome_of_triple h
  generalize s.outcome r0 = o at ho ⊢
  rcases o with ⟨_ | _, r⟩
  · exact hback r ho
  · obtain ⟨a, ha⟩ := ho
    exact hok a r ha

end Service

namespace Mutation

/-- Runs a write request on a registry. -/
def run : Mutation → Registry → Except ServiceError Unit × Registry
  | createAccount p req actor => (Service.createAccount p req actor).outcome
  | updateAccount p id req actor => (Service.updateAccount p id req actor).outcome
  | deleteAccount id actor => (Service.deleteAccount id actor).outcome
  | createGroup p req actor => (Service.createGroup p req actor).outcome
  | updateGroup p id req actor => (Service.updateGroup p id req actor).outcome
  | deleteGroup id actor => (Service.deleteGroup id actor).outcome
  | assign account group actor => (Service.assign account group actor).outcome
  | remove account group actor => (Service.remove account group actor).outcome

/-- The actor a request is made by. -/
def actor : Mutation → Actor
  | createAccount _ _ a | updateAccount _ _ _ a | deleteAccount _ a | createGroup _ _ a
  | updateGroup _ _ _ a | deleteGroup _ a | assign _ _ a | remove _ _ a => a

/-- The audit action a request records. -/
def action : Mutation → AuditAction
  | createAccount .. | createGroup .. => .create
  | updateAccount .. | updateGroup .. => .update
  | deleteAccount .. | deleteGroup .. => .delete
  | assign .. => .assign
  | remove .. => .remove

/-- The kind of record a request's audit entry is about. -/
def entityType : Mutation → AuditEntityType
  | createAccount .. | updateAccount .. | deleteAccount .. => .account
  | createGroup .. | updateGroup .. | deleteGroup .. => .group
  | assign .. | remove .. => .accountGroup

end Mutation

/-- One step of a session: a write request, switching the audit fault, or the wall clock moving
on, never back. -/
inductive Session.Step : Registry → Registry → Prop
  | mutate (m : Mutation) (r : Registry) : Step r (m.run r).2
  | switchAudit (fail : Bool) (r : Registry) : Step r { r with failAudit := fail }
  | tick (t : Int) (r : Registry) (h : r.clock ≤ t) : Step r { r with clock := t }

/-- The registries a session can leave, starting from the empty registry. -/
inductive Reachable : Registry → Prop
  | empty : Reachable {}
  | step {r r' : Registry} (h : Reachable r) (hs : Session.Step r r') : Reachable r'

/-- An invariant of every step holds of every registry a session leaves. -/
theorem Reachable.invariant {I : Registry → Prop} (hempty : I {})
    (hstep : ∀ {r r'}, I r → Session.Step r r' → I r') {r : Registry} (h : Reachable r) : I r := by
  induction h with
  | empty => exact hempty
  | step _ hs ih => exact hstep ih hs

end PosixRegistry
