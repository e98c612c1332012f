import PosixRegistry.Proofs.Service.Identifiers

/-!
# Services — every write is audited, all or nothing

A write request either changes the registry by exactly its write and one audit entry, or leaves
the tables as they were (`reachable_writes_atomic`).  On success, the accounts, groups and
memberships change by the write the request names (`Mutation.Names`) — a create inserts a live
row under an id no stored row has, an update writes the row with the given id, a delete marks
it, an assignment inserts the pair and a removal deletes it — and the audit log gains exactly
one entry, naming the request's action, the kind of record, the record and the actor.  On a
refusal, wherever it comes from, the tables are as they were.

The success half is read off each request's specification (`Registry.Wrote.committed`); the
freshness of created ids needs the registry invariant of `Identifiers`, every stored id being
at most the last one drawn.
-/

namespace PosixRegistry

/-- The record an audit entry about a write names: the row written, or the account of a pair. -/
def Write.recordId : Write → Int
  | .insertAccount a | .updateAccount a => a.id
  | .deleteAccount id | .deleteGroup id => id
  | .insertGroup g | .updateGroup g => g.id
  | .insertMembership m => m.account
  | .deleteMembership account _ => account
  | .audit e => e.id

namespace Mutation

/-- The write a successful request makes on `r`, as the request names it: a create inserts a
live row under an id that no stored row has, an update writes the row with the given id, a
delete marks the row with the given id, an assignment inserts the pair and a removal deletes a
pair that is there. -/
def Names : Mutation → Registry → Write → Prop
  | createAccount .., r, w =>
    ∃ a, w = .insertAccount a ∧ a.deleted = false ∧ a.id ∉ r.tables.rowIds
  | updateAccount _ id _ _, _, w => ∃ a, w = .updateAccount a ∧ a.id = id
  | deleteAccount id _, _, w => w = .deleteAccount id
  | createGroup .., r, w => ∃ g, w = .insertGroup g ∧ g.deleted = false ∧ g.id ∉ r.tables.rowIds
  | updateGroup _ id _ _, _, w => ∃ g, w = .updateGroup g ∧ g.id = id
  | deleteGroup id _, _, w => w = .deleteGroup id
  | assign account group _, _, w => w = .insertMembership ⟨account, group⟩
  | remove account group _, r, w =>
    w = .deleteMembership account group ∧ ⟨account, group⟩ ∈ r.tables.memberships

/-- What a successful request leaves: the accounts, groups and memberships changed by the write
it names, and the audit log with exactly one entry more, naming the request's action, the kind
of record, the record and the actor. -/
def Committed (m : Mutation) (r r' : Registry) : Prop :=
  ∃ w t₁ e, m.Names r w ∧ w.Effect r.tables t₁ ∧
    r'.tables = { t₁ with audit := r.tables.audit ++ [e] } ∧
    e.action = m.action ∧ e.entityType = m.entityType ∧ e.entityId = w.recordId ∧
    e.userId = m.actor.userId ∧ e.username = m.actor.username ∧ e.ipAddress = m.actor.ipAddress

theorem Names.ne_audit {m : Mutation} {r : Registry} {w : Write} (h : m.Names r w)
    (e : AuditEntry) : w ≠ .audit e := by
  cases m <;> simp only [Names] at h <;> grind

end Mutation

namespace Registry

variable {r r' : Registry}

/-- A write other than an audit entry leaves the audit log, so an audited write leaves just
the write's effect and one entry more. -/
theorem Wrote.effect {w : Write} {n : AuditNote} (hw : r.Wrote r' w n)
    (hne : ∀ e, w ≠ .audit e) : ∃ t₁, w.Effect r.tables t₁ ∧
      r'.tables = { t₁ with audit := r.tables.audit ++ [n.entry r'.lastId r'.clock] } := by
  obtain ⟨t₁, h₁, ht⟩ := hw.tables
  have he := Tables.apply_effect h₁
  refine ⟨t₁, he, ?_⟩
  rw [ht]
  cases w with
  | audit e => exact absurd rfl (hne e)
  | insertAccount | insertGroup | insertMembership | deleteMembership =>
    subst he
    rfl
  | updateAccount | deleteAccount | updateGroup | deleteGroup =>
    obtain ⟨_, _, _, -, -, -, rfl⟩ := he
    rfl

/-- **An audited write of the named write, under the request's note, is the request's
commit.** -/
theorem Wrote.committed {m : Mutation} {w : Write} {n : AuditNote} (hw : r.Wrote r' w n)
    (hnames : m.Names r w) (haction : n.action = m.action) (htype : n.entityType = m.entityType)
    (hid : n.entityId = w.recordId) (hactor : n.actor = m.actor) : m.Committed r r' := by
  obtain ⟨t₁, he, ht⟩ := hw.effect hnames.ne_audit
  exact ⟨w, t₁, n.entry r'.lastId r'.clock, hnames, he, ht, haction, htype, hid, by rw [← hactor]; rfl,
    by rw [← hactor]; rfl, by rw [← hactor]; rfl⟩

/-- The id drawn next is no stored row's. -/
theorem Sound.fresh (hs : r.Sound) : r.lastId + 1 ∉ r.tables.rowIds := fun h => by
  have := hs.rowIds_drawn _ h
  omega

end Registry

namespace Mutation

open Std.Do

/-- A request whose service has a specification with the registry rolled back on refusal, and
the request's commit on success, runs all or nothing. -/
theorem run_atomic_of_triple {α : Type} {m : Mutation} {r : Registry} {s : Service α}
    {Q : α → Registry → Prop} (hrun : m.run r = s.outcome r)
    (h : ⦃fun r' => ⌜r' = r⌝⦄ s ⦃post⟨fun a r' => ⌜Q a r'⌝, fun _ r' => ⌜r.RolledBack r'⌝⟩⦄)
    (hQ : ∀ a r', Q a r' → m.Committed r r') :
    match m.run r with
    | (.ok _, r') => m.Committed r r'
    | (.error _, r') => r'.tables = r.tables := by
  have ho := Service.outcome_of_triple h
  rw [hrun]
  generalize s.outcome r = o at ho ⊢
  rcases o with ⟨_ | _, r'⟩
  · exact ho.1
  · obtain ⟨a, ha⟩ := ho
    exact hQ a r' ha

end Mutation

/-- **Every write request is atomic and audited.**  In every registry a session leaves, a
write request that succeeds changes the accounts, groups and memberships by exactly the write
it names and appends exactly one audit entry, with the request's action and kind of record, the
record's id (the account's, for a membership) and the actor's user id, username and address; a
request that is refused leaves the tables as they were. -/
theorem reachable_writes_atomic {r : Registry} (hr : Reachable r) (m : Mutation) :
    match m.run r with
    | (.ok _, r') => m.Committed r r'
    | (.error _, r') => r'.tables = r.tables := by
  have hs := hr.sound
  cases m with
  | createAccount p req actor =>
    refine Mutation.run_atomic_of_triple rfl (Service.createAccount_spec p req actor r) ?_
    rintro v r' ⟨-, type, -, hrec, -, -, -, -, -, hw⟩
    exact hw.committed ⟨v.record, rfl, by simp [hrec], by simpa [hrec] using hs.fresh⟩
      rfl rfl rfl rfl
  | updateAccount p id req actor =>
    refine Mutation.run_atomic_of_triple rfl (Service.updateAccount_spec p id req actor r) ?_
    rintro v r' ⟨-, a, ha, type, -, hrec, -, -, -, -, -, hw⟩
    exact hw.committed ⟨v.record, rfl, by simp [hrec, (Tables.account?_eq_some ha).2]⟩
      rfl rfl rfl rfl
  | deleteAccount id actor =>
    refine Mutation.run_atomic_of_triple rfl (Service.deleteAccount_spec id actor r) ?_
    rintro - r' ⟨a, -, -, hw⟩
    exact hw.committed rfl rfl rfl rfl rfl
  | createGroup p req actor =>
    refine Mutation.run_atomic_of_triple rfl (Service.createGroup_spec p req actor r) ?_
    rintro v r' ⟨-, type, -, hrec, -, -, -, -, hw⟩
    exact hw.committed ⟨v.record, rfl, by simp [hrec], by simpa [hrec] using hs.fresh⟩
      rfl rfl rfl rfl
  | updateGroup p id req actor =>
    refine Mutation.run_atomic_of_triple rfl (Service.updateGroup_spec p id req actor r) ?_
    rintro v r' ⟨-, g, hg, type, -, hrec, -, -, -, -, -, hw⟩
    exact hw.committed ⟨v.record, rfl, by simp [hrec, (Tables.group?_eq_some hg).2]⟩
      rfl rfl rfl rfl
  | deleteGroup id actor =>
    refine Mutation.run_atomic_of_triple rfl (Service.deleteGroup_spec id actor r) ?_
    rintro - r' ⟨g, -, -, -, hw⟩
    exact hw.committed rfl rfl rfl rfl rfl
  | assign account group actor =>
    refine Mutation.run_atomic_of_triple rfl (Service.assign_spec account group actor r) ?_
    rintro - r' ⟨a, g, -, -, -, -, -, hw⟩
    exact hw.committed rfl rfl rfl rfl rfl
  | remove account group actor =>
    refine Mutation.run_atomic_of_triple rfl (Service.remove_spec account group actor r) ?_
    rintro - r' ⟨a, g, -, -, hm, -, hw⟩
    exact hw.committed ⟨rfl, hm⟩ rfl rfl rfl rfl

/-- Deleting the account a session of one creation made goes through, and is atomic. -/
theorem writes_atomic_after_one_account :
    let r := ((Mutation.createAccount .standard { username := "alice", type := "people" }
      .standard).run {}).2
    let m := Mutation.deleteAccount 1 .standard
    Reachable r ∧ r.tables.liveAccounts.length = 1 ∧ (m.run r).1.isOk = true ∧
      match m.run r with
      | (.ok _, r') => m.Committed r r'
      | (.error _, r') => r'.tables = r.tables :=
  have h := Reachable.step .empty (.mutate _ _)
  ⟨h, by decide +kernel, by decide +kernel, reachable_writes_atomic h _⟩

end PosixRegistry
