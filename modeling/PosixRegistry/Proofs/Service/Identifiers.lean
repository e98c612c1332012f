import PosixRegistry.Proofs.Service.Session
import PosixRegistry.Proofs.Store.Constraints

/-!
# Services — identifiers stay unique

Every registry a session leaves keeps its identifiers apart: **no two live accounts share a
user id or a username, no two live groups share a group id or a name, stored user and group
ids are not negative, and the record ids of all rows ever stored — accounts, groups and audit
entries — are distinct and positive** (`reachable_identifiers_unique`).

The invariant carried is `Registry.Sound`: the store's constraints, with every stored row's id
drawn from the one sequence and not reused.  The services check identifiers against the live
rows *other* than the record written, so uniqueness needs ids to be keys; the sequence gives
that, since every row a write adds takes an id past every id stored (`Registry.Sound.wrote`).
Refusals keep the invariant because they keep the tables (`Registry.Sound.rolledBack`), ids
drawn before the refusal being lost, never reused.
-/

namespace PosixRegistry

namespace Write

/-- The id of the audit entry a write appends, if it appends one. -/
def newAuditIds : Write → List Int
  | .audit e => [e.id]
  | _ => []

/-- The ids of the rows a write adds, to any table. -/
def newIds (w : Write) : List Int := w.newAccountIds ++ w.newGroupIds ++ w.newAuditIds

/-- The accounts a write stores. -/
def accountRows : Write → List Account
  | .insertAccount a | .updateAccount a => [a]
  | _ => []

/-- The groups a write stores. -/
def groupRows : Write → List Group
  | .insertGroup g | .updateGroup g => [g]
  | _ => []

theorem newIds_length_le_one (w : Write) : w.newIds.length ≤ 1 := by
  cases w <;> simp [newIds, newAccountIds, newGroupIds, newAuditIds]

end Write

namespace Tables

/-- The record ids of every stored row: accounts, groups and audit entries. -/
def rowIds (t : Tables) : List Int :=
  t.accounts.map (·.id) ++ t.groups.map (·.id) ++ t.audit.map (·.id)

variable {t t' : Tables} {w : Write}

/-- Every account row after a write is one of the write's rows, or a row from before, kept or
marked deleted. -/
theorem mem_apply_accounts {a : Account} (h : t.apply w = .ok t') (ha : a ∈ t'.accounts) :
    a ∈ w.accountRows ∨ ∃ b ∈ t.accounts, a = b ∨ a = { b with deleted := true } := by
  have he := apply_effect h
  cases w with
  | insertAccount c =>
    subst he
    rcases List.mem_append.mp ha with ha | ha
    · exact .inr ⟨a, ha, .inl rfl⟩
    · exact .inl (by simpa [Write.accountRows] using ha)
  | updateAccount c =>
    obtain ⟨l₁, b, l₂, hl, -, -, rfl⟩ := he
    simp only [List.mem_append, List.mem_cons] at ha
    rcases ha with ha | rfl | ha
    · exact .inr ⟨a, by simp [hl, ha], .inl rfl⟩
    · exact .inl (by simp [Write.accountRows])
    · exact .inr ⟨a, by simp [hl, ha], .inl rfl⟩
  | deleteAccount id =>
    obtain ⟨l₁, b, l₂, hl, -, -, rfl⟩ := he
    simp only [List.mem_append, List.mem_cons] at ha
    rcases ha with ha | rfl | ha
    · exact .inr ⟨a, by simp [hl, ha], .inl rfl⟩
    · exact .inr ⟨b, by simp [hl], .inr rfl⟩
    · exact .inr ⟨a, by simp [hl, ha], .inl rfl⟩
  -- the other writes leave the accounts as they were
  | insertGroup | insertMembership | deleteMembership | audit =>
    subst he
    exact .inr ⟨a, ha, .inl rfl⟩
  | updateGroup | deleteGroup =>
    obtain ⟨_, _, _, -, -, -, rfl⟩ := he
    exact .inr ⟨a, ha, .inl rfl⟩

/-- Every group row after a write is one of the write's rows, or a row from before, kept or
marked deleted. -/
theorem mem_apply_groups {g : Group} (h : t.apply w = .ok t') (hg : g ∈ t'.groups) :
    g ∈ w.groupRows ∨ ∃ h ∈ t.groups, g = h ∨ g = { h with deleted := true } := by
  have he := apply_effect h
  cases w with
  | insertGroup c =>
    subst he
    rcases List.mem_append.mp hg with hg | hg
    · exact .inr ⟨g, hg, .inl rfl⟩
    · exact .inl (by simpa [Write.groupRows] using hg)
  | updateGroup c =>
    obtain ⟨l₁, b, l₂, hl, -, -, rfl⟩ := he
    simp only [List.mem_append, List.mem_cons] at hg
    rcases hg with hg | rfl | hg
    · exact .inr ⟨g, by simp [hl, hg], .inl rfl⟩
    · exact .inl (by simp [Write.groupRows])
    · exact .inr ⟨g, by simp [hl, hg], .inl rfl⟩
  | deleteGroup id =>
    obtain ⟨l₁, b, l₂, hl, -, -, rfl⟩ := he
    simp only [List.mem_append, List.mem_cons] at hg
    rcases hg with hg | rfl | hg
    · exact .inr ⟨g, by simp [hl, hg], .inl rfl⟩
    · exact .inr ⟨b, by simp [hl], .inr rfl⟩
    · exact .inr ⟨g, by simp [hl, hg], .inl rfl⟩
  -- the other writes leave the groups as they were
  | insertAccount | insertMembership | deleteMembership | audit =>
    subst he
    exact .inr ⟨g, hg, .inl rfl⟩
  | updateAccount | deleteAccount =>
    obtain ⟨_, _, _, -, -, -, rfl⟩ := he
    exact .inr ⟨g, hg, .inl rfl⟩

theorem apply_auditIds (h : t.apply w = .ok t') :
    t'.audit.map (·.id) = t.audit.map (·.id) ++ w.newAuditIds := by
  have he := apply_effect h
  cases w with
  | audit e =>
    subst he
    simp [Write.newAuditIds]
  | insertAccount | insertGroup | insertMembership | deleteMembership =>
    subst he
    simp [Write.newAuditIds]
  | updateAccount | deleteAccount | updateGroup | deleteGroup =>
    obtain ⟨_, _, _, -, -, -, rfl⟩ := he
    simp [Write.newAuditIds]

/-- A write adds to the stored ids just the ids of the rows it adds. -/
theorem apply_rowIds (h : t.apply w = .ok t') : t'.rowIds.Perm (t.rowIds ++ w.newIds) := by
  rw [rowIds, rowIds, apply_accountIds h, apply_groupIds h, apply_auditIds h, Write.newIds,
    List.perm_iff_count]
  intro i
  simp only [List.count_append]
  omega

end Tables

/-- A judgement that lets an identifier through was of one that is not negative. -/
theorem RangePolicy.nonneg_of_judge {p : RangePolicy} {k : IdKind} {id : Int}
    {type : IdentityType} {f : Option RangeWarning → List RangeWarning} {ws : List RangeWarning}
    (h : ((p.judge k id type).toResult k).map f = .ok ws) : 0 ≤ id := by
  by_contra hneg
  simp [RangePolicy.judge, show id < 0 by omega, Verdict.toResult, Except.map] at h

/-- Ids drawn in order are apart: the stored ones, at most one drawn after them all, and the
audit entry's, drawn last. -/
theorem nodup_drawn_in_order {old new : List Int} {lo hi : Int} (hold : old.Nodup)
    (hle : ∀ i ∈ old, i ≤ lo) (hnew : ∀ i ∈ new, lo < i ∧ i < hi) (hlen : new.length ≤ 1)
    (hlo : lo < hi) : (old ++ (new ++ [hi])).Nodup := by
  have hnew_nodup : new.Nodup := by
    rcases new with _ | ⟨a, _ | ⟨b, l⟩⟩
    · exact List.nodup_nil
    · exact List.nodup_singleton a
    · simp at hlen
  refine List.nodup_append.mpr ⟨hold, ?_, fun i hi j hj => ?_⟩
  · refine List.nodup_append.mpr ⟨hnew_nodup, List.nodup_singleton _, fun i hi j hj => ?_⟩
    have := hnew i hi
    simp at hj
    omega
  · have := hle i hi
    rcases List.mem_append.mp hj with hj | hj
    · have := hnew j hj
      omega
    · simp at hj
      omega

namespace Registry

/-- The registry invariant behind unique identifiers: the store's constraints hold, every
stored row has its own id, drawn from the sequence (positive and at most the last drawn), and
stored user and group ids are not negative. -/
structure Sound (r : Registry) : Prop where
  constrained : r.tables.Constrained
  rowIds_nodup : r.tables.rowIds.Nodup
  rowIds_drawn : ∀ i ∈ r.tables.rowIds, 0 < i ∧ i ≤ r.lastId
  lastId_nonneg : 0 ≤ r.lastId
  uids_nonneg : ∀ a ∈ r.tables.accounts, 0 ≤ a.uid
  gids_nonneg : ∀ g ∈ r.tables.groups, 0 ≤ g.gid

variable {r r' : Registry}

theorem sound_empty : ({} : Registry).Sound :=
  ⟨Tables.constrained_empty, by simp [Tables.rowIds], by simp [Tables.rowIds], le_refl 0,
    by simp, by simp⟩

theorem Sound.keyed (hs : r.Sound) : r.tables.Keyed := by
  have h := hs.rowIds_nodup
  simp only [Tables.rowIds, List.nodup_append] at h
  exact ⟨h.1.1, h.1.2.1⟩

/-- A refusal keeps the invariant: it keeps the tables, and ids drawn are only lost. -/
theorem Sound.rolledBack (hs : r.Sound) (h : r.RolledBack r') : r'.Sound := by
  obtain ⟨ht, -, hl⟩ := h
  have h0 := hs.lastId_nonneg
  refine ⟨ht ▸ hs.constrained, ht ▸ hs.rowIds_nodup, fun i hi => ?_, by omega,
    ht ▸ hs.uids_nonneg, ht ▸ hs.gids_nonneg⟩
  have := hs.rowIds_drawn i (ht ▸ hi)
  omega

/-- The invariant reads only the tables and the last id drawn. -/
theorem Sound.of_eq (hs : r.Sound) (ht : r'.tables = r.tables) (hl : r'.lastId = r.lastId) :
    r'.Sound :=
  ⟨ht ▸ hs.constrained, ht ▸ hs.rowIds_nodup, ht ▸ hl ▸ hs.rowIds_drawn, hl ▸ hs.lastId_nonneg,
    ht ▸ hs.uids_nonneg, ht ▸ hs.gids_nonneg⟩

theorem Sound.switchAudit (hs : r.Sound) (fail : Bool) : ({ r with failAudit := fail }).Sound :=
  hs.of_eq rfl rfl

/-- **An audited write keeps the invariant** when the rows it adds take ids drawn after every
stored one and before its audit entry's, and the identifiers it stores are not negative. -/
theorem Sound.wrote {w : Write} {n : AuditNote} (hs : r.Sound) (hw : r.Wrote r' w n)
    (hlast : r.lastId < r'.lastId) (hnew : ∀ i ∈ w.newIds, r.lastId < i ∧ i < r'.lastId)
    (huid : ∀ a ∈ w.accountRows, 0 ≤ a.uid) (hgid : ∀ g ∈ w.groupRows, 0 ≤ g.gid) :
    r'.Sound := by
  obtain ⟨t₁, h₁, ht⟩ := hw.tables
  have hold := hs.rowIds_drawn
  have h0 := hs.lastId_nonneg
  -- the stored ids are the old ones, the write's new ones and the audit entry's
  have hperm : r'.tables.rowIds.Perm (r.tables.rowIds ++ (w.newIds ++ [r'.lastId])) := by
    have hrow : r'.tables.rowIds = t₁.rowIds ++ [r'.lastId] := by simp [ht, Tables.rowIds]
    rw [hrow, ← List.append_assoc]
    exact (Tables.apply_rowIds h₁).append_right _
  have hnodup := nodup_drawn_in_order hs.rowIds_nodup (fun i hi => (hold i hi).2) hnew
    w.newIds_length_le_one hlast
  refine ⟨?_, hperm.nodup_iff.mpr hnodup, fun i hi => ?_, by omega, fun a ha => ?_,
    fun g hg => ?_⟩
  · -- the row the write inserts, if any, takes an id past every stored one
    have hfresh : w.FreshIn r.tables := by
      refine ⟨fun i hi hin => ?_, fun i hi hin => ?_⟩
      · have := hnew i (by simp [Write.newIds, hi])
        have := hold i (by simp [Tables.rowIds, hin])
        omega
      · have := hnew i (by simp [Write.newIds, hi])
        have := hold i (by simp [Tables.rowIds, hin])
        omega
    rw [ht]
    exact (hs.constrained.apply hs.keyed hfresh h₁).appendAudit _
  · rcases List.mem_append.mp (hperm.mem_iff.mp hi) with hi | hi
    · have := hold i hi
      omega
    · rcases List.mem_append.mp hi with hi | hi
      · have := hnew i hi
        omega
      · simp at hi
        omega
  · rw [ht] at ha
    rcases Tables.mem_apply_accounts h₁ ha with ha | ⟨b, hb, rfl | rfl⟩
    · exact huid a ha
    · exact hs.uids_nonneg _ hb
    · exact hs.uids_nonneg b hb
  · rw [ht] at hg
    rcases Tables.mem_apply_groups h₁ hg with hg | ⟨b, hb, rfl | rfl⟩
    · exact hgid g hg
    · exact hs.gids_nonneg _ hb
    · exact hs.gids_nonneg b hb

/-- A write that adds no row of its own adds only its audit entry's id. -/
theorem Sound.wrote_audit {w : Write} {n : AuditNote} (hs : r.Sound) (hw : r.Wrote r' w n)
    (hlast : r.lastId < r'.lastId) (hnew : w.newIds = [])
    (huid : ∀ a ∈ w.accountRows, 0 ≤ a.uid) (hgid : ∀ g ∈ w.groupRows, 0 ≤ g.gid) :
    r'.Sound :=
  hs.wrote hw hlast (by simp [hnew]) huid hgid

/-! ### Each request keeps the invariant

A create adds a row under the id drawn first and its audit entry under the next; every other
request adds only its audit entry.  The identifiers a request stores passed its range judgement,
which refuses negative ones. -/

section Requests

variable (hs : r.Sound)
include hs

theorem Sound.createAccount (p : RangePolicy) (req : NewAccount) (actor : Actor) :
    ((Service.createAccount p req actor).outcome r).2.Sound := by
  refine Service.outcome_preserves (Service.createAccount_spec p req actor r) ?_
    (fun _ => hs.rolledBack)
  rintro v r' ⟨-, type, -, hrec, hjudge, -, -, -, hlast, hw⟩
  refine hs.wrote hw (by omega) ?_ ?_ (by simp [Write.groupRows])
  · simp [Write.newIds, Write.newAccountIds, Write.newGroupIds, Write.newAuditIds, hrec]
    omega
  · simpa [Write.accountRows] using RangePolicy.nonneg_of_judge hjudge

theorem Sound.updateAccount (p : RangePolicy) (id : Int) (req : AccountChange) (actor : Actor) :
    ((Service.updateAccount p id req actor).outcome r).2.Sound := by
  refine Service.outcome_preserves (Service.updateAccount_spec p id req actor r) ?_
    (fun _ => hs.rolledBack)
  rintro v r' ⟨-, a, -, type, -, -, hjudge, -, -, -, hlast, hw⟩
  refine hs.wrote_audit hw (by omega) rfl ?_ (by simp [Write.groupRows])
  simpa [Write.accountRows] using RangePolicy.nonneg_of_judge hjudge

theorem Sound.deleteAccount (id : Int) (actor : Actor) :
    ((Service.deleteAccount id actor).outcome r).2.Sound := by
  refine Service.outcome_preserves (Service.deleteAccount_spec id actor r) ?_
    (fun _ => hs.rolledBack)
  rintro - r' ⟨a, -, hlast, hw⟩
  exact hs.wrote_audit hw (by omega) rfl (by simp [Write.accountRows])
    (by simp [Write.groupRows])

theorem Sound.createGroup (p : RangePolicy) (req : NewGroup) (actor : Actor) :
    ((Service.createGroup p req actor).outcome r).2.Sound := by
  refine Service.outcome_preserves (Service.createGroup_spec p req actor r) ?_
    (fun _ => hs.rolledBack)
  rintro v r' ⟨-, type, -, hrec, hjudge, -, -, hlast, hw⟩
  refine hs.wrote hw (by omega) ?_ (by simp [Write.accountRows]) ?_
  · simp [Write.newIds, Write.newAccountIds, Write.newGroupIds, Write.newAuditIds, hrec]
    omega
  · simpa [Write.groupRows] using RangePolicy.nonneg_of_judge hjudge

theorem Sound.updateGroup (p : RangePolicy) (id : Int) (req : GroupChange) (actor : Actor) :
    ((Service.updateGroup p id req actor).outcome r).2.Sound := by
  refine Service.outcome_preserves (Service.updateGroup_spec p id req actor r) ?_
    (fun _ => hs.rolledBack)
  rintro v r' ⟨-, g, -, type, -, -, hjudge, -, -, -, hlast, hw⟩
  refine hs.wrote_audit hw (by omega) rfl (by simp [Write.accountRows]) ?_
  simpa [Write.groupRows] using RangePolicy.nonneg_of_judge hjudge

theorem Sound.deleteGroup (id : Int) (actor : Actor) :
    ((Service.deleteGroup id actor).outcome r).2.Sound := by
  refine Service.outcome_preserves (Service.deleteGroup_spec id actor r) ?_
    (fun _ => hs.rolledBack)
  rintro - r' ⟨g, -, -, hlast, hw⟩
  exact hs.wrote_audit hw (by omega) rfl (by simp [Write.accountRows])
    (by simp [Write.groupRows])

theorem Sound.assign (account group : Int) (actor : Actor) :
    ((Service.assign account group actor).outcome r).2.Sound := by
  refine Service.outcome_preserves (Service.assign_spec account group actor r) ?_
    (fun _ => hs.rolledBack)
  rintro - r' ⟨a, g, -, -, -, -, hlast, hw⟩
  exact hs.wrote_audit hw (by omega) rfl (by simp [Write.accountRows])
    (by simp [Write.groupRows])

theorem Sound.remove (account group : Int) (actor : Actor) :
    ((Service.remove account group actor).outcome r).2.Sound := by
  refine Service.outcome_preserves (Service.remove_spec account group actor r) ?_
    (fun _ => hs.rolledBack)
  rintro - r' ⟨a, g, -, -, -, hlast, hw⟩
  exact hs.wrote_audit hw (by omega) rfl (by simp [Write.accountRows])
    (by simp [Write.groupRows])

theorem Sound.mutate : ∀ m : Mutation, (m.run r).2.Sound
  | .createAccount p req actor => hs.createAccount p req actor
  | .updateAccount p id req actor => hs.updateAccount p id req actor
  | .deleteAccount id actor => hs.deleteAccount id actor
  | .createGroup p req actor => hs.createGroup p req actor
  | .updateGroup p id req actor => hs.updateGroup p id req actor
  | .deleteGroup id actor => hs.deleteGroup id actor
  | .assign account group actor => hs.assign account group actor
  | .remove account group actor => hs.remove account group actor

end Requests

end Registry

/-- Every registry a session leaves satisfies the invariant. -/
theorem Reachable.sound {r : Registry} (h : Reachable r) : r.Sound :=
  h.invariant Registry.sound_empty fun hs step => by
    cases step with
    | mutate m r => exact hs.mutate m
    | switchAudit fail r => exact hs.switchAudit fail
    | tick t r _ => exact hs.of_eq rfl rfl

/-- **Identifiers stay unique.**  In every registry a session leaves, no two live accounts
share a user id or a username, no two live groups share a group id or a name, live user and
group ids are not negative, and the stored rows' record ids are distinct and at least 1. -/
theorem reachable_identifiers_unique {r : Registry} (h : Reachable r) :
    (r.tables.liveAccounts.map (·.uid)).Nodup ∧ (r.tables.liveAccounts.map (·.username)).Nodup ∧
      (r.tables.liveGroups.map (·.gid)).Nodup ∧ (r.tables.liveGroups.map (·.groupname)).Nodup ∧
      (∀ a ∈ r.tables.liveAccounts, 0 ≤ a.uid) ∧ (∀ g ∈ r.tables.liveGroups, 0 ≤ g.gid) ∧
      r.tables.rowIds.Nodup ∧ ∀ i ∈ r.tables.rowIds, 1 ≤ i := by
  have hs := h.sound
  refine ⟨hs.constrained.uids, hs.constrained.usernames, hs.constrained.gids,
    hs.constrained.groupnames, fun a ha => hs.uids_nonneg a (Tables.mem_liveAccounts.mp ha).1,
    fun g hg => hs.gids_nonneg g (Tables.mem_liveGroups.mp hg).1, hs.rowIds_nodup,
    fun i hi => ?_⟩
  have := (hs.rowIds_drawn i hi).1
  omega

/-- A session of two account creations, whose user ids are proposed one after the other, leaves
unique identifiers. -/
theorem identifiers_unique_after_two_accounts :
    let r := ((Mutation.createAccount .standard { username := "bob", type := "people" }
      .standard).run ((Mutation.createAccount .standard { username := "alice", type := "people" }
      .standard).run {}).2).2
    Reachable r ∧ r.tables.liveAccounts.map (·.uid) = [1000, 1001] ∧
      ((r.tables.liveAccounts.map (·.uid)).Nodup ∧
      (r.tables.liveAccounts.map (·.username)).Nodup ∧
      (r.tables.liveGroups.map (·.gid)).Nodup ∧ (r.tables.liveGroups.map (·.groupname)).Nodup ∧
      (∀ a ∈ r.tables.liveAccounts, 0 ≤ a.uid) ∧ (∀ g ∈ r.tables.liveGroups, 0 ≤ g.gid) ∧
      r.tables.rowIds.Nodup ∧ ∀ i ∈ r.tables.rowIds, 1 ≤ i) :=
  have h := Reachable.step (Reachable.step .empty (.mutate _ _)) (.mutate _ _)
  ⟨h, by decide +kernel, reachable_identifiers_unique h⟩

end PosixRegistry
