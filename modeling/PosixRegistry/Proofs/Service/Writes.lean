import Mathlib
import PosixRegistry.Proofs.Store.Transaction
import PosixRegistry.Registry.Service.Membership

/-!
# Services — what each write service does

Every write service runs its checks on the registry as it is, then begins a transaction, makes
one write on it, and finishes: the audit entry is appended and the transaction committed.  The
specifications here say, for each of the eight write services, what a success shows and what a
refusal leaves, as Hoare triples over the service monad proved by `mvcgen`.

* A refusal, wherever it comes from, leaves the tables and the audit switch as they were; ids
  drawn before it stay drawn (`Registry.RolledBack`).
* A success passed every check, in the order the service makes them, and committed exactly the
  service's write followed by its audit entry, under the last id drawn (`Registry.Wrote`).

The specifications of the steps come first: `finish_spec` says that a commit replays the
transaction's log with the audit entry appended, and the transaction steps say which write
they add to the log.  `Service.run_of_triple` reads a triple back as a statement about a run.
-/

open Std.Do

set_option mvcgen.warning false

namespace PosixRegistry

/-! ### Rows made from drafts -/

namespace Account

variable (a : Account) (d : AccountDraft)

@[simp] theorem withDraft_id : (a.withDraft d).id = a.id := rfl
@[simp] theorem withDraft_uid : (a.withDraft d).uid = d.uid := rfl
@[simp] theorem withDraft_username : (a.withDraft d).username = d.username := rfl
@[simp] theorem withDraft_type : (a.withDraft d).type = d.type := rfl
@[simp] theorem withDraft_primaryGroup : (a.withDraft d).primaryGroup = d.primaryGroup := rfl
@[simp] theorem withDraft_deleted : (a.withDraft d).deleted = a.deleted := rfl

end Account

namespace Group

variable (g : Group) (d : GroupDraft)

@[simp] theorem withDraft_id : (g.withDraft d).id = g.id := rfl
@[simp] theorem withDraft_gid : (g.withDraft d).gid = d.gid := rfl
@[simp] theorem withDraft_groupname : (g.withDraft d).groupname = d.groupname := rfl
@[simp] theorem withDraft_type : (g.withDraft d).type = d.type := rfl
@[simp] theorem withDraft_deleted : (g.withDraft d).deleted = g.deleted := rfl

end Group

@[simp] theorem Service.AccountChange.merge_type (a : Account) (req : AccountChange)
    (type : IdentityType) : (Service.AccountChange.merge a req type).type = type := rfl

/-- The primary-group rule the account services check for an account of a type: a system
account needs a primary group, which must be a live system group; any other account's primary
group, if it has one, must be a live group. -/
def Tables.PrimaryGroupFits (t : Tables) (type : IdentityType) : Option Int → Prop
  | none => type.isSystem = false
  | some g => ∃ grp, t.group? g = some grp ∧ (type.isSystem = true → grp.isSystem = true)

@[simp] theorem AuditNote.entry_id (n : AuditNote) (i s : Int) : (n.entry i s).id = i := rfl

@[simp] theorem AuditNote.entry_timestamp (n : AuditNote) (i s : Int) :
    (n.entry i s).timestamp = s := rfl

/-! ### Outcomes of a write service -/

namespace Registry

/-- `r` is what a refused service step leaves of `r0`: the tables, the audit switch and the
clock as they were; ids drawn stay drawn. -/
def RolledBack (r0 r : Registry) : Prop :=
  r.tables = r0.tables ∧ r.failAudit = r0.failAudit ∧ r.clock = r0.clock ∧ r0.lastId ≤ r.lastId

/-- `r` is `r0` after one audited write: audit appends were on, the clock stood still, and the
tables are what the write followed by the audit entry of `n`, under the last id drawn and
stamped with the clock, leave. -/
def Wrote (r0 r : Registry) (w : Write) (n : AuditNote) : Prop :=
  r0.failAudit = false ∧ r.failAudit = r0.failAudit ∧ r.clock = r0.clock ∧
    r0.tables.replay [w, .audit (n.entry r.lastId r.clock)] = .ok r.tables

theorem Wrote.tables {r0 r : Registry} {w : Write} {n : AuditNote} (h : r0.Wrote r w n) :
    ∃ t₁, r0.tables.apply w = .ok t₁ ∧
      r.tables = { t₁ with audit := t₁.audit ++ [n.entry r.lastId r.clock] } := by
  obtain ⟨t₁, h₁, h₂⟩ := Tables.replay_cons_eq_ok.mp h.2.2.2
  refine ⟨t₁, h₁, ?_⟩
  simpa [Tables.replay_cons, bind, Except.bind, eq_comm] using h₂

end Registry

/-- A triple over the service monad, or any monad of refusals over the registry, read as a
statement about one run. -/
theorem Service.run_of_triple {ε α : Type} {P : Registry → Prop}
    {s : ExceptT ε (StateM Registry) α} {Q : α → Registry → Prop} {E : ε → Registry → Prop}
    (h : ⦃fun r => ⌜P r⌝⦄ s ⦃post⟨fun a r => ⌜Q a r⌝, fun e r => ⌜E e r⌝⟩⦄) {r : Registry}
    (hr : P r) :
    match s.run.run r with
    | (.ok a, r') => Q a r'
    | (.error e, r') => E e r' := by
  have hw := h r hr
  simp [WP.wp] at hw
  generalize s.run.run r = x at hw ⊢
  rcases x with ⟨e | a, r'⟩ <;> exact hw

namespace Service

/-! ### The steps of a write -/

@[spec] theorem begin_spec (r0 : Registry) :
    ⦃fun r => ⌜r = r0⌝⦄ begin ⦃⇓ x r => ⌜r = r0 ∧ x = r0.begin⌝⦄ := by
  mvcgen [begin]
  simp_all [Registry.begin]

/-- Finishing appends the audit entry under a freshly drawn id and commits: unless audit
appends are failing, the tables become what the log with the entry appended leaves. -/
@[spec] theorem finish_spec (x : Txn) (n : AuditNote) (r0 : Registry) :
    ⦃fun r => ⌜r = r0⌝⦄ finish x n
    ⦃post⟨fun _ r => ⌜r0.failAudit = false ∧ r.failAudit = r0.failAudit ∧ r.clock = r0.clock ∧
        r.lastId = r0.lastId + 1 ∧
        r0.tables.replay (x.log ++ [.audit (n.entry (r0.lastId + 1) r0.clock)]) = .ok r.tables⌝,
      fun _ r => ⌜r.tables = r0.tables ∧ r.failAudit = r0.failAudit ∧ r.clock = r0.clock ∧
        r0.lastId ≤ r.lastId⌝⟩⦄ := by
  cases hf : r0.failAudit
  all_goals mvcgen [finish, Txn.appendAudit, fail]
  all_goals simp_all [Registry.commit_eq_ok, Registry.commit_eq_error, Txn.write, Except.map]
  obtain ⟨t', ht', rfl⟩ := ‹∃ t', _›
  grind

@[spec] theorem judge_spec (p : RangePolicy) (k : IdKind) (id : Int) (t : IdentityType)
    (r0 : Registry) :
    ⦃fun r => ⌜r = r0⌝⦄ judge p k id t
    ⦃post⟨fun ws r => ⌜r = r0 ∧ ((p.judge k id t).toResult k).map Option.toList = .ok ws⌝,
      fun _ r => ⌜r = r0⌝⟩⦄ := by
  cases h : (p.judge k id t).toResult k
  all_goals mvcgen [judge, lift, fail]
  all_goals simp_all [Except.map]

@[spec] theorem drawing_insertAccount_spec (x : Txn) (d : AccountDraft) (r0 : Registry) :
    ⦃fun r => ⌜r = r0⌝⦄ drawing (Txn.insertAccount · x d)
    ⦃post⟨fun p r => ⌜r = r0.draw.2 ∧ p.1 = d.toAccount (r0.lastId + 1) ∧
        p.2.log = x.log ++ [.insertAccount p.1]⌝,
      fun _ r => ⌜r = r0.draw.2⌝⟩⦄ := by
  mvcgen [drawing, Txn.insertAccount, lift, fail]
  all_goals simp_all [Txn.write_map_eq_ok]
  obtain ⟨t₁, -, rfl⟩ := ‹∃ t₁, _›
  exact ⟨rfl, rfl⟩

@[spec] theorem drawing_insertGroup_spec (x : Txn) (d : GroupDraft) (r0 : Registry) :
    ⦃fun r => ⌜r = r0⌝⦄ drawing (Txn.insertGroup · x d)
    ⦃post⟨fun p r => ⌜r = r0.draw.2 ∧ p.1 = d.toGroup (r0.lastId + 1) ∧
        p.2.log = x.log ++ [.insertGroup p.1]⌝,
      fun _ r => ⌜r = r0.draw.2⌝⟩⦄ := by
  mvcgen [drawing, Txn.insertGroup, lift, fail]
  all_goals simp_all [Txn.write_map_eq_ok]
  obtain ⟨t₁, -, rfl⟩ := ‹∃ t₁, _›
  exact ⟨rfl, rfl⟩

@[spec] theorem lift_write_spec (x : Txn) (w : Write) (r0 : Registry) :
    ⦃fun r => ⌜r = r0⌝⦄ lift (x.write w)
    ⦃post⟨fun x' r => ⌜r = r0 ∧ x'.log = x.log ++ [w]⌝, fun _ r => ⌜r = r0⌝⟩⦄ := by
  cases h : x.write w
  all_goals mvcgen [lift, fail]
  all_goals simp_all
  obtain ⟨t₁, -, rfl⟩ := Txn.write_eq_ok.mp h
  rfl

@[spec] theorem lift_updateAccount_spec (x : Txn) (id : Int) (d : AccountDraft) (r0 : Registry) :
    ⦃fun r => ⌜r = r0⌝⦄ lift (x.updateAccount id d)
    ⦃post⟨fun p r => ⌜r = r0 ∧ ∃ a, x.working.account? id = some a ∧ p.1 = a.withDraft d ∧
        p.2.log = x.log ++ [.updateAccount p.1]⌝,
      fun _ r => ⌜r = r0⌝⟩⦄ := by
  cases h : x.updateAccount id d
  all_goals mvcgen [lift, fail]
  all_goals simp_all
  obtain ⟨a, ha, t₁, -, rfl⟩ := Txn.updateAccount_eq_ok.mp h
  exact ⟨a, ha, rfl, rfl⟩

@[spec] theorem lift_updateGroup_spec (x : Txn) (id : Int) (d : GroupDraft) (r0 : Registry) :
    ⦃fun r => ⌜r = r0⌝⦄ lift (x.updateGroup id d)
    ⦃post⟨fun p r => ⌜r = r0 ∧ ∃ g, x.working.group? id = some g ∧ p.1 = g.withDraft d ∧
        p.2.log = x.log ++ [.updateGroup p.1]⌝,
      fun _ r => ⌜r = r0⌝⟩⦄ := by
  cases h : x.updateGroup id d
  all_goals mvcgen [lift, fail]
  all_goals simp_all
  obtain ⟨g, hg, t₁, -, rfl⟩ := Txn.updateGroup_eq_ok.mp h
  exact ⟨g, hg, rfl, rfl⟩

@[spec] theorem lift_deleteMembership_spec (x : Txn) (a g : Int) (r0 : Registry) :
    ⦃fun r => ⌜r = r0⌝⦄ lift (x.deleteMembership a g)
    ⦃post⟨fun p r => ⌜r = r0 ∧ p.1 = x.working.isMember a g ∧
        (p.1 = true → p.2.log = x.log ++ [.deleteMembership a g])⌝,
      fun _ r => ⌜r = r0⌝⟩⦄ := by
  mvcgen [Txn.deleteMembership_eq, lift]
  cases x.working.isMember a g <;> simp_all

/-! ### Accounts -/

/-- **Creating an account.**  A success passed the field rules, read the type, took the
given user id or the one past the largest of the type, judged it in range or with a warning,
found it and the username free and the primary group fitting the type, and inserted the account
under the next id, audited under the one after. -/
theorem createAccount_spec (p : RangePolicy) (req : NewAccount) (actor : Actor) (r0 : Registry) :
    ⦃fun r => ⌜r = r0⌝⦄ createAccount p req actor
    ⦃post⟨fun v r => ⌜req.violations = [] ∧ ∃ type, IdentityType.parse req.type = some type ∧
        v.record = (AccountDraft.mk (req.uid.getD (p.nextAfter .uid (r0.tables.maxUid type) type))
          req.username type req.primaryGroup req.firstName req.lastName).toAccount (r0.lastId + 1) ∧
        ((p.judge .uid v.record.uid type).toResult .uid).map Option.toList = .ok v.warnings ∧
        r0.tables.uidTaken v.record.uid 0 = false ∧ r0.tables.usernameTaken req.username 0 = false ∧
        r0.tables.PrimaryGroupFits type req.primaryGroup ∧ r.lastId = r0.lastId + 2 ∧
        r0.Wrote r (.insertAccount v.record) ⟨.create, .account, v.record.id,
          s!"Created account {v.record.username} with UID {v.record.uid}", actor⟩⌝,
      fun _ r => ⌜r0.RolledBack r⌝⟩⦄ := by
  mvcgen -trivial [createAccount, checkRules, parseType, nextUid, ensureUniqueAccount,
    ensurePrimaryGroup, tables, fail]
  all_goals simp_all +zetaDelta [Registry.RolledBack, Registry.Wrote, Tables.PrimaryGroupFits,
    add_assoc]
  all_goals intros; omega

/-- **Changing an account.**  A success passed the field rules, found the live account, read
the new type or kept the old one, and checked the merged draft as a creation does, uniqueness
excluding the account itself; the audit line lists what changed. -/
theorem updateAccount_spec (p : RangePolicy) (id : Int) (req : AccountChange) (actor : Actor)
    (r0 : Registry) :
    ⦃fun r => ⌜r = r0⌝⦄ updateAccount p id req actor
    ⦃post⟨fun v r => ⌜req.violations = [] ∧ ∃ a, r0.tables.account? id = some a ∧
        ∃ type, req.type.elim (some a.type) IdentityType.parse = some type ∧
        v.record = a.withDraft (AccountChange.merge a req type) ∧
        ((p.judge .uid v.record.uid type).toResult .uid).map Option.toList = .ok v.warnings ∧
        r0.tables.uidTaken v.record.uid id = false ∧
        r0.tables.usernameTaken v.record.username id = false ∧
        r0.tables.PrimaryGroupFits type v.record.primaryGroup ∧ r.lastId = r0.lastId + 1 ∧
        r0.Wrote r (.updateAccount v.record) ⟨.update, .account, v.record.id,
          changeLine s!"Updated account {v.record.username} with UID {v.record.uid}"
            (accountChanges a (AccountChange.merge a req type)), actor⟩⌝,
      fun _ r => ⌜r0.RolledBack r⌝⟩⦄ := by
  mvcgen -trivial [updateAccount, checkRules, findAccount, parseType, ensureUniqueAccount,
    ensurePrimaryGroup, tables, fail]
  all_goals simp_all +zetaDelta [Registry.RolledBack, Registry.Wrote, Tables.PrimaryGroupFits]

/-- **Deleting an account** marks the live account with the id deleted. -/
theorem deleteAccount_spec (id : Int) (actor : Actor) (r0 : Registry) :
    ⦃fun r => ⌜r = r0⌝⦄ deleteAccount id actor
    ⦃post⟨fun _ r => ⌜∃ a, r0.tables.account? id = some a ∧ r.lastId = r0.lastId + 1 ∧
        r0.Wrote r (.deleteAccount id)
          ⟨.delete, .account, id, s!"Deleted account {a.username} with UID {a.uid}", actor⟩⌝,
      fun _ r => ⌜r0.RolledBack r⌝⟩⦄ := by
  mvcgen [deleteAccount, findAccount, tables, fail]
  all_goals simp_all +zetaDelta [Registry.RolledBack, Registry.Wrote]

/-! ### Groups -/

/-- **Creating a group.**  A success passed the field rules, read the type, took the given
group id or the one past the largest of the type, judged it, found it and the name free, and
inserted the group, created by the actor, under the next id. -/
theorem createGroup_spec (p : RangePolicy) (req : NewGroup) (actor : Actor) (r0 : Registry) :
    ⦃fun r => ⌜r = r0⌝⦄ createGroup p req actor
    ⦃post⟨fun v r => ⌜req.violations = [] ∧ ∃ type, IdentityType.parse req.type = some type ∧
        v.record = (GroupDraft.mk (req.gid.getD (p.nextAfter .gid (r0.tables.maxGid type) type))
          req.groupname type (req.description.getD "") (some actor.username)).toGroup
            (r0.lastId + 1) ∧
        ((p.judge .gid v.record.gid type).toResult .gid).map Option.toList = .ok v.warnings ∧
        r0.tables.gidTaken v.record.gid 0 = false ∧
        r0.tables.groupnameTaken req.groupname 0 = false ∧ r.lastId = r0.lastId + 2 ∧
        r0.Wrote r (.insertGroup v.record) ⟨.create, .group, v.record.id,
          s!"Created group {v.record.groupname} with GID {v.record.gid}", actor⟩⌝,
      fun _ r => ⌜r0.RolledBack r⌝⟩⦄ := by
  mvcgen -trivial [createGroup, checkRules, parseType, nextGid, ensureUniqueGroup, tables, fail]
  all_goals simp_all +zetaDelta [Registry.RolledBack, Registry.Wrote, add_assoc]
  all_goals intros; omega

/-- **Changing a group.**  A success passed the field rules, found the live group, read the
new type or kept the old one, judged and checked the merged draft, uniqueness excluding the
group itself, and, when the type changed, found no live account with the group as primary
group. -/
theorem updateGroup_spec (p : RangePolicy) (id : Int) (req : GroupChange) (actor : Actor)
    (r0 : Registry) :
    ⦃fun r => ⌜r = r0⌝⦄ updateGroup p id req actor
    ⦃post⟨fun v r => ⌜req.violations = [] ∧ ∃ g, r0.tables.group? id = some g ∧
        ∃ type, req.type.elim (some g.type) IdentityType.parse = some type ∧
        v.record = g.withDraft ⟨req.gid.getD g.gid, req.groupname.getD g.groupname, type,
          req.description.getD g.description, g.createdBy⟩ ∧
        ((p.judge .gid v.record.gid type).toResult .gid).map Option.toList = .ok v.warnings ∧
        r0.tables.gidTaken v.record.gid id = false ∧
        r0.tables.groupnameTaken v.record.groupname id = false ∧
        (type ≠ g.type → r0.tables.primaryCount id = 0) ∧ r.lastId = r0.lastId + 1 ∧
        r0.Wrote r (.updateGroup v.record) ⟨.update, .group, v.record.id,
          changeLine s!"Updated group {v.record.groupname} with GID {v.record.gid}"
            (groupChanges g ⟨req.gid.getD g.gid, req.groupname.getD g.groupname, type,
              req.description.getD g.description, g.createdBy⟩), actor⟩⌝,
      fun _ r => ⌜r0.RolledBack r⌝⟩⦄ := by
  mvcgen -trivial [updateGroup, checkRules, findGroup, parseType, ensureUniqueGroup,
    ensureNotPrimary, tables, fail]
  all_goals simp_all +zetaDelta [Registry.RolledBack, Registry.Wrote]

/-- **Deleting a group** needs it live and no live account's primary group. -/
theorem deleteGroup_spec (id : Int) (actor : Actor) (r0 : Registry) :
    ⦃fun r => ⌜r = r0⌝⦄ deleteGroup id actor
    ⦃post⟨fun _ r => ⌜∃ g, r0.tables.group? id = some g ∧ r0.tables.primaryCount id = 0 ∧
        r.lastId = r0.lastId + 1 ∧ r0.Wrote r (.deleteGroup id)
          ⟨.delete, .group, id, s!"Deleted group {g.groupname} with GID {g.gid}", actor⟩⌝,
      fun _ r => ⌜r0.RolledBack r⌝⟩⦄ := by
  mvcgen [deleteGroup, findGroup, ensureNotPrimary, tables, fail]
  all_goals simp_all +zetaDelta [Registry.RolledBack, Registry.Wrote]

/-! ### Memberships -/

/-- **Joining an account to a group** needs both live, their types compatible, and the pair
new. -/
theorem assign_spec (account group : Int) (actor : Actor) (r0 : Registry) :
    ⦃fun r => ⌜r = r0⌝⦄ assign account group actor
    ⦃post⟨fun _ r => ⌜∃ a g, r0.tables.account? account = some a ∧
        r0.tables.group? group = some g ∧ compatible a.type g.type = true ∧
        ⟨account, group⟩ ∉ r0.tables.memberships ∧ r.lastId = r0.lastId + 1 ∧
        r0.Wrote r (.insertMembership ⟨account, group⟩) ⟨.assign, .accountGroup, account,
          s!"Assigned account {a.username} (ID: {account}) to group {g.groupname} (ID: {group})",
          actor⟩⌝,
      fun _ r => ⌜r0.RolledBack r⌝⟩⦄ := by
  mvcgen [assign, loadPair, findAccount, findGroup, tables, fail]
  all_goals simp_all +zetaDelta [Registry.RolledBack, Registry.Wrote]

/-- **Parting an account from a group** needs both live and the pair present; a missing
pair is refused inside the transaction, before anything is drawn. -/
theorem remove_spec (account group : Int) (actor : Actor) (r0 : Registry) :
    ⦃fun r => ⌜r = r0⌝⦄ remove account group actor
    ⦃post⟨fun _ r => ⌜∃ a g, r0.tables.account? account = some a ∧
        r0.tables.group? group = some g ∧ ⟨account, group⟩ ∈ r0.tables.memberships ∧
        r.lastId = r0.lastId + 1 ∧
        r0.Wrote r (.deleteMembership account group) ⟨.remove, .accountGroup, account,
          s!"Removed account {a.username} (ID: {account}) from group {g.groupname} (ID: {group})",
          actor⟩⌝,
      fun _ r => ⌜r0.RolledBack r⌝⟩⦄ := by
  mvcgen [remove, loadPair, findAccount, findGroup, tables, fail]
  all_goals simp_all +zetaDelta [Registry.RolledBack, Registry.Wrote]

end Service

end PosixRegistry
