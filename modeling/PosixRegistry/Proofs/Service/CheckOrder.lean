import PosixRegistry.Proofs.Service.Session

/-!
# Services — the order of the checks

A request to create or change an account or a group passes a row of checks, made one after the
other on the registry as it is; the first that fails refuses the request with its own error, and
a request that passes them all is written.  The rows are stated here as lists of checks, each a
condition and the refusal it gives (`Registry.accountCreationChecks`,
`Registry.accountChangeChecks`, `Registry.groupCreationChecks`, `Registry.groupChangeChecks`),
and `firstRefusal` reads off the outcome of a row.

* `creates_and_updates_refuse_in_order`: on every registry, each of the four services succeeds
  exactly when its row passes, and otherwise refuses with the error of the first check of the
  row that fails.

The store checks every write again when it is made and when the transaction commits.  In a
sequential run those checks never refuse what the service's own checks let through: a row the
service found free of clashes passes the store's check (`Tables.checkAccount_of_free`,
`Tables.checkGroup_of_free`), the row an update names is there to be replaced, and the commit
replays the log on the tables the transaction began on (`Service.finish_checked_spec`).  So the
only refusal after the checks is the audit append's.
-/

open Std.Do

set_option mvcgen.warning false

namespace PosixRegistry

/-! ### Rows of checks -/

/-- The outcome of a row of checks made in order, each a condition and the refusal it gives:
the refusal of the first that fails, if any. -/
def firstRefusal : List (Bool × ServiceError) → Except ServiceError Unit
  | [] => .ok ()
  | (ok, e) :: cs => if ok then firstRefusal cs else .error e

@[simp] theorem firstRefusal_nil : firstRefusal [] = .ok () := rfl

@[simp] theorem firstRefusal_cons {ok : Bool} {e : ServiceError} {cs : List (Bool × ServiceError)} :
    firstRefusal ((ok, e) :: cs) = if ok then firstRefusal cs else .error e := rfl

/-- A row refuses only with the refusal of one of its checks, and that check fails. -/
theorem mem_of_firstRefusal_eq_error {cs : List (Bool × ServiceError)} {e : ServiceError}
    (h : firstRefusal cs = .error e) : (false, e) ∈ cs := by
  induction cs with
  | nil => simp at h
  | cons c cs ih =>
    obtain ⟨ok, e'⟩ := c
    cases ok with
    | false =>
      obtain rfl : e' = e := by simpa using h
      exact List.mem_cons_self
    | true => exact List.mem_cons_of_mem _ (ih (by simpa using h))

/-- A row passes exactly when every one of its checks does. -/
theorem firstRefusal_eq_ok_iff {cs : List (Bool × ServiceError)} :
    firstRefusal cs = .ok () ↔ ∀ c ∈ cs, c.1 = true := by
  induction cs with
  | nil => simp
  | cons c cs ih =>
    obtain ⟨ok, e⟩ := c
    cases ok <;> simp [ih]

/-- The primary-group check of an account of a type: a system account needs a primary group;
a primary group must be a live group, and a system account's must be a system group. -/
def Tables.primaryGroupCheck (t : Tables) (type : IdentityType) : Option Int → Bool × ServiceError
  | none => (!type.isSystem, .registry .primaryGroupRequired)
  | some g =>
    match t.group? g with
    | none => (false, .registry (.missingReference "group" g))
    | some grp => (!(type.isSystem && !grp.isSystem), .registry (.primaryGroupNotSystem g grp.type))

namespace Registry

/-- The audit check: audit appends must not be failing. -/
def auditCheck (r : Registry) : Bool × ServiceError :=
  (!r.failAudit, .registry (.auditWriteFailed "audit table unavailable"))

/-- The checks of an account about to be written, in order: its user id is not negative, no live
account but the one excluded (`0` excludes none) has its user id or its username, and its primary
group fits its type. -/
def accountChecks (r : Registry) (exclude : Int) (d : AccountDraft) : List (Bool × ServiceError) :=
  [(!decide (d.uid < 0), .registry (.negativeIdentifier .uid)),
   (!r.tables.uidTaken d.uid exclude, .registry (.uidTaken d.uid)),
   (!r.tables.usernameTaken d.username exclude, .registry (.usernameTaken d.username)),
   r.tables.primaryGroupCheck d.type d.primaryGroup]

/-- The checks of a group about to be written, in order: its group id is not negative, and no
live group but the one excluded has its group id or its name. -/
def groupChecks (r : Registry) (exclude : Int) (d : GroupDraft) : List (Bool × ServiceError) :=
  [(!decide (d.gid < 0), .registry (.negativeIdentifier .gid)),
   (!r.tables.gidTaken d.gid exclude, .registry (.gidTaken d.gid)),
   (!r.tables.groupnameTaken d.groupname exclude, .registry (.groupnameTaken d.groupname))]

/-- The checks of an account creation, in order: the field rules, the type name, then the
account's checks with the given user id or the one after the largest of the type, then the
audit. -/
@[irreducible] def accountCreationChecks (r : Registry) (p : RangePolicy) (req : NewAccount) :
    List (Bool × ServiceError) :=
  (req.violations.isEmpty, violationsError req.violations) ::
  match IdentityType.parse req.type with
  | none => [(false, .registry (.invalidType req.type))]
  | some type =>
    r.accountChecks 0 ⟨req.uid.getD (p.nextAfter .uid (r.tables.maxUid type) type), req.username,
      type, req.primaryGroup, req.firstName, req.lastName⟩ ++ [r.auditCheck]

/-- The checks of an account change, in order: the field rules, that the account is live, the
new type name if one is given, then the checks of the account with the change merged in,
leaving the account itself out, then the audit. -/
@[irreducible] def accountChangeChecks (r : Registry) (id : Int) (req : AccountChange) :
    List (Bool × ServiceError) :=
  (req.violations.isEmpty, violationsError req.violations) ::
  match r.tables.account? id with
  | none => [(false, .registry (.accountNotFound id))]
  | some a =>
    match req.type with
    | none => r.accountChecks id (Service.AccountChange.merge a req a.type) ++ [r.auditCheck]
    | some s =>
      match IdentityType.parse s with
      | none => [(false, .registry (.invalidType s))]
      | some type => r.accountChecks id (Service.AccountChange.merge a req type) ++ [r.auditCheck]

/-- The checks of a group creation, in order: the field rules, the type name, then the group's
checks with the given group id or the one after the largest of the type, then the audit. -/
@[irreducible] def groupCreationChecks (r : Registry) (p : RangePolicy) (req : NewGroup)
    (actor : Actor) : List (Bool × ServiceError) :=
  (req.violations.isEmpty, violationsError req.violations) ::
  match IdentityType.parse req.type with
  | none => [(false, .registry (.invalidType req.type))]
  | some type =>
    r.groupChecks 0 ⟨req.gid.getD (p.nextAfter .gid (r.tables.maxGid type) type), req.groupname,
      type, req.description.getD "", some actor.username⟩ ++ [r.auditCheck]

/-- The draft of a group with a change request merged in. -/
abbrev groupChange (g : Group) (req : GroupChange) (type : IdentityType) : GroupDraft :=
  ⟨req.gid.getD g.gid, req.groupname.getD g.groupname, type, req.description.getD g.description,
    g.createdBy⟩

/-- The checks of a group change, in order: the field rules, that the group is live, the new
type name if one is given, then the checks of the group with the change merged in, leaving the
group itself out, that a group whose type changes is no live account's primary group, then the
audit. -/
@[irreducible] def groupChangeChecks (r : Registry) (id : Int) (req : GroupChange) :
    List (Bool × ServiceError) :=
  (req.violations.isEmpty, violationsError req.violations) ::
  match r.tables.group? id with
  | none => [(false, .registry (.groupNotFound id))]
  | some g =>
    match req.type with
    | none => r.groupChecks id (groupChange g req g.type) ++ [r.auditCheck]
    | some s =>
      match IdentityType.parse s with
      | none => [(false, .registry (.invalidType s))]
      | some type =>
        r.groupChecks id (groupChange g req type) ++
          [(type == g.type || !decide (0 < r.tables.primaryCount id),
            .registry (.groupInUse id (r.tables.primaryCount id))),
           r.auditCheck]

end Registry

/-! ### The store's checks pass what the services let through -/

namespace Tables

variable {t : Tables}

/-- A clash test that leaves out no row, or the row under check, leaves out no other row. -/
theorem not_excluded {id exclude other : Int} (hex : exclude = 0 ∨ exclude = id)
    (hne : other ≠ id) : ¬(exclude ≠ 0 ∧ other = exclude) := by
  rintro ⟨h0, hid⟩
  rcases hex with rfl | rfl
  · exact h0 rfl
  · exact hne hid

/-- An account that no other live account clashes with, and whose primary group is a live group,
passes the store's check; the service leaves out no row, or the account itself. -/
theorem checkAccount_of_free {a : Account} {exclude : Int} (hex : exclude = 0 ∨ exclude = a.id)
    (huid : t.uidTaken a.uid exclude = false) (hname : t.usernameTaken a.username exclude = false)
    (hgroup : ∀ g, a.primaryGroup = some g → ∃ grp, t.group? g = some grp) :
    t.checkAccount a = .ok () := by
  rw [checkAccount_eq_ok]
  refine ⟨fun b hb hne => ⟨fun he => ?_, fun he => ?_⟩, fun g hg => ?_⟩
  · exact not_excluded hex hne (uidTaken_eq_false.mp huid b hb he)
  · exact not_excluded hex hne (usernameTaken_eq_false.mp hname b hb he)
  · obtain ⟨grp, hgrp⟩ := hgroup g hg
    obtain ⟨hlive, hid⟩ := group?_eq_some hgrp
    exact ⟨grp, (mem_liveGroups.mp hlive).1, hid⟩

/-- A group that no other live group clashes with passes the store's check. -/
theorem checkGroup_of_free {g : Group} {exclude : Int} (hex : exclude = 0 ∨ exclude = g.id)
    (hgid : t.gidTaken g.gid exclude = false)
    (hname : t.groupnameTaken g.groupname exclude = false) :
    t.checkGroup g = .ok () := by
  rw [checkGroup_eq_ok]
  refine fun h hh hne => ⟨fun he => ?_, fun he => ?_⟩
  · exact not_excluded hex hne (gidTaken_eq_false.mp hgid h hh he)
  · exact not_excluded hex hne (groupnameTaken_eq_false.mp hname h hh he)

/-- The live account with an id is a row an update can replace. -/
theorem replaceFirst_live_account {id : Int} {a : Account} (h : t.account? id = some a)
    (f : Account → Account) :
    ∃ l, replaceFirst (fun b => b.id == a.id && !b.deleted) f t.accounts = some l := by
  obtain ⟨hlive, -⟩ := account?_eq_some h
  cases hr : replaceFirst (fun b => b.id == a.id && !b.deleted) f t.accounts with
  | some l => exact ⟨l, rfl⟩
  | none =>
    have := replaceFirst_eq_none_iff.mp hr a (mem_liveAccounts.mp hlive).1
    simp [(mem_liveAccounts.mp hlive).2] at this

/-- The live group with an id is a row an update can replace. -/
theorem replaceFirst_live_group {id : Int} {g : Group} (h : t.group? id = some g)
    (f : Group → Group) :
    ∃ l, replaceFirst (fun h => h.id == g.id && !h.deleted) f t.groups = some l := by
  obtain ⟨hlive, -⟩ := group?_eq_some h
  cases hr : replaceFirst (fun h => h.id == g.id && !h.deleted) f t.groups with
  | some l => exact ⟨l, rfl⟩
  | none =>
    have := replaceFirst_eq_none_iff.mp hr g (mem_liveGroups.mp hlive).1
    simp [(mem_liveGroups.mp hlive).2] at this

end Tables

namespace Txn

variable {x : Txn} {id : Int}

/-- Changing the live account with an id, to one that passes the store's check, is not
refused. -/
theorem updateAccount_ne_error {a : Account} {d : AccountDraft}
    (ha : x.working.account? id = some a) (hcheck : x.working.checkAccount (a.withDraft d) = .ok ())
    (e : RegistryError) : x.updateAccount id d ≠ .error e := by
  obtain ⟨l, hl⟩ := Tables.replaceFirst_live_account ha fun _ => a.withDraft d
  have happly : x.working.apply (.updateAccount (a.withDraft d)) = .ok { x.working with accounts := l } :=
    Tables.apply_updateAccount_eq_ok.mpr ⟨hcheck, l, hl, rfl⟩
  intro h
  simp only [updateAccount, ha, write_map_eq_error, happly] at h
  cases h

/-- Changing the live group with an id, to one that passes the store's check, is not refused. -/
theorem updateGroup_ne_error {g : Group} {d : GroupDraft}
    (hg : x.working.group? id = some g) (hcheck : x.working.checkGroup (g.withDraft d) = .ok ())
    (e : RegistryError) : x.updateGroup id d ≠ .error e := by
  obtain ⟨l, hl⟩ := Tables.replaceFirst_live_group hg fun _ => g.withDraft d
  have happly : x.working.apply (.updateGroup (g.withDraft d)) = .ok { x.working with groups := l } :=
    Tables.apply_updateGroup_eq_ok.mpr ⟨hcheck, l, hl, rfl⟩
  intro h
  simp only [updateGroup, hg, write_map_eq_error, happly] at h
  cases h

end Txn

namespace Registry

variable {r : Registry} {id : Int}

/-- A transaction begun on the registry may change the live account with an id to any draft
free of clashes with the other live accounts whose primary group is a live group. -/
theorem begin_updateAccount_ne_error {a : Account} {d : AccountDraft}
    (ha : r.tables.account? id = some a) (huid : r.tables.uidTaken d.uid id = false)
    (hname : r.tables.usernameTaken d.username id = false)
    (hgroup : ∀ g, d.primaryGroup = some g → ∃ grp, r.tables.group? g = some grp)
    (e : RegistryError) : r.begin.updateAccount id d ≠ .error e :=
  Txn.updateAccount_ne_error (x := r.begin) ha
    (Tables.checkAccount_of_free (a := a.withDraft d) (.inr (Tables.account?_eq_some ha).2.symm)
      huid hname hgroup) e

/-- A transaction begun on the registry may change the live group with an id to any draft free
of clashes with the other live groups. -/
theorem begin_updateGroup_ne_error {g : Group} {d : GroupDraft}
    (hg : r.tables.group? id = some g) (hgid : r.tables.gidTaken d.gid id = false)
    (hname : r.tables.groupnameTaken d.groupname id = false) (e : RegistryError) :
    r.begin.updateGroup id d ≠ .error e :=
  Txn.updateGroup_ne_error (x := r.begin) hg
    (Tables.checkGroup_of_free (g := g.withDraft d) (.inr (Tables.group?_eq_some hg).2.symm)
      hgid hname) e

end Registry

/-- A judgement refuses a negative identifier and lets every other through. -/
theorem RangePolicy.judge_toResult (p : RangePolicy) (k : IdKind) (id : Int) (t : IdentityType) :
    (p.judge k id t).toResult k = if id < 0 then .error (.negativeIdentifier k)
      else .ok (if (p.rangeFor k t).contains id then none else some ⟨k, id, t, p.rangeFor k t⟩) := by
  unfold RangePolicy.judge
  by_cases hneg : id < 0
  · simp [hneg, Verdict.toResult]
  · by_cases hc : (p.rangeFor k t).contains id <;> simp [hneg, hc, Verdict.toResult]

/-! ### The steps of a write, as far as refusals go

These specifications take precedence over those of `Writes` here: they say which steps can
refuse at all.  A transaction begun on the tables as they are, with nothing committed since,
replays to its working copy; then only the audit append can refuse. -/

namespace Service

/-- A judgement refuses exactly a negative identifier. -/
@[spec 2000] theorem judge_refusal_spec (p : RangePolicy) (k : IdKind) (id : Int)
    (t : IdentityType) (r0 : Registry) :
    ⦃fun r => ⌜r = r0⌝⦄ judge p k id t
    ⦃post⟨fun _ r => ⌜r = r0 ∧ 0 ≤ id⌝,
      fun e r => ⌜r = r0 ∧ id < 0 ∧ e = .registry (.negativeIdentifier k)⌝⟩⦄ := by
  unfold judge
  by_cases hneg : id < 0
  · simp only [RangePolicy.judge_toResult, hneg, ↓reduceIte]
    mvcgen [lift, fail]
  · simp only [RangePolicy.judge_toResult, hneg, ↓reduceIte]
    mvcgen [lift, fail]
    exact ⟨by assumption, by omega⟩

/-- Inserting an account that passes the store's check is not refused, and keeps the
transaction replaying to its working copy. -/
@[spec 2000] theorem drawing_insertAccount_checked_spec (x : Txn) (d : AccountDraft)
    (r0 : Registry) :
    ⦃fun r => ⌜r = r0 ∧ x.Replays r0.tables ∧
      x.working.checkAccount (d.toAccount (r0.lastId + 1)) = .ok ()⌝⦄
    drawing (Txn.insertAccount · x d)
    ⦃post⟨fun p r => ⌜r = r0.draw.2 ∧ p.2.Replays r0.tables⌝, fun _ _ => ⌜False⌝⟩⦄ := by
  unfold drawing
  mvcgen [Txn.insertAccount, lift, fail]
  · rename_i hpre p hp
    obtain ⟨rfl, hx, -⟩ := hpre
    obtain ⟨t₁, h₁, rfl⟩ := Txn.write_map_eq_ok.mp hp
    exact ⟨rfl, hx.write (Txn.write_eq_ok.mpr ⟨t₁, h₁, rfl⟩)⟩
  · rename_i hpre e he
    obtain ⟨rfl, -, hcheck⟩ := hpre
    cases (Txn.write_map_eq_error.mp he).symm.trans
      (Tables.apply_insertAccount_eq_ok.mpr ⟨hcheck, rfl⟩)

/-- Inserting a group that passes the store's check is not refused, and keeps the transaction
replaying to its working copy. -/
@[spec 2000] theorem drawing_insertGroup_checked_spec (x : Txn) (d : GroupDraft)
    (r0 : Registry) :
    ⦃fun r => ⌜r = r0 ∧ x.Replays r0.tables ∧
      x.working.checkGroup (d.toGroup (r0.lastId + 1)) = .ok ()⌝⦄
    drawing (Txn.insertGroup · x d)
    ⦃post⟨fun p r => ⌜r = r0.draw.2 ∧ p.2.Replays r0.tables⌝, fun _ _ => ⌜False⌝⟩⦄ := by
  unfold drawing
  mvcgen [Txn.insertGroup, lift, fail]
  · rename_i hpre p hp
    obtain ⟨rfl, hx, -⟩ := hpre
    obtain ⟨t₁, h₁, rfl⟩ := Txn.write_map_eq_ok.mp hp
    exact ⟨rfl, hx.write (Txn.write_eq_ok.mpr ⟨t₁, h₁, rfl⟩)⟩
  · rename_i hpre e he
    obtain ⟨rfl, -, hcheck⟩ := hpre
    cases (Txn.write_map_eq_error.mp he).symm.trans
      (Tables.apply_insertGroup_eq_ok.mpr ⟨hcheck, rfl⟩)

/-- A change the store does not refuse keeps the transaction replaying to its working copy. -/
@[spec 2000] theorem lift_updateAccount_checked_spec (x : Txn) (id : Int) (d : AccountDraft)
    (r0 : Registry) :
    ⦃fun r => ⌜r = r0 ∧ x.Replays r0.tables ∧ ∀ e, x.updateAccount id d ≠ .error e⌝⦄
    lift (x.updateAccount id d)
    ⦃post⟨fun p r => ⌜r = r0 ∧ p.2.Replays r0.tables⌝, fun _ _ => ⌜False⌝⟩⦄ := by
  cases h : x.updateAccount id d with
  | error e =>
    mvcgen [lift, fail]
    simp_all
  | ok p =>
    obtain ⟨a, -, t₁, h₁, rfl⟩ := Txn.updateAccount_eq_ok.mp h
    mvcgen [lift]
    rename_i hpre
    exact ⟨hpre.1, hpre.2.1.write (Txn.write_eq_ok.mpr ⟨t₁, h₁, rfl⟩)⟩

/-- A change the store does not refuse keeps the transaction replaying to its working copy. -/
@[spec 2000] theorem lift_updateGroup_checked_spec (x : Txn) (id : Int) (d : GroupDraft)
    (r0 : Registry) :
    ⦃fun r => ⌜r = r0 ∧ x.Replays r0.tables ∧ ∀ e, x.updateGroup id d ≠ .error e⌝⦄
    lift (x.updateGroup id d)
    ⦃post⟨fun p r => ⌜r = r0 ∧ p.2.Replays r0.tables⌝, fun _ _ => ⌜False⌝⟩⦄ := by
  cases h : x.updateGroup id d with
  | error e =>
    mvcgen [lift, fail]
    simp_all
  | ok p =>
    obtain ⟨g, -, t₁, h₁, rfl⟩ := Txn.updateGroup_eq_ok.mp h
    mvcgen [lift]
    rename_i hpre
    exact ⟨hpre.1, hpre.2.1.write (Txn.write_eq_ok.mpr ⟨t₁, h₁, rfl⟩)⟩

/-- Finishing a transaction that replays to its working copy on the tables as they are commits,
unless audit appends are failing: that is its only refusal. -/
@[spec 2000] theorem finish_checked_spec (x : Txn) (n : AuditNote) (r0 : Registry) :
    ⦃fun r => ⌜r = r0 ∧ x.Replays r0.tables⌝⦄ finish x n
    ⦃post⟨fun _ _ => ⌜r0.failAudit = false⌝,
      fun e _ => ⌜r0.failAudit = true ∧
        e = .registry (.auditWriteFailed "audit table unavailable")⌝⟩⦄ := by
  unfold finish
  cases hf : r0.failAudit
  all_goals mvcgen [Txn.appendAudit, fail]
  all_goals simp_all [Txn.write, Except.map]
  · -- the commit replays the log with the audit entry on the tables it began on
    rename_i hpre _ x' e hx' hcommit
    obtain ⟨-, rfl⟩ := hx'
    have hrep := hpre.2.write (w := .audit (n.entry (r0.lastId + 1) r0.clock))
      (Txn.write_eq_ok.mpr ⟨_, rfl, rfl⟩)
    cases hcommit.symm.trans
      (Txn.Replays.commit (r := ⟨r0.tables, r0.lastId + 1, false, r0.clock⟩) hrep)
  · rename_i hne heq
    exact absurd heq.symm (hne _)

/-- The account-creation service succeeds exactly when its row of checks passes, and otherwise
refuses with the first failing check's error. -/
theorem createAccount_checks_spec (p : RangePolicy) (req : NewAccount) (actor : Actor)
    (r0 : Registry) :
    ⦃fun r => ⌜r = r0⌝⦄ createAccount p req actor
    ⦃post⟨fun _ _ => ⌜firstRefusal (r0.accountCreationChecks p req) = .ok ()⌝,
      fun e _ => ⌜firstRefusal (r0.accountCreationChecks p req) = .error e⌝⟩⦄ := by
  mvcgen -trivial [createAccount, checkRules, parseType, nextUid, ensureUniqueAccount,
    ensurePrimaryGroup, tables, fail]
  all_goals simp_all +zetaDelta [Registry.accountCreationChecks, Registry.accountChecks,
    Tables.primaryGroupCheck, Registry.auditCheck, Registry.begin_replays]
  -- what is left: the checked account passes the store's check at its insertion
  all_goals
    refine Tables.checkAccount_of_free (.inl rfl) ‹_› ‹_› fun g hg => ?_
    simp_all

/-- The account-change service succeeds exactly when its row of checks passes, and otherwise
refuses with the first failing check's error. -/
theorem updateAccount_checks_spec (p : RangePolicy) (id : Int) (req : AccountChange)
    (actor : Actor) (r0 : Registry) :
    ⦃fun r => ⌜r = r0⌝⦄ updateAccount p id req actor
    ⦃post⟨fun _ _ => ⌜firstRefusal (r0.accountChangeChecks id req) = .ok ()⌝,
      fun e _ => ⌜firstRefusal (r0.accountChangeChecks id req) = .error e⌝⟩⦄ := by
  mvcgen -trivial [updateAccount, checkRules, findAccount, parseType, ensureUniqueAccount,
    ensurePrimaryGroup, tables, fail]
  all_goals simp_all +zetaDelta [Registry.accountChangeChecks, Registry.accountChecks,
    Tables.primaryGroupCheck, Registry.auditCheck, Registry.begin_replays]
  -- what is left: the store does not refuse the checked change
  all_goals exact Registry.begin_updateAccount_ne_error ‹_› ‹_› ‹_› fun g hg => by simp_all

/-- The group-creation service succeeds exactly when its row of checks passes, and otherwise
refuses with the first failing check's error. -/
theorem createGroup_checks_spec (p : RangePolicy) (req : NewGroup) (actor : Actor)
    (r0 : Registry) :
    ⦃fun r => ⌜r = r0⌝⦄ createGroup p req actor
    ⦃post⟨fun _ _ => ⌜firstRefusal (r0.groupCreationChecks p req actor) = .ok ()⌝,
      fun e _ => ⌜firstRefusal (r0.groupCreationChecks p req actor) = .error e⌝⟩⦄ := by
  mvcgen -trivial [createGroup, checkRules, parseType, nextGid, ensureUniqueGroup, tables, fail]
  all_goals simp_all +zetaDelta [Registry.groupCreationChecks, Registry.groupChecks,
    Registry.auditCheck, Registry.begin_replays]
  -- what is left: the checked group passes the store's check at its insertion
  all_goals exact Tables.checkGroup_of_free (.inl rfl) ‹_› ‹_›

/-- The group-change service succeeds exactly when its row of checks passes, and otherwise
refuses with the first failing check's error. -/
theorem updateGroup_checks_spec (p : RangePolicy) (id : Int) (req : GroupChange)
    (actor : Actor) (r0 : Registry) :
    ⦃fun r => ⌜r = r0⌝⦄ updateGroup p id req actor
    ⦃post⟨fun _ _ => ⌜firstRefusal (r0.groupChangeChecks id req) = .ok ()⌝,
      fun e _ => ⌜firstRefusal (r0.groupChangeChecks id req) = .error e⌝⟩⦄ := by
  mvcgen -trivial [updateGroup, checkRules, findGroup, parseType, ensureUniqueGroup,
    ensureNotPrimary, tables, fail]
  all_goals simp_all +zetaDelta [Registry.groupChangeChecks, Registry.groupChecks,
    Registry.auditCheck, Registry.begin_replays]
  all_goals exact Registry.begin_updateGroup_ne_error ‹_› ‹_› ‹_›

variable {α : Type} {s : Service α} {r0 : Registry}

/-- A step whose triple pins its success and its refusal to one verdict has that verdict as its
outcome. -/
theorem outcome_eq_of_triple {v : Except ServiceError Unit}
    (h : ⦃fun r => ⌜r = r0⌝⦄ s ⦃post⟨fun _ _ => ⌜v = .ok ()⌝, fun e _ => ⌜v = .error e⌝⟩⦄) :
    (s.outcome r0).1 = v := by
  have ho := outcome_of_triple h
  generalize s.outcome r0 = o at ho ⊢
  rcases o with ⟨e | _, r⟩
  · exact ho.symm
  · obtain ⟨_, hv⟩ := ho
    exact hv.symm

/-- A step whose row of checks passes succeeds. -/
theorem ok_of_checks_spec {cs : List (Bool × ServiceError)}
    (h : ⦃fun r => ⌜r = r0⌝⦄ s ⦃post⟨fun _ _ => ⌜firstRefusal cs = .ok ()⌝,
      fun e _ => ⌜firstRefusal cs = .error e⌝⟩⦄)
    (hpass : firstRefusal cs = .ok ()) : ∃ v r, s.run.run r0 = (.ok v, r) := by
  have hrun := run_of_triple h (r := r0) rfl
  generalize s.run.run r0 = o at hrun ⊢
  rcases o with ⟨e | v, r⟩
  · have he : firstRefusal cs = .error e := hrun
    rw [hpass] at he
    cases he
  · exact ⟨v, r, rfl⟩

end Service

/-! ### The order of the checks -/

/-- On every registry, creating or changing an account or a group succeeds exactly when the row of
checks of the request passes, and otherwise fails with the refusal of the first check that fails;
the store's own checks never refuse first. -/
theorem creates_and_updates_refuse_in_order (r : Registry) :
    (∀ p req actor, ((Service.createAccount p req actor).outcome r).1 =
      firstRefusal (r.accountCreationChecks p req)) ∧
    (∀ p id req actor, ((Service.updateAccount p id req actor).outcome r).1 =
      firstRefusal (r.accountChangeChecks id req)) ∧
    (∀ p req actor, ((Service.createGroup p req actor).outcome r).1 =
      firstRefusal (r.groupCreationChecks p req actor)) ∧
    (∀ p id req actor, ((Service.updateGroup p id req actor).outcome r).1 =
      firstRefusal (r.groupChangeChecks id req)) :=
  ⟨fun p req actor => Service.outcome_eq_of_triple (Service.createAccount_checks_spec p req actor r),
    fun p id req actor =>
      Service.outcome_eq_of_triple (Service.updateAccount_checks_spec p id req actor r),
    fun p req actor => Service.outcome_eq_of_triple (Service.createGroup_checks_spec p req actor r),
    fun p id req actor =>
      Service.outcome_eq_of_triple (Service.updateGroup_checks_spec p id req actor r)⟩

end PosixRegistry
