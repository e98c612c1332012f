import PosixRegistry.Proofs.Service.Changes
import PosixRegistry.Proofs.Service.CheckOrder
import PosixRegistry.Proofs.Service.PrimaryGroups

/-!
# Services — changes are idempotent, and the empty change is always accepted

In every registry a session leaves, with audit appends on (`reachable_updates_idempotent`):

* the empty change of a live account or group is accepted, returns the record as it was, leaves
  every table but the audit log as it was, and is audited with the bare head
  `Updated account <username> with UID <uid>` (or the group's), with no change list;
* a change that was accepted is accepted again at once, with the same record and the same range
  warnings, and again touches only the audit log, with the bare head.

Neither is local to the update code.  Both are cases of one fact: a change that merges to the
live record's own draft is accepted (`Reachable.updateAccount_settled`).  Its checks are the
record's own, which pass because a live record is the only live holder of its identifier and
name, and leaving it out of the check leaves something out, ids being at least 1
(`Registry.Sound.uidTaken_own`), and because every live account keeps the primary-group rule
(`Tables.PrimaryGroupsFit`).  A repeated change merges to the record the first one stored
(`Service.AccountChange.merge_merged`) in a registry a session leaves too, and does not trip the
freeze on a group's type, which fires only when the type changes.
-/

namespace PosixRegistry

/-! ### Checks that pass -/

/-- The primary-group check passes exactly when the primary group fits the type. -/
theorem Tables.primaryGroupCheck_passes {t : Tables} {type : IdentityType} {g : Option Int} :
    (t.primaryGroupCheck type g).1 = true ↔ t.PrimaryGroupFits type g := by
  cases g with
  | none => simp [primaryGroupCheck, PrimaryGroupFits]
  | some i =>
    cases h : t.group? i with
    | none => simp [primaryGroupCheck, PrimaryGroupFits, h]
    | some grp => cases hsys : type.isSystem <;> simp [primaryGroupCheck, PrimaryGroupFits, h, hsys]

namespace Registry

variable {r : Registry} {id : Int}

/-- The checks of an account pass exactly when its user id is not negative, no other live account
holds its user id or username, and its primary group fits its type. -/
theorem accountChecks_pass {exclude : Int} {d : AccountDraft} :
    (∀ c ∈ r.accountChecks exclude d, c.1 = true) ↔
      0 ≤ d.uid ∧ r.tables.uidTaken d.uid exclude = false ∧
        r.tables.usernameTaken d.username exclude = false ∧
        r.tables.PrimaryGroupFits d.type d.primaryGroup := by
  simp [accountChecks, Tables.primaryGroupCheck_passes]

/-- The checks of a group pass exactly when its group id is not negative and no other live group
holds its group id or name. -/
theorem groupChecks_pass {exclude : Int} {d : GroupDraft} :
    (∀ c ∈ r.groupChecks exclude d, c.1 = true) ↔
      0 ≤ d.gid ∧ r.tables.gidTaken d.gid exclude = false ∧
        r.tables.groupnameTaken d.groupname exclude = false := by
  simp [groupChecks]

/-- A row of a write passes when the request keeps the field rules, the record's checks pass
and audit appends are on. -/
theorem write_row_pass {vs : List Violation} {cs : List (Bool × ServiceError)}
    (hv : vs = []) (hchecks : ∀ c ∈ cs, c.1 = true) (hon : r.failAudit = false) :
    firstRefusal ((vs.isEmpty, violationsError vs) :: (cs ++ [r.auditCheck])) = .ok () := by
  rw [firstRefusal_eq_ok_iff]
  intro c hc
  simp only [List.mem_cons, List.mem_append, List.not_mem_nil, or_false] at hc
  rcases hc with rfl | hc | rfl
  · simp [hv]
  · exact hchecks c hc
  · simp [auditCheck, hon]

/-- The row of an account change passes when the request keeps the field rules, the account is
live, the type reads, the merged draft passes the account's checks and audit appends are on. -/
theorem accountChangeChecks_pass {req : AccountChange} {a : Account} {type : IdentityType}
    (hv : req.violations = []) (ha : r.tables.account? id = some a)
    (htype : req.type.elim (some a.type) IdentityType.parse = some type)
    (hchecks : ∀ c ∈ r.accountChecks id (Service.AccountChange.merge a req type), c.1 = true)
    (hon : r.failAudit = false) : firstRefusal (r.accountChangeChecks id req) = .ok () := by
  unfold accountChangeChecks
  rw [ha]
  cases hreq : req.type with
  | none =>
    obtain rfl : a.type = type := by simpa [hreq] using htype
    exact write_row_pass hv hchecks hon
  | some s =>
    have hs : IdentityType.parse s = some type := by simpa [hreq] using htype
    simp only [hs]
    exact write_row_pass hv hchecks hon

/-- The row of a group change passes when the request keeps the field rules, the group is live,
the type reads, the merged draft passes the group's checks, the type stays or the group is no
live account's primary group, and audit appends are on. -/
theorem groupChangeChecks_pass {req : GroupChange} {g : Group} {type : IdentityType}
    (hv : req.violations = []) (hg : r.tables.group? id = some g)
    (htype : req.type.elim (some g.type) IdentityType.parse = some type)
    (hchecks : ∀ c ∈ r.groupChecks id (groupChange g req type), c.1 = true)
    (hfreeze : type = g.type ∨ r.tables.primaryCount id = 0) (hon : r.failAudit = false) :
    firstRefusal (r.groupChangeChecks id req) = .ok () := by
  unfold groupChangeChecks
  rw [hg]
  cases hreq : req.type with
  | none =>
    obtain rfl : g.type = type := by simpa [hreq] using htype
    exact write_row_pass hv hchecks hon
  | some s =>
    have hs : IdentityType.parse s = some type := by simpa [hreq] using htype
    -- the freeze on the type is one more check before the audit
    have hpass : (type == g.type || !decide (0 < r.tables.primaryCount id)) = true := by
      rcases hfreeze with rfl | h0 <;> simp [*]
    simp only [hs, ← List.singleton_append (l := [r.auditCheck]), ← List.append_assoc]
    refine write_row_pass hv (fun c hc => ?_) hon
    rcases List.mem_append.mp hc with hc | hc
    · exact hchecks c hc
    · simp only [List.mem_singleton] at hc
      exact hc ▸ hpass

end Registry

/-! ### A live record is the only live holder of its identifiers -/

namespace Registry.Sound

variable {r : Registry} (hs : r.Sound)
include hs

/-- Record ids are at least 1, so leaving a stored account out of a check leaves it out. -/
theorem account_id_ne_zero {a : Account} (ha : a ∈ r.tables.accounts) : a.id ≠ 0 := by
  have := (hs.rowIds_drawn a.id (by simp [Tables.rowIds, List.mem_map_of_mem ha])).1
  omega

theorem group_id_ne_zero {g : Group} (hg : g ∈ r.tables.groups) : g.id ≠ 0 := by
  have := (hs.rowIds_drawn g.id (by simp [Tables.rowIds, List.mem_map_of_mem hg])).1
  omega

/-- No live account but a live account itself holds its user id and username. -/
theorem uidTaken_own {a : Account} (ha : a ∈ r.tables.liveAccounts) :
    r.tables.uidTaken a.uid a.id = false ∧ r.tables.usernameTaken a.username a.id = false := by
  have hid := hs.account_id_ne_zero (Tables.mem_liveAccounts.mp ha).1
  refine ⟨Tables.uidTaken_eq_false.mpr fun c hc he => ⟨hid, ?_⟩,
    Tables.usernameTaken_eq_false.mpr fun c hc he => ⟨hid, ?_⟩⟩
  · rw [List.inj_on_of_nodup_map hs.constrained.uids hc ha he]
  · rw [List.inj_on_of_nodup_map hs.constrained.usernames hc ha he]

/-- No live group but a live group itself holds its group id and name. -/
theorem gidTaken_own {g : Group} (hg : g ∈ r.tables.liveGroups) :
    r.tables.gidTaken g.gid g.id = false ∧ r.tables.groupnameTaken g.groupname g.id = false := by
  have hid := hs.group_id_ne_zero (Tables.mem_liveGroups.mp hg).1
  refine ⟨Tables.gidTaken_eq_false.mpr fun c hc he => ⟨hid, ?_⟩,
    Tables.groupnameTaken_eq_false.mpr fun c hc he => ⟨hid, ?_⟩⟩
  · rw [List.inj_on_of_nodup_map hs.constrained.gids hc hg he]
  · rw [List.inj_on_of_nodup_map hs.constrained.groupnames hc hg he]

end Registry.Sound

/-! ### Drafts that merge to themselves -/

@[simp] theorem Account.withDraft_draft (a : Account) : a.withDraft a.draft = a := rfl

@[simp] theorem Account.draft_withDraft (a : Account) (d : AccountDraft) :
    (a.withDraft d).draft = d := rfl

@[simp] theorem Group.withDraft_draft (g : Group) : g.withDraft g.draft = g := rfl

namespace Service.AccountChange

/-- Merging a change into the account it produced gives the same draft: a given field was set
the first time, an absent one kept. -/
theorem merge_merged (a : Account) (req : AccountChange) (type : IdentityType) :
    merge (a.withDraft (merge a req type)) req type = merge a req type := by
  simp only [merge, Account.withDraft, AccountDraft.mk.injEq, true_and]
  refine ⟨by cases req.uid <;> rfl, by cases req.username <;> rfl, ?_, ?_, ?_⟩
  · cases req.clearPrimaryGroup <;> cases req.primaryGroup <;> rfl
  · cases req.firstName <;> rfl
  · cases req.lastName <;> rfl

end Service.AccountChange

/-- Merging a change into the group it produced gives the same draft. -/
theorem Registry.groupChange_merged (g : Group) (req : GroupChange) (type : IdentityType) :
    Registry.groupChange (g.withDraft (Registry.groupChange g req type)) req type =
      Registry.groupChange g req type := by
  simp only [Registry.groupChange, Group.withDraft, GroupDraft.mk.injEq, true_and, and_true]
  exact ⟨by cases req.gid <;> rfl, by cases req.groupname <;> rfl, by cases req.description <;> rfl⟩

/-! ### An update that changes nothing -/

namespace Tables

variable {t t' : Tables}

/-- Replacing the live account found under its id by itself leaves the rows as they were: the
row replaced is the first live one with the id, which is the one found. -/
theorem replaceFirst_found {a : Account} (ha : t.account? a.id = some a) {l : List Account}
    (h : replaceFirst (fun x => x.id == a.id && !x.deleted) (fun _ => a) t.accounts = some l) :
    l = t.accounts := by
  obtain ⟨l₁, x, l₂, hsplit, hl₁, hx, rfl⟩ := replaceFirst_eq_some_iff.mp h
  have hfound : t.account? a.id = some x := by
    unfold account? liveAccounts
    rw [hsplit]
    exact find?_live_split hl₁ hx
  obtain rfl : x = a := Option.some.inj (hfound.symm.trans ha)
  exact hsplit.symm

/-- Replacing the live group found under its id by itself leaves the rows as they were. -/
theorem replaceFirstGroup_found {g : Group} (hg : t.group? g.id = some g) {l : List Group}
    (h : replaceFirst (fun x => x.id == g.id && !x.deleted) (fun _ => g) t.groups = some l) :
    l = t.groups := by
  obtain ⟨l₁, x, l₂, hsplit, hl₁, hx, rfl⟩ := replaceFirst_eq_some_iff.mp h
  have hfound : t.group? g.id = some x := by
    unfold group? liveGroups
    rw [hsplit]
    exact find?_live_split hl₁ hx
  obtain rfl : x = g := Option.some.inj (hfound.symm.trans hg)
  exact hsplit.symm

end Tables

namespace Registry

variable {r r' : Registry} {n : AuditNote}

/-- `r'` is `r` after an update that left every table but the audit log as it was and appended
one update entry about the record of a kind with an id, with a line. -/
def Touched (r r' : Registry) (kind : AuditEntityType) (id : Int) (line : String) : Prop :=
  ∃ e, r'.tables = { r.tables with audit := r.tables.audit ++ [e] } ∧ e.action = .update ∧
    e.entityType = kind ∧ e.entityId = id ∧ e.details = line

/-- An audited update of the live account found under its id to itself touches only the
audit log. -/
theorem Wrote.touched_account {a : Account} (hw : r.Wrote r' (.updateAccount a) n)
    (ha : r.tables.account? a.id = some a) (hn : n.action = .update)
    (hkind : n.entityType = .account) (hid : n.entityId = a.id) :
    r.Touched r' .account a.id n.details := by
  obtain ⟨t₁, h₁, ht⟩ := hw.tables
  obtain ⟨-, l, hl, rfl⟩ := Tables.apply_updateAccount_eq_ok.mp h₁
  rw [Tables.replaceFirst_found ha hl] at ht
  exact ⟨_, ht, hn, hkind, hid, rfl⟩

/-- An audited update of the live group found under its id to itself touches only the audit
log. -/
theorem Wrote.touched_group {g : Group} (hw : r.Wrote r' (.updateGroup g) n)
    (hg : r.tables.group? g.id = some g) (hn : n.action = .update)
    (hkind : n.entityType = .group) (hid : n.entityId = g.id) :
    r.Touched r' .group g.id n.details := by
  obtain ⟨t₁, h₁, ht⟩ := hw.tables
  obtain ⟨-, l, hl, rfl⟩ := Tables.apply_updateGroup_eq_ok.mp h₁
  rw [Tables.replaceFirstGroup_found hg hl] at ht
  exact ⟨_, ht, hn, hkind, hid, rfl⟩

end Registry

/-! ### A live record passes its own checks -/

namespace Reachable

variable {r : Registry} (h : Reachable r) {id : Int}
include h

/-- A live account passes its own checks, leaving itself out: its user id is not negative, it is
the only live holder of its user id and username, and its primary group fits its type. -/
theorem accountChecks_own {a : Account} (ha : r.tables.account? id = some a) :
    ∀ c ∈ r.accountChecks id a.draft, c.1 = true := by
  obtain ⟨hlive, rfl⟩ := Tables.account?_eq_some ha
  obtain ⟨huid, hname⟩ := h.sound.uidTaken_own hlive
  exact Registry.accountChecks_pass.mpr
    ⟨h.sound.uids_nonneg a (Tables.mem_liveAccounts.mp hlive).1, huid, hname,
      h.primaryGroupsFit a hlive⟩

/-- A live group passes its own checks, leaving itself out. -/
theorem groupChecks_own {g : Group} (hg : r.tables.group? id = some g) :
    ∀ c ∈ r.groupChecks id g.draft, c.1 = true := by
  obtain ⟨hlive, rfl⟩ := Tables.group?_eq_some hg
  obtain ⟨hgid, hname⟩ := h.sound.gidTaken_own hlive
  exact Registry.groupChecks_pass.mpr
    ⟨h.sound.gids_nonneg g (Tables.mem_liveGroups.mp hlive).1, hgid, hname⟩

end Reachable

/-- The type a change read, it reads again from that type. -/
theorem Service.type_elim_again {old type : IdentityType} {given : Option String}
    (h : given.elim (some old) IdentityType.parse = some type) :
    given.elim (some type) IdentityType.parse = some type := by
  cases given with
  | none => rfl
  | some s => exact h

/-- The registry a request's service step leaves is one a session leaves. -/
theorem Reachable.of_run {α : Type} {r r' : Registry} {s : Service α} {m : Mutation} {v : α}
    (h : Reachable r) (hm : m.run r = s.outcome r) (hrun : s.run.run r = (.ok v, r')) :
    Reachable r' := by
  have hstep := h.step (.mutate m r)
  rwa [hm, Service.outcome, hrun] at hstep

/-! ### A change that merges to the record as it is -/

namespace Reachable

variable {r : Registry} (h : Reachable r) {id : Int} (p : RangePolicy) (actor : Actor)
include h

/-- **A settled account change.**  A change of a live account that keeps the field rules, reads
to the account's own type and merges to the account's own draft is accepted, with audit appends
on: it returns the account as it was, with the warnings its user id draws, and touches only the
audit log, with the bare head as line. -/
theorem updateAccount_settled (hon : r.failAudit = false) {a : Account}
    (ha : r.tables.account? id = some a) {req : AccountChange} (hv : req.violations = [])
    (htype : req.type.elim (some a.type) IdentityType.parse = some a.type)
    (hmerge : Service.AccountChange.merge a req a.type = a.draft) :
    ∃ v r', (Service.updateAccount p id req actor).run.run r = (.ok v, r') ∧ v.record = a ∧
      ((p.judge .uid a.uid a.type).toResult .uid).map Option.toList = .ok v.warnings ∧
      r.Touched r' .account id s!"Updated account {a.username} with UID {a.uid}" := by
  have hpass : firstRefusal (r.accountChangeChecks id req) = .ok () :=
    Registry.accountChangeChecks_pass hv ha htype (hmerge ▸ h.accountChecks_own ha) hon
  obtain ⟨v, r', hrun⟩ :=
    Service.ok_of_checks_spec (Service.updateAccount_checks_spec p id req actor r) hpass
  have hspec := Service.run_of_triple (Service.updateAccount_spec p id req actor r) (r := r) rfl
  rw [hrun] at hspec
  obtain ⟨-, a', ha', type, htype', hrec, hwarn, -, -, -, -, hw⟩ := hspec
  obtain rfl : a = a' := Option.some.inj (ha.symm.trans ha')
  obtain rfl : type = a.type := Option.some.inj (htype'.symm.trans htype)
  rw [hmerge, Account.withDraft_draft] at hrec
  obtain rfl : a.id = id := (Tables.account?_eq_some ha).2
  rw [hrec, hmerge] at hw
  -- the draft is the account's own, so the change list is empty
  have hline := Service.changeLine_accountChanges s!"Updated account {a.username} with UID {a.uid}"
    a a.draft
  rw [if_pos rfl] at hline
  have ht := hw.touched_account ha rfl rfl rfl
  simp only [hline] at ht
  exact ⟨v, r', hrun, hrec, hrec ▸ hwarn, ht⟩

/-- **A settled group change.**  A change of a live group that keeps the field rules, reads to
the group's own type and merges to the group's own draft is accepted, with audit appends on: it
returns the group as it was, with the warnings its group id draws, and touches only the audit
log, with the bare head as line. -/
theorem updateGroup_settled (hon : r.failAudit = false) {g : Group}
    (hg : r.tables.group? id = some g) {req : GroupChange} (hv : req.violations = [])
    (htype : req.type.elim (some g.type) IdentityType.parse = some g.type)
    (hmerge : Registry.groupChange g req g.type = g.draft) :
    ∃ v r', (Service.updateGroup p id req actor).run.run r = (.ok v, r') ∧ v.record = g ∧
      ((p.judge .gid g.gid g.type).toResult .gid).map Option.toList = .ok v.warnings ∧
      r.Touched r' .group id s!"Updated group {g.groupname} with GID {g.gid}" := by
  have hpass : firstRefusal (r.groupChangeChecks id req) = .ok () :=
    Registry.groupChangeChecks_pass hv hg htype (hmerge ▸ h.groupChecks_own hg) (.inl rfl) hon
  obtain ⟨v, r', hrun⟩ :=
    Service.ok_of_checks_spec (Service.updateGroup_checks_spec p id req actor r) hpass
  have hspec := Service.run_of_triple (Service.updateGroup_spec p id req actor r) (r := r) rfl
  rw [hrun] at hspec
  obtain ⟨-, g', hg', type, htype', hrec, hwarn, -, -, -, -, hw⟩ := hspec
  obtain rfl : g = g' := Option.some.inj (hg.symm.trans hg')
  obtain rfl : type = g.type := Option.some.inj (htype'.symm.trans htype)
  unfold Registry.groupChange at hmerge
  rw [hmerge, Group.withDraft_draft] at hrec
  obtain rfl : g.id = id := (Tables.group?_eq_some hg).2
  rw [hrec, hmerge] at hw
  have hline := Service.changeLine_groupChanges s!"Updated group {g.groupname} with GID {g.gid}"
    g g.draft rfl
  rw [if_pos rfl] at hline
  have ht := hw.touched_group hg rfl rfl rfl
  simp only [hline] at ht
  exact ⟨v, r', hrun, hrec, hrec ▸ hwarn, ht⟩

/-- **A change repeated at once.**  After a change of an account is accepted, the same change
is accepted again in the registry it left: the account it stored is live and the change merges to
it, so the change is settled there.  It returns the same account with the same warnings and
touches only the audit log. -/
theorem updateAccount_again {req : AccountChange} {v : Applied Account} {r' : Registry}
    (hrun : (Service.updateAccount p id req actor).run.run r = (.ok v, r')) :
    ∃ v' r'', (Service.updateAccount p id req actor).run.run r' = (.ok v', r'') ∧
      v'.record = v.record ∧ v'.warnings = v.warnings ∧
      r'.Touched r'' .account id s!"Updated account {v.record.username} with UID {v.record.uid}" := by
  have hspec := Service.run_of_triple (Service.updateAccount_spec p id req actor r) (r := r) rfl
  rw [hrun] at hspec
  obtain ⟨hv, a, ha, type, htype, hrec, hwarn, -, -, -, -, hw⟩ := hspec
  -- the registry the change left is one a session leaves, with audit appends still on
  have hr' : Reachable r' := h.of_run (m := .updateAccount p id req actor) rfl hrun
  have hon' : r'.failAudit = false := hw.2.1.trans hw.1
  obtain ⟨hlive, rfl⟩ := Tables.account?_eq_some ha
  have hb : v.record.deleted = false := by simp [hrec, (Tables.mem_liveAccounts.mp hlive).2]
  have hstored : r'.tables.account? a.id = some v.record := by
    simpa [hrec] using (hw.account?_updated hb).1
  have hty : v.record.type = type := by rw [hrec]; rfl
  have htype' : req.type.elim (some v.record.type) IdentityType.parse = some v.record.type := by
    rw [hty]
    exact Service.type_elim_again htype
  have hmerge : Service.AccountChange.merge v.record req v.record.type = v.record.draft := by
    rw [hty, hrec, Account.draft_withDraft, Service.AccountChange.merge_merged]
  obtain ⟨v', r'', hrun', hrec', hwarn', ht⟩ :=
    hr'.updateAccount_settled p actor hon' hstored hv htype' hmerge
  -- both runs judged the same user id against the same type
  have hsame : (Except.ok v'.warnings : Except RegistryError _) = .ok v.warnings := by
    rw [← hwarn', ← hwarn, hty]
  exact ⟨v', r'', hrun', hrec', Except.ok.inj hsame, ht⟩

/-- **A group change repeated at once.**  After a change of a group is accepted, the same change
is accepted again in the registry it left, returns the same group with the same warnings and
touches only the audit log; its type, if given, is the group's type by then, so the freeze on
the type does not fire. -/
theorem updateGroup_again {req : GroupChange} {v : Applied Group} {r' : Registry}
    (hrun : (Service.updateGroup p id req actor).run.run r = (.ok v, r')) :
    ∃ v' r'', (Service.updateGroup p id req actor).run.run r' = (.ok v', r'') ∧
      v'.record = v.record ∧ v'.warnings = v.warnings ∧
      r'.Touched r'' .group id s!"Updated group {v.record.groupname} with GID {v.record.gid}" := by
  have hspec := Service.run_of_triple (Service.updateGroup_spec p id req actor r) (r := r) rfl
  rw [hrun] at hspec
  obtain ⟨hv, g, hg, type, htype, hrec, hwarn, -, -, -, -, hw⟩ := hspec
  have hr' : Reachable r' := h.of_run (m := .updateGroup p id req actor) rfl hrun
  have hon' : r'.failAudit = false := hw.2.1.trans hw.1
  obtain ⟨hlive, rfl⟩ := Tables.group?_eq_some hg
  have hd : v.record.deleted = false := by simp [hrec, (Tables.mem_liveGroups.mp hlive).2]
  have hstored : r'.tables.group? g.id = some v.record := by
    simpa [hrec] using (hw.group?_updated hd).1
  have hty : v.record.type = type := by rw [hrec]; rfl
  have htype' : req.type.elim (some v.record.type) IdentityType.parse = some v.record.type := by
    rw [hty]
    exact Service.type_elim_again htype
  have hmerge : Registry.groupChange v.record req v.record.type = v.record.draft := by
    rw [hty, hrec]
    exact Registry.groupChange_merged g req type
  obtain ⟨v', r'', hrun', hrec', hwarn', ht⟩ :=
    hr'.updateGroup_settled p actor hon' hstored hv htype' hmerge
  have hsame : (Except.ok v'.warnings : Except RegistryError _) = .ok v.warnings := by
    rw [← hwarn', ← hwarn, hty]
  exact ⟨v', r'', hrun', hrec', Except.ok.inj hsame, ht⟩

end Reachable

/-! ### Idempotence -/

/-- Changes of the record with an id, under a policy and by an actor, are idempotent at a
registry: the empty change of a live account or group is accepted, returns the record as it
was and touches only the audit log, with the bare head as line; and a change accepted once is
accepted again at once, with the same record and the same warnings, touching only the audit log
with the bare head. -/
structure Registry.UpdatesIdempotent (r : Registry) (p : RangePolicy) (id : Int) (actor : Actor) :
    Prop where
  account_noop : ∀ a, r.tables.account? id = some a →
    ∃ v r', (Service.updateAccount p id {} actor).run.run r = (.ok v, r') ∧ v.record = a ∧
      r.Touched r' .account id s!"Updated account {a.username} with UID {a.uid}"
  account_again : ∀ req v r', (Service.updateAccount p id req actor).run.run r = (.ok v, r') →
    ∃ v' r'', (Service.updateAccount p id req actor).run.run r' = (.ok v', r'') ∧
      v'.record = v.record ∧ v'.warnings = v.warnings ∧
      r'.Touched r'' .account id s!"Updated account {v.record.username} with UID {v.record.uid}"
  group_noop : ∀ g, r.tables.group? id = some g →
    ∃ v r', (Service.updateGroup p id {} actor).run.run r = (.ok v, r') ∧ v.record = g ∧
      r.Touched r' .group id s!"Updated group {g.groupname} with GID {g.gid}"
  group_again : ∀ req v r', (Service.updateGroup p id req actor).run.run r = (.ok v, r') →
    ∃ v' r'', (Service.updateGroup p id req actor).run.run r' = (.ok v', r'') ∧
      v'.record = v.record ∧ v'.warnings = v.warnings ∧
      r'.Touched r'' .group id s!"Updated group {v.record.groupname} with GID {v.record.gid}"

/-- **Changes are idempotent, and the empty change is always accepted.**  In every registry a
session leaves with audit appends on, for every id, policy and actor: the empty change of a live
account or group succeeds, returns the record unchanged, leaves every table but the audit log as
it was and appends one update entry whose line has no change list; and a change that succeeds,
made again at once, succeeds with the same record and the same range warnings, and again leaves
all but the audit log and writes no change list. -/
theorem reachable_updates_idempotent {r : Registry} (h : Reachable r) (hon : r.failAudit = false)
    (p : RangePolicy) (id : Int) (actor : Actor) : r.UpdatesIdempotent p id actor where
  account_noop a ha := by
    have hv : ({} : AccountChange).violations = [] := rfl
    obtain ⟨v, r', hrun, hrec, -, ht⟩ := h.updateAccount_settled p actor hon ha hv rfl rfl
    exact ⟨v, r', hrun, hrec, ht⟩
  account_again _ _ _ hrun := h.updateAccount_again p actor hrun
  group_noop g hg := by
    have hv : ({} : GroupChange).violations = [] := rfl
    obtain ⟨v, r', hrun, hrec, -, ht⟩ := h.updateGroup_settled p actor hon hg hv rfl rfl
    exact ⟨v, r', hrun, hrec, ht⟩
  group_again _ _ _ hrun := h.updateGroup_again p actor hrun

/-- The registry after one service account is created is one a session leaves, with audit
appends on, so changes there are idempotent. -/
theorem updates_idempotent_after_one_account :
    let r := ((Mutation.createAccount .standard
      { uid := some 1000, username := "svc", type := "service" } .standard).run {}).2
    Reachable r ∧ r.failAudit = false ∧ r.UpdatesIdempotent .standard 1 .standard :=
  have h : Reachable ((Mutation.createAccount .standard
      { uid := some 1000, username := "svc", type := "service" } .standard).run {}).2 :=
    .step .empty (.mutate _ _)
  have hon : ((Mutation.createAccount .standard
      { uid := some 1000, username := "svc", type := "service" } .standard).run {}).2.failAudit =
      false := by decide +kernel
  ⟨h, hon, reachable_updates_idempotent h hon .standard 1 .standard⟩

end PosixRegistry
