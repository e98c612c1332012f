import PosixRegistry.Proofs.Store.Rows

/-!
# Store — the constraints of the schema

The store mirrors the constraints of the registry's schema (`Tables.Constrained`): live
accounts differ in user id and in username, live groups in group id and in name, a
membership pair is stored once and names an account row and a group row, and every account's
primary group names a group row.  Record ids are keys: no two account rows and no two group
rows share one (`Tables.Keyed`).

**Writes keep the constraints** (`Constrained.apply`).  Each write is checked before it is
made, and the check is what the constraint needs, except in one place: the uniqueness checks
compare a row only with the live rows of *other* ids.  That is sound for an update, which
replaces the one row of its id, and for an insert only when the new row's id is fresh
(`Write.FreshIn`).  Rows keep their ids and are never removed, so the ids of a table only grow
by the rows inserted (`apply_accountIds`), and a **replay** of writes whose inserted ids are
fresh and distinct keeps the constraints throughout (`Constrained.replay`).
-/

namespace PosixRegistry

namespace Write

/-- The id of the account a write inserts, if it inserts one. -/
def newAccountIds : Write → List Int
  | .insertAccount a => [a.id]
  | _ => []

/-- The id of the group a write inserts, if it inserts one. -/
def newGroupIds : Write → List Int
  | .insertGroup g => [g.id]
  | _ => []

/-- The row a write inserts takes an id that no row of its table has. -/
def FreshIn (w : Write) (t : Tables) : Prop :=
  (∀ i ∈ w.newAccountIds, i ∉ t.accounts.map (·.id)) ∧
    ∀ i ∈ w.newGroupIds, i ∉ t.groups.map (·.id)

end Write

/-! ### A relation between the live rows of a list -/

section LiveRows

variable {α : Type} {R : α → α → Prop} {live : α → Bool}

theorem pairwise_filter_append_single {l : List α} {y : α} (h : (l.filter live).Pairwise R)
    (hy : live y = true → ∀ z ∈ l, live z = true → R z y) :
    ((l ++ [y]).filter live).Pairwise R := by
  rw [List.filter_append, List.pairwise_append]
  refine ⟨h, by simp [List.filter_cons]; split <;> simp, fun a ha b hb => ?_⟩
  simp only [List.filter_cons, List.filter_nil] at hb
  split at hb
  · next hly =>
    obtain rfl := List.mem_singleton.mp hb
    exact hy hly a (List.mem_filter.mp ha).1 (List.mem_filter.mp ha).2
  · cases hb

theorem pairwise_filter_replace {l₁ l₂ : List α} {x y : α}
    (h : ((l₁ ++ x :: l₂).filter live).Pairwise R)
    (hy : live y = true → ∀ z ∈ l₁ ++ l₂, live z = true → R z y ∧ R y z) :
    ((l₁ ++ y :: l₂).filter live).Pairwise R := by
  rw [List.filter_append] at h ⊢
  obtain ⟨h₁, hx₂, hcross⟩ := List.pairwise_append.mp h
  have hsub : (l₂.filter live).Sublist ((x :: l₂).filter live) := by
    rw [List.filter_cons]
    split
    · exact List.sublist_cons_self _ _
    · exact List.Sublist.refl _
  have h₂ : (l₂.filter live).Pairwise R := hx₂.sublist hsub
  refine List.pairwise_append.mpr ⟨h₁, ?_, fun a ha b hb => ?_⟩
  · rw [List.filter_cons]
    split
    · next hly =>
      refine List.pairwise_cons.mpr ⟨fun z hz => ?_, h₂⟩
      have hz' := List.mem_filter.mp hz
      exact (hy hly z (List.mem_append_right _ hz'.1) hz'.2).2
    · exact h₂
  · rw [List.filter_cons] at hb
    split at hb
    · next hly =>
      rcases List.mem_cons.mp hb with rfl | hb
      · have ha' := List.mem_filter.mp ha
        exact (hy hly a (List.mem_append_left _ ha'.1) ha'.2).1
      · exact hcross a ha b (hsub.subset hb)
    · exact hcross a ha b (hsub.subset hb)

end LiveRows

namespace Tables

variable {t t' : Tables}

/-! ### The constraints -/

/-- The constraints the store mirrors from the schema. -/
structure Constrained (t : Tables) : Prop where
  uids : (t.liveAccounts.map (·.uid)).Nodup
  usernames : (t.liveAccounts.map (·.username)).Nodup
  gids : (t.liveGroups.map (·.gid)).Nodup
  groupnames : (t.liveGroups.map (·.groupname)).Nodup
  memberships : t.memberships.Nodup
  member_accounts : ∀ m ∈ t.memberships, m.account ∈ t.accounts.map (·.id)
  member_groups : ∀ m ∈ t.memberships, m.group ∈ t.groups.map (·.id)
  primary_groups : ∀ a ∈ t.accounts, ∀ g, a.primaryGroup = some g → g ∈ t.groups.map (·.id)

/-- Record ids are keys of their tables. -/
structure Keyed (t : Tables) : Prop where
  accounts : (t.accounts.map (·.id)).Nodup
  groups : (t.groups.map (·.id)).Nodup

/-- Two rows of a keyed list, one on each side of a third, have ids other than the third's. -/
theorem ne_id_of_nodup {α : Type} {id : α → Int} {l₁ l₂ : List α} {x z : α}
    (hk : ((l₁ ++ x :: l₂).map id).Nodup) (hz : z ∈ l₁ ++ l₂) : id z ≠ id x := by
  rw [List.map_append, List.map_cons, List.nodup_append] at hk
  obtain ⟨-, hx₂, hdisj⟩ := hk
  rcases List.mem_append.mp hz with hz | hz
  · exact hdisj _ (List.mem_map_of_mem hz) _ List.mem_cons_self
  · exact fun he => (List.nodup_cons.mp hx₂).1 (he ▸ List.mem_map_of_mem hz)

/-! ### Account writes -/

theorem Constrained.insertAccount {a : Account} (hc : t.Constrained)
    (hchk : t.checkAccount a = .ok ()) (hfresh : a.id ∉ t.accounts.map (·.id)) :
    ({ t with accounts := t.accounts ++ [a] } : Tables).Constrained := by
  obtain ⟨hothers, hpg⟩ := checkAccount_eq_ok.mp hchk
  have hclash : ∀ z ∈ t.accounts, z.deleted = false → z.uid ≠ a.uid ∧ z.username ≠ a.username :=
    fun z hz hl => hothers z (mem_liveAccounts.mpr ⟨hz, hl⟩)
      (fun he => hfresh (he ▸ List.mem_map_of_mem hz))
  refine ⟨?_, ?_, hc.gids, hc.groupnames, hc.memberships, ?_, hc.member_groups, ?_⟩
  · refine List.pairwise_map.mpr (pairwise_filter_append_single
      (List.pairwise_map.mp hc.uids) fun _ z hz hl => (hclash z hz (by simpa using hl)).1)
  · refine List.pairwise_map.mpr (pairwise_filter_append_single
      (List.pairwise_map.mp hc.usernames) fun _ z hz hl => (hclash z hz (by simpa using hl)).2)
  · intro m hm
    simpa using Or.inl (List.mem_map.mp (hc.member_accounts m hm))
  · intro b hb g hg
    rcases List.mem_append.mp hb with hb | hb
    · exact hc.primary_groups b hb g hg
    · obtain rfl := List.mem_singleton.mp hb
      obtain ⟨h, hh, rfl⟩ := hpg g hg
      exact List.mem_map_of_mem hh

/-- Replacing the account row `x` by a row `y` of the same id keeps the constraints when `y`,
if live, clashes with no other live account and its primary group names a group row. -/
theorem Constrained.replaceAccount {l₁ l₂ : List Account} {x y : Account} (hc : t.Constrained)
    (hk : t.Keyed) (hsplit : t.accounts = l₁ ++ x :: l₂) (hid : y.id = x.id)
    (hclash : y.deleted = false →
      ∀ b ∈ t.liveAccounts, b.id ≠ y.id → b.uid ≠ y.uid ∧ b.username ≠ y.username)
    (hpg : ∀ g, y.primaryGroup = some g → g ∈ t.groups.map (·.id)) :
    ({ t with accounts := l₁ ++ y :: l₂ } : Tables).Constrained := by
  have hkx := hk.accounts
  rw [hsplit] at hkx
  have hmem : ∀ z ∈ l₁ ++ l₂, z ∈ t.accounts := fun z hz => by
    rw [hsplit]
    rcases List.mem_append.mp hz with h | h <;> simp [h]
  have hother : y.deleted = false → ∀ z ∈ l₁ ++ l₂, z.deleted = false →
      z.uid ≠ y.uid ∧ z.username ≠ y.username := fun hy z hz hl =>
    hclash hy z (mem_liveAccounts.mpr ⟨hmem z hz, hl⟩) (hid ▸ ne_id_of_nodup hkx hz)
  have hids : (l₁ ++ y :: l₂).map (·.id) = t.accounts.map (·.id) := by simp [hsplit, hid]
  have huids := List.pairwise_map.mp hc.uids
  have hnames := List.pairwise_map.mp hc.usernames
  simp only [liveAccounts, hsplit] at huids hnames
  refine ⟨?_, ?_, hc.gids, hc.groupnames, hc.memberships, ?_, hc.member_groups, ?_⟩
  · refine List.pairwise_map.mpr (pairwise_filter_replace huids fun hy z hz hl => ?_)
    have := (hother (by simpa using hy) z hz (by simpa using hl)).1
    exact ⟨this, Ne.symm this⟩
  · refine List.pairwise_map.mpr (pairwise_filter_replace hnames fun hy z hz hl => ?_)
    have := (hother (by simpa using hy) z hz (by simpa using hl)).2
    exact ⟨this, Ne.symm this⟩
  · intro m hm
    exact hids ▸ hc.member_accounts m hm
  · intro b hb g hg
    rcases List.mem_append.mp hb with hb | hb
    · exact hc.primary_groups b (by rw [hsplit]; exact List.mem_append_left _ hb) g hg
    rcases List.mem_cons.mp hb with rfl | hb
    · exact hpg g hg
    · exact hc.primary_groups b (by rw [hsplit]; simp [hb]) g hg

/-! ### Group writes -/

theorem Constrained.insertGroup {g : Group} (hc : t.Constrained) (hchk : t.checkGroup g = .ok ())
    (hfresh : g.id ∉ t.groups.map (·.id)) :
    ({ t with groups := t.groups ++ [g] } : Tables).Constrained := by
  have hclash : ∀ z ∈ t.groups, z.deleted = false → z.gid ≠ g.gid ∧ z.groupname ≠ g.groupname :=
    fun z hz hl => checkGroup_eq_ok.mp hchk z (mem_liveGroups.mpr ⟨hz, hl⟩)
      (fun he => hfresh (he ▸ List.mem_map_of_mem hz))
  have hsub : ∀ i ∈ t.groups.map (·.id), i ∈ (t.groups ++ [g]).map (·.id) := fun i hi => by
    rw [List.map_append]
    exact List.mem_append_left _ hi
  refine ⟨hc.uids, hc.usernames, ?_, ?_, hc.memberships, hc.member_accounts,
    fun m hm => hsub _ (hc.member_groups m hm), fun a ha h hh => hsub _ (hc.primary_groups a ha h hh)⟩
  · refine List.pairwise_map.mpr (pairwise_filter_append_single
      (List.pairwise_map.mp hc.gids) fun _ z hz hl => (hclash z hz (by simpa using hl)).1)
  · refine List.pairwise_map.mpr (pairwise_filter_append_single
      (List.pairwise_map.mp hc.groupnames) fun _ z hz hl => (hclash z hz (by simpa using hl)).2)

/-- Replacing the group row `x` by a row `y` of the same id keeps the constraints when `y`, if
live, clashes with no other live group. -/
theorem Constrained.replaceGroup {l₁ l₂ : List Group} {x y : Group} (hc : t.Constrained)
    (hk : t.Keyed) (hsplit : t.groups = l₁ ++ x :: l₂) (hid : y.id = x.id)
    (hclash : y.deleted = false →
      ∀ h ∈ t.liveGroups, h.id ≠ y.id → h.gid ≠ y.gid ∧ h.groupname ≠ y.groupname) :
    ({ t with groups := l₁ ++ y :: l₂ } : Tables).Constrained := by
  have hkx := hk.groups
  rw [hsplit] at hkx
  have hmem : ∀ z ∈ l₁ ++ l₂, z ∈ t.groups := fun z hz => by
    rw [hsplit]
    rcases List.mem_append.mp hz with h | h <;> simp [h]
  have hother : y.deleted = false → ∀ z ∈ l₁ ++ l₂, z.deleted = false →
      z.gid ≠ y.gid ∧ z.groupname ≠ y.groupname := fun hy z hz hl =>
    hclash hy z (mem_liveGroups.mpr ⟨hmem z hz, hl⟩) (hid ▸ ne_id_of_nodup hkx hz)
  have hids : (l₁ ++ y :: l₂).map (·.id) = t.groups.map (·.id) := by simp [hsplit, hid]
  have hgids := List.pairwise_map.mp hc.gids
  have hnames := List.pairwise_map.mp hc.groupnames
  simp only [liveGroups, hsplit] at hgids hnames
  refine ⟨hc.uids, hc.usernames, ?_, ?_, hc.memberships, hc.member_accounts,
    fun m hm => hids ▸ hc.member_groups m hm, fun a ha g hg => hids ▸ hc.primary_groups a ha g hg⟩
  · refine List.pairwise_map.mpr (pairwise_filter_replace hgids fun hy z hz hl => ?_)
    have := (hother (by simpa using hy) z hz (by simpa using hl)).1
    exact ⟨this, Ne.symm this⟩
  · refine List.pairwise_map.mpr (pairwise_filter_replace hnames fun hy z hz hl => ?_)
    have := (hother (by simpa using hy) z hz (by simpa using hl)).2
    exact ⟨this, Ne.symm this⟩

/-! ### Membership and audit writes -/

theorem Constrained.insertMembership {m : Membership} (hc : t.Constrained)
    (hchk : t.checkMembership m = .ok ()) :
    ({ t with memberships := t.memberships ++ [m] } : Tables).Constrained := by
  obtain ⟨⟨a, ha, hai⟩, ⟨g, hg, hgi⟩, hnew⟩ := checkMembership_eq_ok.mp hchk
  refine ⟨hc.uids, hc.usernames, hc.gids, hc.groupnames, ?_, ?_, ?_, hc.primary_groups⟩
  · exact List.nodup_append.mpr ⟨hc.memberships, by simp,
      fun x hx y hy he => hnew (List.mem_singleton.mp hy ▸ he ▸ hx)⟩
  · intro n hn
    rcases List.mem_append.mp hn with hn | hn
    · exact hc.member_accounts n hn
    · obtain rfl := List.mem_singleton.mp hn
      exact List.mem_map.mpr ⟨a, ha, hai⟩
  · intro n hn
    rcases List.mem_append.mp hn with hn | hn
    · exact hc.member_groups n hn
    · obtain rfl := List.mem_singleton.mp hn
      exact List.mem_map.mpr ⟨g, hg, hgi⟩

theorem Constrained.filterMemberships (hc : t.Constrained) (p : Membership → Bool) :
    ({ t with memberships := t.memberships.filter p } : Tables).Constrained :=
  ⟨hc.uids, hc.usernames, hc.gids, hc.groupnames, hc.memberships.filter p,
    fun m hm => hc.member_accounts m (List.mem_filter.mp hm).1,
    fun m hm => hc.member_groups m (List.mem_filter.mp hm).1, hc.primary_groups⟩

theorem Constrained.appendAudit (hc : t.Constrained) (e : AuditEntry) :
    ({ t with audit := t.audit ++ [e] } : Tables).Constrained :=
  ⟨hc.uids, hc.usernames, hc.gids, hc.groupnames, hc.memberships, hc.member_accounts,
    hc.member_groups, hc.primary_groups⟩

/-! ### Every write -/

/-- A write adds to the ids of the account table just the id of the account it inserts. -/
theorem apply_accountIds {w : Write} (h : t.apply w = .ok t') :
    t'.accounts.map (·.id) = t.accounts.map (·.id) ++ w.newAccountIds := by
  cases w with
  | insertAccount a =>
    obtain ⟨-, rfl⟩ := apply_insertAccount_eq_ok.mp h
    simp [Write.newAccountIds]
  | updateAccount a =>
    obtain ⟨-, l, hr, rfl⟩ := apply_updateAccount_eq_ok.mp h
    simpa [Write.newAccountIds] using
      map_replaceFirst (fun x hx => by simp at hx; exact hx.1.symm) hr
  | deleteAccount id =>
    obtain ⟨l, hr, rfl⟩ := apply_deleteAccount_eq_ok.mp h
    simpa [Write.newAccountIds] using map_replaceFirst (by intros; rfl) hr
  | insertGroup g =>
    obtain ⟨-, rfl⟩ := apply_insertGroup_eq_ok.mp h
    simp [Write.newAccountIds]
  | updateGroup g =>
    obtain ⟨-, l, -, rfl⟩ := apply_updateGroup_eq_ok.mp h
    simp [Write.newAccountIds]
  | deleteGroup id =>
    obtain ⟨l, -, rfl⟩ := apply_deleteGroup_eq_ok.mp h
    simp [Write.newAccountIds]
  | insertMembership m =>
    obtain ⟨-, rfl⟩ := apply_insertMembership_eq_ok.mp h
    simp [Write.newAccountIds]
  | deleteMembership a g =>
    cases apply_deleteMembership.symm.trans h
    simp [Write.newAccountIds]
  | audit e =>
    cases apply_audit.symm.trans h
    simp [Write.newAccountIds]

/-- A write adds to the ids of the group table just the id of the group it inserts. -/
theorem apply_groupIds {w : Write} (h : t.apply w = .ok t') :
    t'.groups.map (·.id) = t.groups.map (·.id) ++ w.newGroupIds := by
  cases w with
  | insertAccount a =>
    obtain ⟨-, rfl⟩ := apply_insertAccount_eq_ok.mp h
    simp [Write.newGroupIds]
  | updateAccount a =>
    obtain ⟨-, l, -, rfl⟩ := apply_updateAccount_eq_ok.mp h
    simp [Write.newGroupIds]
  | deleteAccount id =>
    obtain ⟨l, -, rfl⟩ := apply_deleteAccount_eq_ok.mp h
    simp [Write.newGroupIds]
  | insertGroup g =>
    obtain ⟨-, rfl⟩ := apply_insertGroup_eq_ok.mp h
    simp [Write.newGroupIds]
  | updateGroup g =>
    obtain ⟨-, l, hr, rfl⟩ := apply_updateGroup_eq_ok.mp h
    simpa [Write.newGroupIds] using
      map_replaceFirst (fun x hx => by simp at hx; exact hx.1.symm) hr
  | deleteGroup id =>
    obtain ⟨l, hr, rfl⟩ := apply_deleteGroup_eq_ok.mp h
    simpa [Write.newGroupIds] using map_replaceFirst (by intros; rfl) hr
  | insertMembership m =>
    obtain ⟨-, rfl⟩ := apply_insertMembership_eq_ok.mp h
    simp [Write.newGroupIds]
  | deleteMembership a g =>
    cases apply_deleteMembership.symm.trans h
    simp [Write.newGroupIds]
  | audit e =>
    cases apply_audit.symm.trans h
    simp [Write.newGroupIds]

/-- **Every checked write keeps the constraints**, when the row it inserts takes a fresh id.
The case split is the nine kinds of write; each case is one of the lemmas above. -/
theorem Constrained.apply {w : Write} (hc : t.Constrained) (hk : t.Keyed) (hw : w.FreshIn t)
    (h : t.apply w = .ok t') : t'.Constrained := by
  cases w with
  | insertAccount a =>
    obtain ⟨hchk, rfl⟩ := apply_insertAccount_eq_ok.mp h
    exact hc.insertAccount hchk (hw.1 a.id (by simp [Write.newAccountIds]))
  | updateAccount a =>
    obtain ⟨hchk, l, hr, rfl⟩ := apply_updateAccount_eq_ok.mp h
    obtain ⟨l₁, x, l₂, hsplit, -, hx, rfl⟩ := replaceFirst_eq_some_iff.mp hr
    obtain ⟨hothers, hpg⟩ := checkAccount_eq_ok.mp hchk
    simp only [Bool.and_eq_true, beq_iff_eq] at hx
    exact hc.replaceAccount hk hsplit hx.1.symm (fun _ => hothers)
      fun g hg => List.mem_map.mpr (hpg g hg)
  | deleteAccount id =>
    obtain ⟨l, hr, rfl⟩ := apply_deleteAccount_eq_ok.mp h
    obtain ⟨l₁, x, l₂, hsplit, -, -, rfl⟩ := replaceFirst_eq_some_iff.mp hr
    exact hc.replaceAccount hk hsplit rfl (by simp) fun g hg =>
      hc.primary_groups x (by simp [hsplit]) g hg
  | insertGroup g =>
    obtain ⟨hchk, rfl⟩ := apply_insertGroup_eq_ok.mp h
    exact hc.insertGroup hchk (hw.2 g.id (by simp [Write.newGroupIds]))
  | updateGroup g =>
    obtain ⟨hchk, l, hr, rfl⟩ := apply_updateGroup_eq_ok.mp h
    obtain ⟨l₁, x, l₂, hsplit, -, hx, rfl⟩ := replaceFirst_eq_some_iff.mp hr
    simp only [Bool.and_eq_true, beq_iff_eq] at hx
    exact hc.replaceGroup hk hsplit hx.1.symm fun _ => checkGroup_eq_ok.mp hchk
  | deleteGroup id =>
    obtain ⟨l, hr, rfl⟩ := apply_deleteGroup_eq_ok.mp h
    obtain ⟨l₁, x, l₂, hsplit, -, -, rfl⟩ := replaceFirst_eq_some_iff.mp hr
    exact hc.replaceGroup hk hsplit rfl (by simp)
  | insertMembership m =>
    obtain ⟨hchk, rfl⟩ := apply_insertMembership_eq_ok.mp h
    exact hc.insertMembership hchk
  | deleteMembership a g =>
    cases apply_deleteMembership.symm.trans h
    exact hc.filterMemberships _
  | audit e =>
    cases apply_audit.symm.trans h
    exact hc.appendAudit e

/-! ### Replays -/

/-- The ids the writes insert are distinct and fresh for the tables. -/
def FreshLog (t : Tables) (ws : List Write) : Prop :=
  (t.accounts.map (·.id) ++ ws.flatMap Write.newAccountIds).Nodup ∧
    (t.groups.map (·.id) ++ ws.flatMap Write.newGroupIds).Nodup

theorem FreshLog.keyed {ws : List Write} (hf : t.FreshLog ws) : t.Keyed :=
  ⟨(List.nodup_append.mp hf.1).1, (List.nodup_append.mp hf.2).1⟩

theorem FreshLog.head {w : Write} {ws : List Write} (hf : t.FreshLog (w :: ws)) : w.FreshIn t := by
  have ha := List.nodup_append.mp hf.1
  have hg := List.nodup_append.mp hf.2
  refine ⟨fun i hi hi' => ha.2.2 i hi' i (by simp [hi]) rfl,
    fun i hi hi' => hg.2.2 i hi' i (by simp [hi]) rfl⟩

theorem FreshLog.tail {w : Write} {ws : List Write} (hf : t.FreshLog (w :: ws))
    (h : t.apply w = .ok t') : t'.FreshLog ws := by
  simpa [FreshLog, apply_accountIds h, apply_groupIds h] using hf

theorem replay_accountIds {ws : List Write} (h : t.replay ws = .ok t') :
    t'.accounts.map (·.id) = t.accounts.map (·.id) ++ ws.flatMap Write.newAccountIds := by
  induction ws generalizing t with
  | nil => cases h; simp
  | cons w ws ih =>
    obtain ⟨t₁, h₁, h₂⟩ := replay_cons_eq_ok.mp h
    rw [ih h₂, apply_accountIds h₁]
    simp

theorem replay_groupIds {ws : List Write} (h : t.replay ws = .ok t') :
    t'.groups.map (·.id) = t.groups.map (·.id) ++ ws.flatMap Write.newGroupIds := by
  induction ws generalizing t with
  | nil => cases h; simp
  | cons w ws ih =>
    obtain ⟨t₁, h₁, h₂⟩ := replay_cons_eq_ok.mp h
    rw [ih h₂, apply_groupIds h₁]
    simp

/-- **A replay keeps the constraints**: applied in order to constrained tables, writes whose
inserted ids are distinct and fresh leave constrained, keyed tables.  The induction is on the
log; the invariant carried is the constraints with the freshness of the rest of the log. -/
theorem Constrained.replay {ws : List Write} (hc : t.Constrained) (hf : t.FreshLog ws)
    (h : t.replay ws = .ok t') : t'.Constrained ∧ t'.Keyed := by
  induction ws generalizing t with
  | nil =>
    cases h
    exact ⟨hc, hf.keyed⟩
  | cons w ws ih =>
    obtain ⟨t₁, h₁, h₂⟩ := replay_cons_eq_ok.mp h
    exact ih (hc.apply hf.keyed hf.head h₁) (hf.tail h₁) h₂

theorem constrained_empty : ({} : Tables).Constrained :=
  ⟨by simp [liveAccounts], by simp [liveAccounts], by simp [liveGroups], by simp [liveGroups],
    List.nodup_nil, by simp, by simp, by simp⟩

end Tables

end PosixRegistry
