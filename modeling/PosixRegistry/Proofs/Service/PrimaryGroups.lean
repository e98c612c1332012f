import PosixRegistry.Proofs.Service.Identifiers

/-!
# Services — primary groups stay valid

The account services check a primary-group rule for the account they write
(`Tables.PrimaryGroupFits`): a system account has a primary group, which is a live system group,
and any account's primary group is a live group.  In every registry a session leaves, **every
live account satisfies the rule** (`reachable_primary_groups`), although the rule can be broken
from the other side, by a group.

Each side has its own guard.  The account services check the draft they write, so an account
write keeps the rule for the account it stores and leaves every other live account and every
group as it was (`PrimaryGroupsFit.apply_of_groups_eq`).  A group write changes one group row in
place (`PrimaryGroupsFit.replaceGroup`): changing a group's type, and deleting it, are refused
while a live account has it as primary group, and otherwise the new row stands for the old one
in every lookup, ids being keys.  A new group is only appended, and lookups find the rows before
it first (`PrimaryGroupsFit.insertGroup`).
-/

namespace PosixRegistry

namespace Tables

variable {t t' : Tables}

/-- Every live account's primary group fits the account's type. -/
def PrimaryGroupsFit (t : Tables) : Prop :=
  ∀ a ∈ t.liveAccounts, t.PrimaryGroupFits a.type a.primaryGroup

/-- The rule reads only the groups. -/
theorem primaryGroupFits_congr (h : t'.groups = t.groups) :
    t'.PrimaryGroupFits = t.PrimaryGroupFits := by
  funext type g
  cases g <;> simp [PrimaryGroupFits, group?, liveGroups, h]

/-- Where group ids are keys, a lookup finds exactly the live group with the id. -/
theorem group?_eq_some_iff (hk : (t.groups.map (·.id)).Nodup) {i : Int} {g : Group} :
    t.group? i = some g ↔ g ∈ t.groups ∧ g.deleted = false ∧ g.id = i := by
  constructor
  · intro h
    obtain ⟨hm, hid⟩ := group?_eq_some h
    exact ⟨(mem_liveGroups.mp hm).1, (mem_liveGroups.mp hm).2, hid⟩
  · rintro ⟨hm, hd, rfl⟩
    cases hf : t.group? g.id with
    | none =>
      have := List.find?_eq_none.mp hf g (mem_liveGroups.mpr ⟨hm, hd⟩)
      simp at this
    | some g' =>
      obtain ⟨hm', hid'⟩ := group?_eq_some hf
      rw [List.inj_on_of_nodup_map hk (mem_liveGroups.mp hm').1 hm hid']

theorem primaryGroupFits_some_iff (hk : (t.groups.map (·.id)).Nodup) {type : IdentityType}
    {i : Int} : t.PrimaryGroupFits type (some i) ↔
      ∃ g ∈ t.groups, g.deleted = false ∧ g.id = i ∧
        (type.isSystem = true → g.isSystem = true) := by
  simp only [PrimaryGroupFits, group?_eq_some_iff hk]
  grind

/-- A write that stores no group and deletes none leaves the groups. -/
theorem apply_groups_eq {w : Write} (h : t.apply w = .ok t') (hrows : w.groupRows = [])
    (hdel : ∀ id, w ≠ .deleteGroup id) : t'.groups = t.groups := by
  have he := apply_effect h
  cases w with
  | insertGroup | updateGroup => simp [Write.groupRows] at hrows
  | deleteGroup id => exact absurd rfl (hdel id)
  | insertAccount | insertMembership | deleteMembership | audit => rw [he]
  | updateAccount | deleteAccount =>
    obtain ⟨_, _, _, -, -, -, rfl⟩ := he
    rfl

/-- A write that leaves the groups keeps the rule when the accounts it stores fit: every
other live account after it was a live account before. -/
theorem PrimaryGroupsFit.apply_of_groups_eq {w : Write} (hf : t.PrimaryGroupsFit)
    (h : t.apply w = .ok t') (hg : t'.groups = t.groups)
    (hw : ∀ a ∈ w.accountRows, t.PrimaryGroupFits a.type a.primaryGroup) :
    t'.PrimaryGroupsFit := by
  intro a ha
  obtain ⟨ha, hlive⟩ := mem_liveAccounts.mp ha
  rw [primaryGroupFits_congr hg]
  rcases mem_apply_accounts h ha with ha | ⟨b, hb, rfl | rfl⟩
  · exact hw a ha
  · exact hf _ (mem_liveAccounts.mpr ⟨hb, hlive⟩)
  · simp at hlive

/-- Appending a group keeps the rule: lookups find the groups before it first. -/
theorem PrimaryGroupsFit.insertGroup (hf : t.PrimaryGroupsFit) (g : Group) :
    ({ t with groups := t.groups ++ [g] } : Tables).PrimaryGroupsFit := by
  intro a ha
  have hfit := hf a ha
  cases hp : a.primaryGroup with
  | none => simpa [PrimaryGroupFits, hp] using hfit
  | some i =>
    rw [hp] at hfit
    obtain ⟨grp, hgrp, hsys⟩ := hfit
    refine ⟨grp, ?_, hsys⟩
    simp only [group?, liveGroups] at hgrp ⊢
    simp [List.filter_append, List.find?_append, hgrp]

/-- Replacing a group row in place keeps the rule when, as long as a live account has the
group as primary group, the new row is live and of the same type. -/
theorem PrimaryGroupsFit.replaceGroup {l₁ l₂ : List Group} {h g : Group}
    (hf : t.PrimaryGroupsFit) (hk : (t.groups.map (·.id)).Nodup) (hl : t.groups = l₁ ++ h :: l₂)
    (hid : g.id = h.id)
    (hg : (∃ a ∈ t.liveAccounts, a.primaryGroup = some h.id) → g.deleted = false ∧ g.type = h.type) :
    ({ t with groups := l₁ ++ g :: l₂ } : Tables).PrimaryGroupsFit := by
  have hk' : ((l₁ ++ g :: l₂).map (·.id)).Nodup := by
    rw [hl] at hk
    simpa [hid] using hk
  intro a ha
  have hfit := hf a ha
  cases hp : a.primaryGroup with
  | none => simpa [PrimaryGroupFits, hp] using hfit
  | some i =>
    rw [hp, primaryGroupFits_some_iff hk] at hfit
    obtain ⟨grp, hgrp, hd, rfl, hsys⟩ := hfit
    rw [primaryGroupFits_some_iff hk']
    rw [hl] at hgrp
    simp only [List.mem_append, List.mem_cons] at hgrp
    rcases hgrp with hgrp | rfl | hgrp
    · exact ⟨grp, by simp [hgrp], hd, rfl, hsys⟩
    -- the account points at the replaced row, so its replacement stands for it
    · obtain ⟨hd', htype⟩ := hg ⟨a, ha, hp⟩
      exact ⟨g, by simp, hd', hid, by simpa [Group.isSystem, htype] using hsys⟩
    · exact ⟨grp, by simp [hgrp], hd, rfl, hsys⟩

theorem primaryGroupsFit_empty : ({} : Tables).PrimaryGroupsFit :=
  fun a ha => by simp [liveAccounts] at ha

end Tables

namespace Registry

variable {r : Registry}

/-- An audited write keeps the rule when its own write does: the audit entry touches neither
accounts nor groups. -/
theorem primaryGroupsFit_of_wrote {r' : Registry} {w : Write} {n : AuditNote} (hw : r.Wrote r' w n)
    (happly : ∀ t₁, r.tables.apply w = .ok t₁ → t₁.PrimaryGroupsFit) :
    r'.tables.PrimaryGroupsFit := by
  obtain ⟨t₁, h₁, ht⟩ := hw.tables
  rw [ht]
  exact happly t₁ h₁

end Registry

/-! ### Each request keeps the rule -/

section Requests

variable {r : Registry} (hf : r.tables.PrimaryGroupsFit)
include hf

theorem Tables.PrimaryGroupsFit.createAccount (p : RangePolicy) (req : NewAccount) (actor : Actor) :
    ((Service.createAccount p req actor).outcome r).2.tables.PrimaryGroupsFit := by
  refine Service.outcome_preserves (Service.createAccount_spec p req actor r) ?_
    (fun _ h => h.1 ▸ hf)
  rintro v r' ⟨-, type, -, hrec, -, -, -, hfits, -, hw⟩
  refine Registry.primaryGroupsFit_of_wrote hw fun t₁ h₁ =>
    hf.apply_of_groups_eq h₁ (Tables.apply_groups_eq h₁ rfl (by simp)) ?_
  simpa [Write.accountRows, hrec] using hfits

theorem Tables.PrimaryGroupsFit.updateAccount (p : RangePolicy) (id : Int) (req : AccountChange)
    (actor : Actor) :
    ((Service.updateAccount p id req actor).outcome r).2.tables.PrimaryGroupsFit := by
  refine Service.outcome_preserves (Service.updateAccount_spec p id req actor r) ?_
    (fun _ h => h.1 ▸ hf)
  rintro v r' ⟨-, a, -, type, -, hrec, -, -, -, hfits, -, hw⟩
  refine Registry.primaryGroupsFit_of_wrote hw fun t₁ h₁ =>
    hf.apply_of_groups_eq h₁ (Tables.apply_groups_eq h₁ rfl (by simp)) ?_
  simpa [Write.accountRows, hrec] using hfits

theorem Tables.PrimaryGroupsFit.deleteAccount (id : Int) (actor : Actor) :
    ((Service.deleteAccount id actor).outcome r).2.tables.PrimaryGroupsFit := by
  refine Service.outcome_preserves (Service.deleteAccount_spec id actor r) ?_
    (fun _ h => h.1 ▸ hf)
  rintro - r' ⟨a, -, -, hw⟩
  exact Registry.primaryGroupsFit_of_wrote hw fun t₁ h₁ =>
    hf.apply_of_groups_eq h₁ (Tables.apply_groups_eq h₁ rfl (by simp)) (by simp [Write.accountRows])

theorem Tables.PrimaryGroupsFit.createGroup (p : RangePolicy) (req : NewGroup) (actor : Actor) :
    ((Service.createGroup p req actor).outcome r).2.tables.PrimaryGroupsFit := by
  refine Service.outcome_preserves (Service.createGroup_spec p req actor r) ?_
    (fun _ h => h.1 ▸ hf)
  rintro v r' ⟨-, -, -, -, -, -, -, -, hw⟩
  refine Registry.primaryGroupsFit_of_wrote hw fun t₁ h₁ => ?_
  rw [Tables.apply_effect h₁]
  exact hf.insertGroup v.record

section Keyed

variable (hs : r.Sound)
include hs

/-- Changing a group's type is refused while a live account has it as primary group, so the
changed row stands for the old one. -/
theorem Tables.PrimaryGroupsFit.updateGroup (p : RangePolicy) (id : Int) (req : GroupChange)
    (actor : Actor) :
    ((Service.updateGroup p id req actor).outcome r).2.tables.PrimaryGroupsFit := by
  refine Service.outcome_preserves (Service.updateGroup_spec p id req actor r) ?_
    (fun _ h => h.1 ▸ hf)
  rintro v r' ⟨-, g, hg, type, -, hrec, -, -, -, hfree, -, hw⟩
  refine Registry.primaryGroupsFit_of_wrote hw fun t₁ h₁ => ?_
  obtain ⟨l₁, h, l₂, hl, hid, hd, rfl⟩ := Tables.apply_effect h₁
  obtain ⟨hgm, hgd, rfl⟩ := (Tables.group?_eq_some_iff hs.keyed.groups).mp hg
  -- the row replaced is the group the service found, ids being keys
  have hgh : g = h := List.inj_on_of_nodup_map hs.keyed.groups hgm (by simp [hl])
    (by simp [hid, hrec])
  subst hgh
  refine hf.replaceGroup hs.keyed.groups hl hid.symm fun ⟨a, ha, hp⟩ => ⟨by simp [hrec, hgd], ?_⟩
  by_contra htype
  exact Tables.primaryCount_eq_zero.mp (hfree (by simpa [hrec] using htype)) a ha hp

/-- Deleting a group is refused while a live account has it as primary group. -/
theorem Tables.PrimaryGroupsFit.deleteGroup (id : Int) (actor : Actor) :
    ((Service.deleteGroup id actor).outcome r).2.tables.PrimaryGroupsFit := by
  refine Service.outcome_preserves (Service.deleteGroup_spec id actor r) ?_
    (fun _ h => h.1 ▸ hf)
  rintro - r' ⟨g, -, hfree, -, hw⟩
  refine Registry.primaryGroupsFit_of_wrote hw fun t₁ h₁ => ?_
  obtain ⟨l₁, h, l₂, hl, rfl, -, rfl⟩ := Tables.apply_effect h₁
  refine hf.replaceGroup hs.keyed.groups hl rfl fun ⟨a, ha, hp⟩ => ?_
  exact absurd hp (Tables.primaryCount_eq_zero.mp hfree a ha)

end Keyed

theorem Tables.PrimaryGroupsFit.assign (account group : Int) (actor : Actor) :
    ((Service.assign account group actor).outcome r).2.tables.PrimaryGroupsFit := by
  refine Service.outcome_preserves (Service.assign_spec account group actor r) ?_
    (fun _ h => h.1 ▸ hf)
  rintro - r' ⟨a, g, -, -, -, -, -, hw⟩
  exact Registry.primaryGroupsFit_of_wrote hw fun t₁ h₁ =>
    hf.apply_of_groups_eq h₁ (Tables.apply_groups_eq h₁ rfl (by simp)) (by simp [Write.accountRows])

theorem Tables.PrimaryGroupsFit.remove (account group : Int) (actor : Actor) :
    ((Service.remove account group actor).outcome r).2.tables.PrimaryGroupsFit := by
  refine Service.outcome_preserves (Service.remove_spec account group actor r) ?_
    (fun _ h => h.1 ▸ hf)
  rintro - r' ⟨a, g, -, -, -, -, hw⟩
  exact Registry.primaryGroupsFit_of_wrote hw fun t₁ h₁ =>
    hf.apply_of_groups_eq h₁ (Tables.apply_groups_eq h₁ rfl (by simp)) (by simp [Write.accountRows])

theorem Tables.PrimaryGroupsFit.mutate (hs : r.Sound) :
    ∀ m : Mutation, (m.run r).2.tables.PrimaryGroupsFit
  | .createAccount p req actor => hf.createAccount p req actor
  | .updateAccount p id req actor => hf.updateAccount p id req actor
  | .deleteAccount id actor => hf.deleteAccount id actor
  | .createGroup p req actor => hf.createGroup p req actor
  | .updateGroup p id req actor => hf.updateGroup hs p id req actor
  | .deleteGroup id actor => hf.deleteGroup hs id actor
  | .assign account group actor => hf.assign account group actor
  | .remove account group actor => hf.remove account group actor

end Requests

/-- Every registry a session leaves satisfies the primary-group rule. -/
theorem Reachable.primaryGroupsFit {r : Registry} (h : Reachable r) :
    r.tables.PrimaryGroupsFit := by
  refine (h.invariant (I := fun r => r.Sound ∧ r.tables.PrimaryGroupsFit)
    ⟨Registry.sound_empty, Tables.primaryGroupsFit_empty⟩ fun ⟨hs, hf⟩ step => ?_).2
  cases step with
  | mutate m r => exact ⟨hs.mutate m, hf.mutate hs m⟩
  | switchAudit fail r => exact ⟨hs.switchAudit fail, hf⟩
  | tick t r _ => exact ⟨hs.of_eq rfl rfl, hf⟩

/-- **Primary groups stay valid.**  In every registry a session leaves, every live system
account has a primary group that is a live system group, and every live account's primary
group, if it has one, is a live group. -/
theorem reachable_primary_groups {r : Registry} (h : Reachable r) :
    ∀ a ∈ r.tables.liveAccounts,
      (a.type = .system → ∃ g grp, a.primaryGroup = some g ∧ r.tables.group? g = some grp ∧
        grp.type = .system) ∧
      ∀ g, a.primaryGroup = some g → ∃ grp, r.tables.group? g = some grp := by
  intro a ha
  have hfit := h.primaryGroupsFit a ha
  cases hp : a.primaryGroup with
  | none =>
    rw [hp] at hfit
    refine ⟨fun hsys => ?_, by simp⟩
    simp [Tables.PrimaryGroupFits, hsys, IdentityType.isSystem] at hfit
  | some g =>
    rw [hp] at hfit
    obtain ⟨grp, hgrp, hsys⟩ := hfit
    refine ⟨fun htype => ⟨g, grp, rfl, hgrp, ?_⟩, fun g' hg' => ⟨grp, Option.some.inj hg' ▸ hgrp⟩⟩
    simpa [Group.isSystem, IdentityType.isSystem] using hsys (by simp [htype, IdentityType.isSystem])

/-- A session that creates a system group and then a system account in it leaves valid primary
groups. -/
theorem primary_groups_valid_after_system_account :
    let r := ((Mutation.createAccount .standard
      { username := "root", type := "system", primaryGroup := some 1 } .standard).run
      ((Mutation.createGroup .standard { groupname := "wheel", type := "system" }
      .standard).run {}).2).2
    Reachable r ∧ r.tables.liveAccounts.map (fun a => (a.type, a.primaryGroup)) =
      [(.system, some 1)] ∧ ∀ a ∈ r.tables.liveAccounts,
      (a.type = .system → ∃ g grp, a.primaryGroup = some g ∧ r.tables.group? g = some grp ∧
        grp.type = .system) ∧
      ∀ g, a.primaryGroup = some g → ∃ grp, r.tables.group? g = some grp :=
  have h := Reachable.step (Reachable.step .empty (.mutate _ _)) (.mutate _ _)
  ⟨h, by decide +kernel, reachable_primary_groups h⟩

end PosixRegistry
