import PosixRegistry.Proofs.Service.Identifiers

/-!
# Services — the membership table follows the history

A session is played here as a list of actions, write requests and switches of the audit fault,
and recorded action by action with the registry each was taken on and its outcome
(`Session.trace`).  The membership table of every registry a session leaves is its history of
assignments and removals read pair by pair (`memberships_follow_history`):

* a pair is in the table exactly when the last assignment or removal of the pair that went
  through was an assignment;
* no pair is stored twice;
* every stored pair was assigned, with success, on a registry where its account and its group
  were live and of compatible types;
* a removal that goes through deletes exactly one row, the pair's;
* deleting an account or a group keeps the membership table, and once it went through the pairs
  of the deleted record are out of reach: through every continuation of the session their rows
  stay as they are, and every assignment or removal of them is refused.

All but the last point rest on one fact about a single step on any registry
(`Session.Action.memberships_run`): a request that goes through changes the memberships by its
one write, a refused one keeps the tables.  The last point needs ids never to be reused
(`Registry.Sound`): a row marked deleted stays, and it is the only row with its id, so the
record is never live again.
-/

namespace PosixRegistry

/-! ### What a write does to memberships and to marked rows -/

namespace Write

/-- What a write does to the membership table: an insertion appends its pair, a deletion drops
it, every other write keeps the table. -/
def onMemberships : Write → List Membership → List Membership
  | .insertMembership m, ms => ms ++ [m]
  | .deleteMembership account group, ms =>
    ms.filter fun m => !(m.account == account && m.group == group)
  | _, ms => ms

variable {w : Write} {t t' : Tables}

theorem Effect.memberships (h : w.Effect t t') : t'.memberships = w.onMemberships t.memberships := by
  cases w with
  | insertAccount | insertGroup | insertMembership | deleteMembership | audit =>
    subst h
    rfl
  | updateAccount | deleteAccount | updateGroup | deleteGroup =>
    obtain ⟨_, _, _, -, -, -, rfl⟩ := h
    rfl

/-- Changing one row of a list in place keeps every other row. -/
theorem mem_of_mem_replaced {α : Type} {l₁ l₂ : List α} {b c x : α} (hx : x ∈ l₁ ++ b :: l₂)
    (hne : x ≠ b) : x ∈ l₁ ++ c :: l₂ := by
  simp only [List.mem_append, List.mem_cons] at hx ⊢
  rcases hx with hx | rfl | hx
  · exact .inl hx
  · exact absurd rfl hne
  · exact .inr (.inr hx)

/-- A write keeps every account row marked deleted: it changes a live row only, in place. -/
theorem Effect.keeps_marked_account (h : w.Effect t t') {x : Account} (hx : x ∈ t.accounts)
    (hdel : x.deleted = true) : x ∈ t'.accounts := by
  cases w with
  | insertAccount =>
    subst h
    exact List.mem_append_left _ hx
  | updateAccount | deleteAccount =>
    obtain ⟨l₁, b, l₂, hl, -, hb, rfl⟩ := h
    exact mem_of_mem_replaced (hl ▸ hx) fun he => by simp [he, hb] at hdel
  | insertGroup | insertMembership | deleteMembership | audit =>
    subst h
    exact hx
  | updateGroup | deleteGroup =>
    obtain ⟨_, _, _, -, -, -, rfl⟩ := h
    exact hx

/-- A write keeps every group row marked deleted. -/
theorem Effect.keeps_marked_group (h : w.Effect t t') {y : Group} (hy : y ∈ t.groups)
    (hdel : y.deleted = true) : y ∈ t'.groups := by
  cases w with
  | insertGroup =>
    subst h
    exact List.mem_append_left _ hy
  | updateGroup | deleteGroup =>
    obtain ⟨l₁, b, l₂, hl, -, hb, rfl⟩ := h
    exact mem_of_mem_replaced (hl ▸ hy) fun he => by simp [he, hb] at hdel
  | insertAccount | insertMembership | deleteMembership | audit =>
    subst h
    exact hy
  | updateAccount | deleteAccount =>
    obtain ⟨_, _, _, -, -, -, rfl⟩ := h
    exact hy

end Write

namespace Tables

/-- A pair is retired in the tables when a row of its account or a row of its group is marked
deleted. -/
def Retired (t : Tables) (account group : Int) : Prop :=
  (∃ x ∈ t.accounts, x.id = account ∧ x.deleted = true) ∨
    ∃ y ∈ t.groups, y.id = group ∧ y.deleted = true

variable {t : Tables}

/-- In keyed tables, an account with a row marked deleted has no live row. -/
theorem account?_eq_none_of_marked (hk : t.Keyed) {x : Account} (hx : x ∈ t.accounts)
    (hdel : x.deleted = true) : t.account? x.id = none := by
  cases h : t.account? x.id with
  | none => rfl
  | some a =>
    obtain ⟨ha, hid⟩ := account?_eq_some h
    have hax : a = x := List.inj_on_of_nodup_map hk.accounts (mem_liveAccounts.mp ha).1 hx hid
    simp [hax, hdel] at ha

/-- In keyed tables, a group with a row marked deleted has no live row. -/
theorem group?_eq_none_of_marked (hk : t.Keyed) {y : Group} (hy : y ∈ t.groups)
    (hdel : y.deleted = true) : t.group? y.id = none := by
  cases h : t.group? y.id with
  | none => rfl
  | some g =>
    obtain ⟨hg, hid⟩ := group?_eq_some h
    have hgy : g = y := List.inj_on_of_nodup_map hk.groups (mem_liveGroups.mp hg).1 hy hid
    simp [hgy, hdel] at hg

/-- A retired pair of keyed tables lacks its live account or its live group. -/
theorem Retired.not_live {account group : Int} (hk : t.Keyed) (h : t.Retired account group) :
    t.account? account = none ∨ t.group? group = none := by
  rcases h with ⟨x, hx, rfl, hdel⟩ | ⟨y, hy, rfl, hdel⟩
  · exact .inl (account?_eq_none_of_marked hk hx hdel)
  · exact .inr (group?_eq_none_of_marked hk hy hdel)

theorem Retired.effect {w : Write} {t' : Tables} {account group : Int} (h : t.Retired account group)
    (he : w.Effect t t') : t'.Retired account group := by
  rcases h with ⟨x, hx, hid, hdel⟩ | ⟨y, hy, hid, hdel⟩
  · exact .inl ⟨x, he.keeps_marked_account hx hdel, hid, hdel⟩
  · exact .inr ⟨y, he.keeps_marked_group hy hdel, hid, hdel⟩

end Tables

/-! ### Sessions as lists of actions -/

/-- A request is refused on a registry: it fails, and the tables stay as they were. -/
def Mutation.Refused (m : Mutation) (r : Registry) : Prop :=
  ∃ e, (m.run r).1 = .error e ∧ (m.run r).2.tables = r.tables

namespace Session

/-- An action of a session: a write request, or switching the audit fault on or off. -/
inductive Action where
  | mutate (m : Mutation)
  | switchAudit (fail : Bool)

namespace Action

/-- Takes an action on a registry: its outcome and the registry it leaves. -/
def run : Action → Registry → Except ServiceError Unit × Registry
  | mutate m, r => m.run r
  | switchAudit fail, r => (.ok (), { r with failAudit := fail })

/-- What an action that goes through does to the membership table: an assignment appends its
pair, a removal drops it, every other action keeps the table. -/
def onMemberships : Action → List Membership → List Membership
  | mutate (.assign account group _), ms => ms ++ [⟨account, group⟩]
  | mutate (.remove account group _), ms =>
    ms.filter fun m => !(m.account == account && m.group == group)
  | _, ms => ms

/-- What an action that goes through says of a pair: `some true` if it assigns the account to the
group, `some false` if it removes it, `none` if it is about something else. -/
def pairWord (account group : Int) : Action → Option Bool
  | mutate (.assign a g _) => if a = account ∧ g = group then some true else none
  | mutate (.remove a g _) => if a = account ∧ g = group then some false else none
  | _ => none

end Action

/-- One action of a session as recorded: the registry it was taken on, the action, and its
outcome. -/
structure Entry where
  before : Registry
  action : Action
  outcome : Except ServiceError Unit

/-- The registry a session leaves, played from a registry. -/
def play (r : Registry) : List Action → Registry
  | [] => r
  | act :: acts => play (act.run r).2 acts

/-- The record of a session played from a registry, action by action. -/
def trace (r : Registry) : List Action → List Entry
  | [] => []
  | act :: acts => ⟨r, act, (act.run r).1⟩ :: trace (act.run r).2 acts

/-- What a record says of a pair, in order: one word for each assignment or removal of the pair
that went through. -/
def pairWords (account group : Int) (tr : List Entry) : List Bool :=
  tr.filterMap fun e => if e.outcome.isOk then e.action.pairWord account group else none

/-- A pair is out of reach from a registry on when, through every continuation of the session,
its row stays as it is, there if it was and absent if it was not, and every assignment and every
removal of the pair is refused. -/
def OutOfReach (r : Registry) (account group : Int) : Prop :=
  ∀ acts, (⟨account, group⟩ ∈ (play r acts).tables.memberships ↔
      ⟨account, group⟩ ∈ r.tables.memberships) ∧
    ∀ actor, (Mutation.assign account group actor).Refused (play r acts) ∧
      (Mutation.remove account group actor).Refused (play r acts)

end Session

/-! ### One step -/

namespace Registry

variable {r r' : Registry} {w : Write} {n : AuditNote}

theorem Wrote.memberships (hw : r.Wrote r' w n) :
    r'.tables.memberships = w.onMemberships r.tables.memberships := by
  obtain ⟨t₁, h₁, ht⟩ := hw.tables
  rw [ht]
  exact (Tables.apply_effect h₁).memberships

theorem Wrote.retired {account group : Int} (hw : r.Wrote r' w n)
    (h : r.tables.Retired account group) : r'.tables.Retired account group := by
  obtain ⟨t₁, h₁, ht⟩ := hw.tables
  have h₁' := h.effect (Tables.apply_effect h₁)
  rw [ht]
  exact h₁'

end Registry

namespace Service

open Std.Do

variable {α : Type} {s : Service α} {r0 : Registry} {Q : α → Registry → Prop}

/-- A run whose specification rolls a refusal back either went through, leaving a registry with
a property every success the specification allows has, or failed and rolled back. -/
theorem outcome_cases {P : Registry → Prop}
    (h : ⦃fun r => ⌜r = r0⌝⦄ s ⦃post⟨fun a r => ⌜Q a r⌝, fun _ r => ⌜r0.RolledBack r⌝⟩⦄)
    (hQ : ∀ a r, Q a r → P r) :
    match s.outcome r0 with
    | (.ok _, r) => P r
    | (.error _, r) => r0.RolledBack r := by
  have ho := outcome_of_triple h
  generalize s.outcome r0 = o at ho ⊢
  rcases o with ⟨_ | _, r⟩
  · exact ho
  · obtain ⟨a, ha⟩ := ho
    exact hQ a r ha

/-- A run that went through leaves a registry some success of the specification allows. -/
theorem ok_post
    (h : ⦃fun r => ⌜r = r0⌝⦄ s ⦃post⟨fun a r => ⌜Q a r⌝, fun _ r => ⌜r0.RolledBack r⌝⟩⦄)
    (hok : (s.outcome r0).1 = .ok ()) : ∃ a, Q a (s.outcome r0).2 := by
  have ho := outcome_of_triple h
  generalize s.outcome r0 = o at ho hok ⊢
  rcases o with ⟨_ | _, r⟩
  · cases hok
  · exact ho

/-- A run whose specification allows no success fails and keeps the tables. -/
theorem refused_of_triple
    (h : ⦃fun r => ⌜r = r0⌝⦄ s ⦃post⟨fun a r => ⌜Q a r⌝, fun _ r => ⌜r0.RolledBack r⌝⟩⦄)
    (hQ : ∀ a r, ¬Q a r) :
    ∃ e, (s.outcome r0).1 = .error e ∧ (s.outcome r0).2.tables = r0.tables := by
  have ho := outcome_of_triple h
  generalize s.outcome r0 = o at ho ⊢
  rcases o with ⟨e | _, r⟩
  · exact ⟨e, rfl, ho.1⟩
  · obtain ⟨a, ha⟩ := ho
    exact absurd ha (hQ a r)

end Service

namespace Mutation

/-- **What a request does**, read off its specification: one that goes through made one audited
write, which changes the memberships as the request says; a refused one rolled back. -/
theorem run_cases (m : Mutation) (r : Registry) :
    match m.run r with
    | (.ok _, r') => ∃ w n, r.Wrote r' w n ∧
      w.onMemberships = (Session.Action.mutate m).onMemberships
    | (.error _, r') => r.RolledBack r' := by
  cases m with
  | createAccount p req actor =>
    refine Service.outcome_cases (Service.createAccount_spec p req actor r) ?_
    rintro _ r' ⟨_, _, _, _, _, _, _, _, _, hw⟩
    exact ⟨_, _, hw, rfl⟩
  | updateAccount p id req actor =>
    refine Service.outcome_cases (Service.updateAccount_spec p id req actor r) ?_
    rintro _ r' ⟨_, _, _, _, _, _, _, _, _, _, _, hw⟩
    exact ⟨_, _, hw, rfl⟩
  | deleteAccount id actor =>
    refine Service.outcome_cases (Service.deleteAccount_spec id actor r) ?_
    rintro _ r' ⟨_, _, _, hw⟩
    exact ⟨_, _, hw, rfl⟩
  | createGroup p req actor =>
    refine Service.outcome_cases (Service.createGroup_spec p req actor r) ?_
    rintro _ r' ⟨_, _, _, _, _, _, _, _, hw⟩
    exact ⟨_, _, hw, rfl⟩
  | updateGroup p id req actor =>
    refine Service.outcome_cases (Service.updateGroup_spec p id req actor r) ?_
    rintro _ r' ⟨_, _, _, _, _, _, _, _, _, _, _, hw⟩
    exact ⟨_, _, hw, rfl⟩
  | deleteGroup id actor =>
    refine Service.outcome_cases (Service.deleteGroup_spec id actor r) ?_
    rintro _ r' ⟨_, _, _, _, hw⟩
    exact ⟨_, _, hw, rfl⟩
  | assign account group actor =>
    refine Service.outcome_cases (Service.assign_spec account group actor r) ?_
    rintro _ r' ⟨_, _, _, _, _, _, _, hw⟩
    exact ⟨_, _, hw, rfl⟩
  | remove account group actor =>
    refine Service.outcome_cases (Service.remove_spec account group actor r) ?_
    rintro _ r' ⟨_, _, _, _, _, _, hw⟩
    exact ⟨_, _, hw, rfl⟩

end Mutation

namespace Session.Action

variable {act : Action} {r : Registry} {a g : Int}

@[simp] theorem run_mutate (m : Mutation) : (mutate m).run r = m.run r := rfl

/-- **One step on the memberships.**  An action that goes through changes the membership table
as it says; a refused one keeps it. -/
theorem memberships_run (act : Action) (r : Registry) :
    (act.run r).2.tables.memberships =
      if (act.run r).1.isOk then act.onMemberships r.tables.memberships
      else r.tables.memberships := by
  cases act with
  | switchAudit fail => rfl
  | mutate m =>
    have hc := m.run_cases r
    rw [run_mutate]
    generalize m.run r = o at hc ⊢
    rcases o with ⟨_ | _, r'⟩
    · exact congrArg Tables.memberships hc.1
    · obtain ⟨w, n, hw, hon⟩ := hc
      rw [hw.memberships, hon]
      rfl

theorem retired_run (h : r.tables.Retired a g) : (act.run r).2.tables.Retired a g := by
  cases act with
  | switchAudit fail => exact h
  | mutate m =>
    have hc := m.run_cases r
    rw [run_mutate]
    generalize m.run r = o at hc ⊢
    rcases o with ⟨_ | _, r'⟩
    · exact hc.1 ▸ h
    · obtain ⟨w, n, hw, -⟩ := hc
      exact hw.retired h

theorem sound_run (hs : r.Sound) : (act.run r).2.Sound := by
  cases act with
  | mutate m => exact hs.mutate m
  | switchAudit fail => exact hs.switchAudit fail

/-- What an action does to the table, read on one pair: the pair is there afterwards exactly as
the action's word on it says, or as before if it has none. -/
theorem mem_onMemberships {ms : List Membership} :
    ⟨a, g⟩ ∈ act.onMemberships ms ↔ (act.pairWord a g).elim (⟨a, g⟩ ∈ ms) (· = true) := by
  cases act with
  | switchAudit => exact Iff.rfl
  | mutate m =>
    cases m with
    | assign a' g' _ | remove a' g' _ =>
      -- an assignment or a removal speaks of its own pair only
      by_cases h : a' = a ∧ g' = g
      · obtain ⟨rfl, rfl⟩ := h
        simp [onMemberships, pairWord]
      · simp only [onMemberships, pairWord, h, if_false, Option.elim, List.mem_append,
          List.mem_singleton, List.mem_filter, Membership.mk.injEq]
        grind
    | _ => exact Iff.rfl

/-- **One step on a pair.**  A pair is in the table after an action exactly as the action says,
if it went through and speaks of the pair, and as before otherwise. -/
theorem mem_memberships_run :
    ⟨a, g⟩ ∈ (act.run r).2.tables.memberships ↔
      (if (act.run r).1.isOk then act.pairWord a g else none).elim
        (⟨a, g⟩ ∈ r.tables.memberships) (· = true) := by
  rw [memberships_run]
  split
  · exact mem_onMemberships
  · exact Iff.rfl

/-- An action that writes no membership keeps the membership table, whatever its outcome. -/
theorem memberships_run_of_silent (act : Action) (h : ∀ ms, act.onMemberships ms = ms) :
    (act.run r).2.tables.memberships = r.tables.memberships := by
  rw [memberships_run]
  split
  · exact h _
  · rfl

/-- An action keeps a pair's row when every assignment and every removal of the pair is
refused. -/
theorem mem_memberships_run_of_refused
    (hrefused : ∀ actor, (Mutation.assign a g actor).Refused r ∧
      (Mutation.remove a g actor).Refused r) :
    ⟨a, g⟩ ∈ (act.run r).2.tables.memberships ↔ ⟨a, g⟩ ∈ r.tables.memberships := by
  rw [mem_memberships_run]
  -- the action speaks of the pair only as an assignment or a removal of it, and those fail
  suffices h : (if (act.run r).1.isOk then act.pairWord a g else none) = none by
    rw [h]
    rfl
  cases act with
  | switchAudit => simp [pairWord]
  | mutate m =>
    cases m with
    | assign a' g' actor | remove a' g' actor =>
      by_cases hp : a' = a ∧ g' = g
      · obtain ⟨rfl, rfl⟩ := hp
        obtain ⟨⟨e₁, he₁, -⟩, ⟨e₂, he₂, -⟩⟩ := hrefused actor
        simp [he₁, he₂, Except.toBool]
      · simp [pairWord, hp]
    | _ => split <;> rfl

/-- Only an assignment of the pair says that it joins. -/
theorem eq_assign_of_pairWord (h : act.pairWord a g = some true) :
    ∃ actor, act = .mutate (.assign a g actor) := by
  cases act with
  | switchAudit => cases h
  | mutate m =>
    cases m with
    | assign a' g' actor =>
      simp only [pairWord] at h
      split at h
      · obtain ⟨rfl, rfl⟩ := ‹a' = a ∧ g' = g›
        exact ⟨actor, rfl⟩
      · cases h
    | remove a' g' actor =>
      simp only [pairWord] at h
      split at h <;> cases h
    | _ => cases h

end Session.Action

namespace Mutation

variable {r : Registry} {a g id : Int} {actor : Actor}

/-- An assignment that went through found its account and its group live and of compatible
types. -/
theorem assign_ok (h : ((assign a g actor).run r).1 = .ok ()) :
    ∃ acc grp, r.tables.account? a = some acc ∧ r.tables.group? g = some grp ∧
      compatible acc.type grp.type = true := by
  obtain ⟨_, acc, grp, ha, hg, hc, -⟩ := Service.ok_post (Service.assign_spec a g actor r) h
  exact ⟨acc, grp, ha, hg, hc⟩

/-- **A removal that goes through deletes exactly one row**, the pair's, from a sound
registry. -/
theorem remove_deletes_one (hs : r.Sound) (h : ((remove a g actor).run r).1 = .ok ()) :
    ∃ l₁ l₂, r.tables.memberships = l₁ ++ ⟨a, g⟩ :: l₂ ∧
      ((remove a g actor).run r).2.tables.memberships = l₁ ++ l₂ := by
  obtain ⟨_, _, _, -, -, hmem, -⟩ := Service.ok_post (Service.remove_spec a g actor r) h
  obtain ⟨l₁, l₂, -, hl, herase⟩ := List.exists_erase_eq hmem
  refine ⟨l₁, l₂, hl, ?_⟩
  have hrun := Session.Action.memberships_run (.mutate (.remove a g actor)) r
  simp only [Session.Action.run_mutate, h, Except.isOk, Except.toBool, if_true,
    Session.Action.onMemberships] at hrun
  -- the removal drops the rows of the pair, and the pair is stored once
  rw [hrun, ← herase, hs.constrained.memberships.erase_eq_filter]
  refine List.filter_congr fun ⟨a', g'⟩ _ => ?_
  grind

/-- Deleting an account keeps the membership table, whatever the outcome. -/
theorem deleteAccount_memberships :
    ((deleteAccount id actor).run r).2.tables.memberships = r.tables.memberships :=
  Session.Action.memberships_run_of_silent (.mutate (.deleteAccount id actor)) fun _ => rfl

/-- Deleting a group keeps the membership table, whatever the outcome. -/
theorem deleteGroup_memberships :
    ((deleteGroup id actor).run r).2.tables.memberships = r.tables.memberships :=
  Session.Action.memberships_run_of_silent (.mutate (.deleteGroup id actor)) fun _ => rfl

/-- A deletion of an account that went through marked its row: every pair of the account is
retired. -/
theorem deleteAccount_retires (h : ((deleteAccount id actor).run r).1 = .ok ()) (g : Int) :
    ((deleteAccount id actor).run r).2.tables.Retired id g := by
  obtain ⟨_, a, -, -, hw⟩ := Service.ok_post (Service.deleteAccount_spec id actor r) h
  obtain ⟨t₁, h₁, ht⟩ := hw.tables
  obtain ⟨l₁, b, l₂, -, hb, -, rfl⟩ := Tables.apply_effect h₁
  show ((Service.deleteAccount id actor).outcome r).2.tables.Retired id g
  rw [ht]
  exact .inl ⟨{ b with deleted := true }, by simp, hb, rfl⟩

/-- A deletion of a group that went through marked its row: every pair of the group is
retired. -/
theorem deleteGroup_retires (h : ((deleteGroup id actor).run r).1 = .ok ()) (a : Int) :
    ((deleteGroup id actor).run r).2.tables.Retired a id := by
  obtain ⟨_, g, -, -, -, hw⟩ := Service.ok_post (Service.deleteGroup_spec id actor r) h
  obtain ⟨t₁, h₁, ht⟩ := hw.tables
  obtain ⟨l₁, y, l₂, -, hy, -, rfl⟩ := Tables.apply_effect h₁
  show ((Service.deleteGroup id actor).outcome r).2.tables.Retired a id
  rw [ht]
  exact .inr ⟨{ y with deleted := true }, by simp, hy, rfl⟩

/-- In a sound registry every assignment and every removal of a retired pair is refused. -/
theorem refused_of_retired (hs : r.Sound) (h : r.tables.Retired a g) (actor : Actor) :
    (assign a g actor).Refused r ∧ (remove a g actor).Refused r := by
  have hlive := h.not_live hs.keyed
  refine ⟨Service.refused_of_triple (Service.assign_spec a g actor r) ?_,
    Service.refused_of_triple (Service.remove_spec a g actor r) ?_⟩
  · rintro _ _ ⟨acc, grp, ha, hg, -⟩
    rcases hlive with h | h <;> simp_all
  · rintro _ _ ⟨acc, grp, ha, hg, -⟩
    rcases hlive with h | h <;> simp_all

end Mutation

/-! ### Whole sessions -/

namespace Session

variable {r : Registry} {acts : List Action} {a g : Int}

@[simp] theorem play_nil : play r [] = r := rfl

@[simp] theorem play_cons (act : Action) (acts : List Action) :
    play r (act :: acts) = play (act.run r).2 acts := rfl

@[simp] theorem trace_nil : trace r [] = [] := rfl

@[simp] theorem trace_cons (act : Action) (acts : List Action) :
    trace r (act :: acts) = ⟨r, act, (act.run r).1⟩ :: trace (act.run r).2 acts := rfl

theorem sound_play (hs : r.Sound) : (play r acts).Sound := by
  induction acts generalizing r with
  | nil => exact hs
  | cons act acts ih => exact ih (Action.sound_run hs)

/-- Each entry of a record is an action with its outcome, taken on a registry that the session
reaches from its start. -/
theorem mem_trace {e : Entry} (h : e ∈ trace r acts) :
    ∃ pre, e.before = play r pre ∧ e.outcome = (e.action.run e.before).1 := by
  induction acts generalizing r with
  | nil => cases h
  | cons act acts ih =>
    rcases List.mem_cons.mp h with rfl | h
    · exact ⟨[], rfl, rfl⟩
    · obtain ⟨pre, hpre, ho⟩ := ih h
      exact ⟨act :: pre, hpre, ho⟩

/-- The last word of a record one entry longer: the last word of the rest, or else the first
entry's. -/
theorem getLast?_pairWords_cons (e : Entry) (tr : List Entry) :
    (pairWords a g (e :: tr)).getLast? =
      (pairWords a g tr).getLast?.or (if e.outcome.isOk then e.action.pairWord a g else none) := by
  simp only [pairWords, List.filterMap_cons]
  split
  · rename_i hnone
    rw [hnone, Option.or_none]
  · rename_i b hsome
    rw [hsome, List.getLast?_cons]
    cases (List.filterMap _ tr).getLast? <;> rfl

/-- **A pair follows its history.**  A pair is in the table a session leaves exactly as the
session's last word on it says, or as at the start if the session says none. -/
theorem mem_play_memberships (r : Registry) (acts : List Action) (a g : Int) :
    ⟨a, g⟩ ∈ (play r acts).tables.memberships ↔
      (pairWords a g (trace r acts)).getLast?.elim (⟨a, g⟩ ∈ r.tables.memberships) (· = true) := by
  induction acts generalizing r with
  | nil => exact Iff.rfl
  | cons act acts ih =>
    rw [play_cons, ih, trace_cons, getLast?_pairWords_cons]
    -- the rest of the session decides if it speaks of the pair; otherwise the first step does
    cases (pairWords a g (trace (act.run r).2 acts)).getLast? with
    | none => exact Action.mem_memberships_run
    | some b => exact Iff.rfl

/-- From the empty registry, a pair is in the table exactly when the last assignment or removal
of it that went through was an assignment. -/
theorem mem_memberships_iff_last_assign :
    ⟨a, g⟩ ∈ (play {} acts).tables.memberships ↔
      (pairWords a g (trace {} acts)).getLast? = some true := by
  rw [mem_play_memberships]
  -- the empty registry has no memberships
  cases (pairWords a g (trace {} acts)).getLast? with
  | none => simp
  | some b => simp

/-- **Every stored pair was assigned** with success, on a registry of the session where its
account and its group were live and of compatible types. -/
theorem assigned_of_mem_memberships {m : Membership}
    (hm : m ∈ (play {} acts).tables.memberships) :
    ∃ before actor acc grp,
      ⟨before, .mutate (.assign m.account m.group actor), .ok ()⟩ ∈ trace {} acts ∧
      before.tables.account? m.account = some acc ∧ before.tables.group? m.group = some grp ∧
      compatible acc.type grp.type = true := by
  obtain ⟨a, g⟩ := m
  -- the last word on the pair is an assignment of it that went through
  have hlast := mem_memberships_iff_last_assign.mp hm
  obtain ⟨⟨before, act, o⟩, he, hword⟩ := List.mem_filterMap.mp (List.mem_of_getLast? hlast)
  obtain ⟨-, -, ho⟩ := mem_trace he
  split at hword
  · rename_i hok
    obtain ⟨actor, rfl⟩ := Action.eq_assign_of_pairWord hword
    have hok' : o = .ok () := by
      cases o with
      | ok => rfl
      | error => cases hok
    subst hok'
    obtain ⟨acc, grp, ha, hg, hc⟩ := Mutation.assign_ok ho.symm
    exact ⟨before, actor, acc, grp, he, ha, hg, hc⟩
  · cases hword

/-- **A pair is out of reach** from a sound registry where it is retired: no continuation of the
session touches it. -/
theorem outOfReach_of_retired (hs : r.Sound) (h : r.tables.Retired a g) : OutOfReach r a g := by
  intro acts
  -- along the continuation the registry stays sound and the pair stays retired
  induction acts generalizing r with
  | nil => exact ⟨Iff.rfl, Mutation.refused_of_retired hs h⟩
  | cons act acts ih =>
    obtain ⟨hmem, hrefused⟩ := ih (Action.sound_run hs) (Action.retired_run h)
    exact ⟨hmem.trans (Action.mem_memberships_run_of_refused (Mutation.refused_of_retired hs h)),
      hrefused⟩

end Session

/-- **The membership table follows the history of assignments and removals.**  In every
session from the empty registry: a pair is stored exactly when the last assignment or removal of
it that went through was an assignment; no pair is stored twice; every stored pair was assigned,
with success, where its account and its group were live and of compatible types; a removal that
goes through deletes exactly one row, the pair's; and deleting an account or a group keeps the
table, and once it went through, the pairs of the deleted record are out of reach for the rest
of the session. -/
theorem memberships_follow_history (acts : List Session.Action) :
    let r := Session.play {} acts
    (∀ a g, ⟨a, g⟩ ∈ r.tables.memberships ↔
      (Session.pairWords a g (Session.trace {} acts)).getLast? = some true) ∧
    r.tables.memberships.Nodup ∧
    (∀ m ∈ r.tables.memberships, ∃ before actor acc grp,
      ⟨before, .mutate (.assign m.account m.group actor), .ok ()⟩ ∈ Session.trace {} acts ∧
      before.tables.account? m.account = some acc ∧ before.tables.group? m.group = some grp ∧
      compatible acc.type grp.type = true) ∧
    (∀ a g actor, ((Mutation.remove a g actor).run r).1 = .ok () →
      ∃ l₁ l₂, r.tables.memberships = l₁ ++ ⟨a, g⟩ :: l₂ ∧
        ((Mutation.remove a g actor).run r).2.tables.memberships = l₁ ++ l₂) ∧
    (∀ id actor,
      ((Mutation.deleteAccount id actor).run r).2.tables.memberships = r.tables.memberships ∧
      (((Mutation.deleteAccount id actor).run r).1 = .ok () →
        ∀ g, Session.OutOfReach ((Mutation.deleteAccount id actor).run r).2 id g)) ∧
    (∀ id actor,
      ((Mutation.deleteGroup id actor).run r).2.tables.memberships = r.tables.memberships ∧
      (((Mutation.deleteGroup id actor).run r).1 = .ok () →
        ∀ a, Session.OutOfReach ((Mutation.deleteGroup id actor).run r).2 a id)) := by
  intro r
  have hs : r.Sound := Session.sound_play Registry.sound_empty
  refine ⟨fun a g => Session.mem_memberships_iff_last_assign, hs.constrained.memberships,
    fun m hm => Session.assigned_of_mem_memberships hm,
    fun a g actor h => Mutation.remove_deletes_one hs h,
    fun id actor => ⟨Mutation.deleteAccount_memberships, fun h g => ?_⟩,
    fun id actor => ⟨Mutation.deleteGroup_memberships, fun h a => ?_⟩⟩
  · exact Session.outOfReach_of_retired (hs.deleteAccount id actor)
      (Mutation.deleteAccount_retires h g)
  · exact Session.outOfReach_of_retired (hs.deleteGroup id actor)
      (Mutation.deleteGroup_retires h a)

end PosixRegistry
