import PosixRegistry.Proofs.Service.CheckOrder
import PosixRegistry.Proofs.Service.Identifiers

/-!
# Services — proposals of the next identifier

The identifier proposed for a new account or group of a type (`Service.nextUid`,
`Service.nextGid`) is one past the largest live identifier of that type, held at the largest
64-bit value, or the start of the type's range when the type has no live record
(`RangePolicy.nextAfter`).  The proposal is advisory: it looks only at the live records of its
own type, while a creation checks an identifier against every live record, and the ranges of a
policy are taken as given, negative or crossed.

* `proposal_held_by_another_type`: a proposal can be taken.  Once a service account holds user
  id 1000, the proposal for the first people account is 1000, and creating that account with
  its user id left out is refused with `UID_TAKEN`.
* `reachable_proposals_fit_their_type`: what a proposal does promise, in every registry a
  session leaves, under any policy, for every type and in both spaces.  It lies above every
  live identifier of its type short of the largest 64-bit value, and it is not negative exactly
  when its type has a live record or its range starts at 0 or above
  (`RangePolicy.FitsType`).  So a creation with the identifier left out is refused as negative
  only when its type has no live record and its range starts below 0, and as a duplicate only
  when a live record of another type, or one at the top of the 64-bit range, holds the
  proposal.

Both spaces follow one argument over a list of records, each with a type and an identifier
(`RangePolicy.nextAfter_fitsType`); the live identifiers are not negative in every registry a
session leaves (`Registry.Sound`).
-/

namespace PosixRegistry

/-- The largest of a list is the library's `max?`. -/
theorem Tables.maxOf_eq_max? (l : List Int) : Tables.maxOf l = l.max? := by
  cases l <;> rfl

namespace RangePolicy

/-- What the proposal `u` for the type `t` promises among records with types and identifiers,
under a range that starts at `min`: it lies above every identifier of the type short of the
largest 64-bit value, and it is not negative exactly when the type has a record or the range
starts at 0 or above. -/
def FitsType {α : Type} (type : α → IdentityType) (ident : α → Int) (l : List α)
    (t : IdentityType) (min u : Int) : Prop :=
  (0 ≤ u ↔ (∃ x ∈ l, type x = t) ∨ 0 ≤ min) ∧
    ∀ x ∈ l, type x = t → ident x < u ∨ idMax ≤ ident x

/-! ### The proposal over a list of records -/

section Records

variable {α : Type} {type : α → IdentityType} {ident : α → Int} {l : List α}
  {t : IdentityType}

/-- The largest identifier of a type is the identifier of a record of the type, and no record
of the type has a larger one. -/
theorem maxOf_filter_eq_some {m : Int}
    (h : Tables.maxOf ((l.filter fun x => type x == t).map ident) = some m) :
    (∃ x ∈ l, type x = t ∧ ident x = m) ∧ ∀ x ∈ l, type x = t → ident x ≤ m := by
  obtain ⟨hmem, hle⟩ := List.max?_eq_some_iff.mp ((Tables.maxOf_eq_max? _).symm.trans h)
  refine ⟨?_, fun x hx hxt => hle _ (List.mem_map_of_mem (List.mem_filter.mpr ⟨hx, by simp [hxt]⟩))⟩
  obtain ⟨x, hx, rfl⟩ := List.mem_map.mp hmem
  obtain ⟨hx, hxt⟩ := List.mem_filter.mp hx
  exact ⟨x, hx, by simpa using hxt, rfl⟩

/-- A type has no largest identifier exactly when it has no record. -/
theorem maxOf_filter_eq_none :
    Tables.maxOf ((l.filter fun x => type x == t).map ident) = none ↔ ∀ x ∈ l, type x ≠ t := by
  simp [Tables.maxOf_eq_max?, List.filter_eq_nil_iff]

/-- **The proposal fits its type**, among records whose identifiers are not negative. -/
theorem nextAfter_fitsType (p : RangePolicy) (k : IdKind) (hnn : ∀ x ∈ l, 0 ≤ ident x) :
    FitsType type ident l t (p.rangeFor k t).min
      (p.nextAfter k (Tables.maxOf ((l.filter fun x => type x == t).map ident)) t) := by
  cases hm : Tables.maxOf ((l.filter fun x => type x == t).map ident) with
  | none =>
    -- no record of the type: the proposal is the start of its range
    have hnone := maxOf_filter_eq_none.mp hm
    refine ⟨?_, fun x hx hxt => absurd hxt (hnone x hx)⟩
    simp only [nextAfter]
    constructor
    · exact .inr
    · rintro (⟨x, hx, hxt⟩ | hmin)
      · exact absurd hxt (hnone x hx)
      · exact hmin
  | some m =>
    -- the largest identifier is a record's, so it is not negative
    obtain ⟨⟨x, hx, hxt, rfl⟩, hle⟩ := maxOf_filter_eq_some hm
    have h0 := hnn x hx
    have hmax : (0 : Int) < idMax := by decide
    simp only [nextAfter]
    refine ⟨⟨fun _ => .inl ⟨x, hx, hxt⟩, fun _ => by split <;> omega⟩, fun y hy hyt => ?_⟩
    have := hle y hy hyt
    split <;> omega

/-- A proposal that fits and is negative: the type has no record and its range starts below
0. -/
theorem FitsType.neg {min u : Int} (hf : FitsType type ident l t min u) (hu : u < 0) :
    (∀ x ∈ l, type x ≠ t) ∧ min < 0 := by
  have hnot : ¬((∃ x ∈ l, type x = t) ∨ 0 ≤ min) := fun h => absurd (hf.1.mpr h) (by omega)
  exact ⟨fun x hx hxt => hnot (.inl ⟨x, hx, hxt⟩), by by_contra hmin; exact hnot (.inr (by omega))⟩

/-- A record that holds a proposal that fits is of another type, or at the top of the 64-bit
range. -/
theorem FitsType.held {min u : Int} {x : α} (hf : FitsType type ident l t min u) (hx : x ∈ l)
    (hxu : ident x = u) : type x ≠ t ∨ idMax ≤ u := by
  by_cases hxt : type x = t
  · rcases hf.2 x hx hxt with hlt | htop
    · omega
    · exact .inr (hxu ▸ htop)
  · exact .inl hxt

end Records

end RangePolicy

/-- Whether a live account holds a user id, leaving none out. -/
theorem Tables.uidTaken_zero {t : Tables} {uid : Int} :
    t.uidTaken uid 0 = true ↔ ∃ a ∈ t.liveAccounts, a.uid = uid := by
  simp [Tables.uidTaken]

/-- Whether a live group holds a group id, leaving none out. -/
theorem Tables.gidTaken_zero {t : Tables} {gid : Int} :
    t.gidTaken gid 0 = true ↔ ∃ g ∈ t.liveGroups, g.gid = gid := by
  simp [Tables.gidTaken]

/-! ### What a creation with the identifier left out checks -/

/-- A refusal over the primary group is a broken reference. -/
theorem Tables.primaryGroupCheck_kind (t : Tables) (type : IdentityType) (g : Option Int) :
    (t.primaryGroupCheck type g).2.kind = .referential := by
  unfold Tables.primaryGroupCheck
  split
  · rfl
  · split <;> rfl

namespace Registry

variable (r : Registry) (p : RangePolicy) {t : IdentityType}

/-- Which check of an account refuses with which error: a negative user id, a user id another
live account holds, a username another live account holds, or a broken reference to the
primary group. -/
theorem accountChecks_refusal {exclude : Int} {d : AccountDraft} {e : RegistryError}
    (h : (false, .registry e) ∈ r.accountChecks exclude d) :
    (e = .negativeIdentifier .uid ∧ d.uid < 0) ∨
      (e = .uidTaken d.uid ∧ r.tables.uidTaken d.uid exclude = true) ∨
      e = .usernameTaken d.username ∨ e.kind = .referential := by
  simp only [accountChecks, List.mem_cons, Prod.mk.injEq,
    ServiceError.registry.injEq, Bool.false_eq, Bool.not_eq_false', decide_eq_true_eq] at h
  rcases h with ⟨hneg, rfl⟩ | ⟨htaken, rfl⟩ | ⟨-, rfl⟩ | hgroup | h
  · exact .inl ⟨rfl, hneg⟩
  · exact .inr (.inl ⟨rfl, htaken⟩)
  · exact .inr (.inr (.inl rfl))
  · have := congrArg (fun c => ServiceError.kind c.2) hgroup
    simp only [ServiceError.kind] at this
    exact .inr (.inr (.inr (this.trans (Tables.primaryGroupCheck_kind ..))))
  · simp at h

/-- Which check of a group refuses with which error: a negative group id, a group id another
live group holds, or a name another live group holds. -/
theorem groupChecks_refusal {exclude : Int} {d : GroupDraft} {e : RegistryError}
    (h : (false, .registry e) ∈ r.groupChecks exclude d) :
    (e = .negativeIdentifier .gid ∧ d.gid < 0) ∨
      (e = .gidTaken d.gid ∧ r.tables.gidTaken d.gid exclude = true) ∨
      e = .groupnameTaken d.groupname := by
  simp only [groupChecks, List.mem_cons, Prod.mk.injEq,
    ServiceError.registry.injEq, Bool.false_eq, Bool.not_eq_false', decide_eq_true_eq] at h
  rcases h with ⟨hneg, rfl⟩ | ⟨htaken, rfl⟩ | ⟨-, rfl⟩ | h
  · exact .inl ⟨rfl, hneg⟩
  · exact .inr (.inl ⟨rfl, htaken⟩)
  · exact .inr (.inr rfl)
  · simp at h

/-- With the user id left out and a readable type, an account creation checks the account under
the proposal for the type. -/
theorem accountCreationChecks_of_proposal {req : NewAccount} (hreq : req.uid = none)
    (ht : IdentityType.parse req.type = some t) :
    r.accountCreationChecks p req = (req.violations.isEmpty, violationsError req.violations) ::
      (r.accountChecks 0 ⟨p.nextAfter .uid (r.tables.maxUid t) t, req.username, t,
        req.primaryGroup, req.firstName, req.lastName⟩ ++ [r.auditCheck]) := by
  unfold accountCreationChecks
  simp [hreq, ht]

/-- With the group id left out and a readable type, a group creation checks the group under the
proposal for the type. -/
theorem groupCreationChecks_of_proposal {req : NewGroup} (actor : Actor) (hreq : req.gid = none)
    (ht : IdentityType.parse req.type = some t) :
    r.groupCreationChecks p req actor = (req.violations.isEmpty, violationsError req.violations) ::
      (r.groupChecks 0 ⟨p.nextAfter .gid (r.tables.maxGid t) t, req.groupname, t,
        req.description.getD "", some actor.username⟩ ++ [r.auditCheck]) := by
  unfold groupCreationChecks
  simp [hreq, ht]

/-- A refusal of the registry by a creation's row is one of the record's checks: the field rules
refuse with a validation error and the audit check with an audit failure. -/
theorem mem_creation_row {cs : List (Bool × ServiceError)} {vs : List Violation}
    {e : RegistryError} (h : (false, .registry e) ∈ (vs.isEmpty, violationsError vs) ::
      (cs ++ [r.auditCheck])) :
    (false, .registry e) ∈ cs ∨ e = .auditWriteFailed "audit table unavailable" := by
  simp only [List.mem_cons, List.mem_append, List.not_mem_nil, auditCheck, violationsError,
    Prod.mk.injEq, reduceCtorEq, and_false, false_or, or_false, ServiceError.registry.injEq] at h
  rcases h with h | ⟨-, rfl⟩
  · exact .inl h
  · exact .inr rfl

end Registry

namespace Service

variable {r : Registry} {p : RangePolicy} {t : IdentityType} {actor : Actor}

/-- The refusals of an account creation that concern the proposed user id: refused as negative,
the proposal is negative; refused as a duplicate, the proposal is the duplicate, and a live
account holds it. -/
theorem createAccount_refusal_of_proposal {req : NewAccount} (hreq : req.uid = none)
    (ht : IdentityType.parse req.type = some t) {e : RegistryError}
    (h : ((createAccount p req actor).outcome r).1 = .error (.registry e)) :
    (e = .negativeIdentifier .uid → p.nextAfter .uid (r.tables.maxUid t) t < 0) ∧
      ∀ u, e = .uidTaken u → u = p.nextAfter .uid (r.tables.maxUid t) t ∧
        r.tables.uidTaken u 0 = true := by
  have hrow := mem_of_firstRefusal_eq_error
    ((outcome_eq_of_triple (createAccount_checks_spec p req actor r)).symm.trans h)
  rw [Registry.accountCreationChecks_of_proposal r p hreq ht] at hrow
  rcases r.mem_creation_row hrow with hrow | rfl
  · rcases r.accountChecks_refusal hrow with ⟨rfl, hneg⟩ | ⟨rfl, htaken⟩ | rfl | hkind
    · exact ⟨fun _ => hneg, nofun⟩
    · exact ⟨nofun, fun u hu => by cases hu; exact ⟨rfl, htaken⟩⟩
    · exact ⟨nofun, nofun⟩
    -- a refusal over the primary group is neither negative nor a duplicate
    · refine ⟨fun he => ?_, fun u hu => ?_⟩
      · simp [he, RegistryError.kind] at hkind
      · simp [hu, RegistryError.kind] at hkind
  · exact ⟨nofun, nofun⟩

/-- The refusals of a group creation that concern the proposed group id: refused as negative,
the proposal is negative; refused as a duplicate, the proposal is the duplicate, and a live
group holds it. -/
theorem createGroup_refusal_of_proposal {req : NewGroup} (hreq : req.gid = none)
    (ht : IdentityType.parse req.type = some t) {e : RegistryError}
    (h : ((createGroup p req actor).outcome r).1 = .error (.registry e)) :
    (e = .negativeIdentifier .gid → p.nextAfter .gid (r.tables.maxGid t) t < 0) ∧
      ∀ g, e = .gidTaken g → g = p.nextAfter .gid (r.tables.maxGid t) t ∧
        r.tables.gidTaken g 0 = true := by
  have hrow := mem_of_firstRefusal_eq_error
    ((outcome_eq_of_triple (createGroup_checks_spec p req actor r)).symm.trans h)
  rw [Registry.groupCreationChecks_of_proposal r p actor hreq ht] at hrow
  rcases r.mem_creation_row hrow with hrow | rfl
  · rcases r.groupChecks_refusal hrow with ⟨rfl, hneg⟩ | ⟨rfl, htaken⟩ | rfl
    · exact ⟨fun _ => hneg, nofun⟩
    · exact ⟨nofun, fun g hg => by cases hg; exact ⟨rfl, htaken⟩⟩
    · exact ⟨nofun, nofun⟩
  · exact ⟨nofun, nofun⟩

/-- A proposal reads the registry and leaves it. -/
theorem nextUid_run (p : RangePolicy) (t : IdentityType) (r : Registry) :
    (nextUid p t).run.run r = (.ok (p.nextAfter .uid (r.tables.maxUid t) t), r) := rfl

/-- A proposal reads the registry and leaves it. -/
theorem nextGid_run (p : RangePolicy) (t : IdentityType) (r : Registry) :
    (nextGid p t).run.run r = (.ok (p.nextAfter .gid (r.tables.maxGid t) t), r) := rfl

end Service

/-! ### Proposals in the registries a session leaves -/

namespace Reachable

variable {r : Registry} (h : Reachable r) (p : RangePolicy) (t : IdentityType)
include h

/-- The proposed user id fits its type among the live accounts. -/
theorem uidProposal_fits :
    RangePolicy.FitsType Account.type Account.uid r.tables.liveAccounts t (p.rangeFor .uid t).min
      (p.nextAfter .uid (r.tables.maxUid t) t) :=
  RangePolicy.nextAfter_fitsType p .uid fun a ha =>
    h.sound.uids_nonneg a (Tables.mem_liveAccounts.mp ha).1

/-- The proposed group id fits its type among the live groups. -/
theorem gidProposal_fits :
    RangePolicy.FitsType Group.type Group.gid r.tables.liveGroups t (p.rangeFor .gid t).min
      (p.nextAfter .gid (r.tables.maxGid t) t) :=
  RangePolicy.nextAfter_fitsType p .gid fun g hg =>
    h.sound.gids_nonneg g (Tables.mem_liveGroups.mp hg).1

/-- Creating an account with its user id left out is refused for the proposal only as far as
the proposal fits: as negative when the type has no live account and its range starts below 0,
as a duplicate when a live account of another type, or one at the top of the 64-bit range,
holds it. -/
theorem createAccount_proposal_refusals {req : NewAccount} (actor : Actor) (hreq : req.uid = none)
    (ht : IdentityType.parse req.type = some t) :
    (((Service.createAccount p req actor).outcome r).1 =
        .error (.registry (.negativeIdentifier .uid)) →
      (∀ a ∈ r.tables.liveAccounts, a.type ≠ t) ∧ (p.rangeFor .uid t).min < 0) ∧
    ∀ v, ((Service.createAccount p req actor).outcome r).1 = .error (.registry (.uidTaken v)) →
      v = p.nextAfter .uid (r.tables.maxUid t) t ∧ ∃ a ∈ r.tables.liveAccounts,
        a.uid = p.nextAfter .uid (r.tables.maxUid t) t ∧
        (a.type ≠ t ∨ idMax ≤ p.nextAfter .uid (r.tables.maxUid t) t) := by
  have hfit := h.uidProposal_fits p t
  refine ⟨fun hneg => hfit.neg ((Service.createAccount_refusal_of_proposal hreq ht hneg).1 rfl),
    fun v hv => ?_⟩
  obtain ⟨rfl, htaken⟩ := (Service.createAccount_refusal_of_proposal hreq ht hv).2 v rfl
  obtain ⟨a, ha, hau⟩ := Tables.uidTaken_zero.mp htaken
  exact ⟨rfl, a, ha, hau, hfit.held ha hau⟩

/-- Creating a group with its group id left out is refused for the proposal only as far as the
proposal fits: as negative when the type has no live group and its range starts below 0, as a
duplicate when a live group of another type, or one at the top of the 64-bit range, holds
it. -/
theorem createGroup_proposal_refusals {req : NewGroup} (actor : Actor) (hreq : req.gid = none)
    (ht : IdentityType.parse req.type = some t) :
    (((Service.createGroup p req actor).outcome r).1 =
        .error (.registry (.negativeIdentifier .gid)) →
      (∀ g ∈ r.tables.liveGroups, g.type ≠ t) ∧ (p.rangeFor .gid t).min < 0) ∧
    ∀ v, ((Service.createGroup p req actor).outcome r).1 = .error (.registry (.gidTaken v)) →
      v = p.nextAfter .gid (r.tables.maxGid t) t ∧ ∃ g ∈ r.tables.liveGroups,
        g.gid = p.nextAfter .gid (r.tables.maxGid t) t ∧
        (g.type ≠ t ∨ idMax ≤ p.nextAfter .gid (r.tables.maxGid t) t) := by
  have hfit := h.gidProposal_fits p t
  refine ⟨fun hneg => hfit.neg ((Service.createGroup_refusal_of_proposal hreq ht hneg).1 rfl),
    fun v hv => ?_⟩
  obtain ⟨rfl, htaken⟩ := (Service.createGroup_refusal_of_proposal hreq ht hv).2 v rfl
  obtain ⟨g, hg, hgv⟩ := Tables.gidTaken_zero.mp htaken
  exact ⟨rfl, g, hg, hgv, hfit.held hg hgv⟩

end Reachable

/-- **A proposal can be taken.**  Once a service account holds user id 1000, the proposal for
the first people account is 1000, a live account holds it, and creating a people account with
its user id left out is refused as a duplicate of it. -/
theorem proposal_held_by_another_type :
    let r := ((Mutation.createAccount .standard
      { uid := some 1000, username := "svc", type := "service" } .standard).run {}).2
    Reachable r ∧ ((Service.nextUid .standard .people).run.run r).1 = .ok 1000 ∧
      r.tables.uidTaken 1000 0 = true ∧
      ((Service.createAccount .standard { username := "alice", type := "people" }
        .standard).outcome r).1 = .error (.registry (.uidTaken 1000)) :=
  ⟨.step .empty (.mutate _ _), by decide +kernel, by decide +kernel, by decide +kernel⟩

/-- What the proposals for a type promise in a registry, under a policy, in both spaces: each
is read without changing the registry and fits its type among the live records; so a creation
with the identifier left out is refused as negative only when the type has no live record and
its range starts below 0, and as a duplicate only of the proposal, held by a live record of
another type or at the top of the 64-bit range. -/
structure Registry.ProposalsFit (r : Registry) (p : RangePolicy) (t : IdentityType) : Prop where
  uid_read : (Service.nextUid p t).run.run r = (.ok (p.nextAfter .uid (r.tables.maxUid t) t), r)
  uid_fits : RangePolicy.FitsType Account.type Account.uid r.tables.liveAccounts t
    (p.rangeFor .uid t).min (p.nextAfter .uid (r.tables.maxUid t) t)
  uid_refusals : ∀ (req : NewAccount) actor, req.uid = none →
    IdentityType.parse req.type = some t →
    (((Service.createAccount p req actor).outcome r).1 =
        .error (.registry (.negativeIdentifier .uid)) →
      (∀ a ∈ r.tables.liveAccounts, a.type ≠ t) ∧ (p.rangeFor .uid t).min < 0) ∧
    ∀ v, ((Service.createAccount p req actor).outcome r).1 = .error (.registry (.uidTaken v)) →
      v = p.nextAfter .uid (r.tables.maxUid t) t ∧ ∃ a ∈ r.tables.liveAccounts,
        a.uid = p.nextAfter .uid (r.tables.maxUid t) t ∧
        (a.type ≠ t ∨ idMax ≤ p.nextAfter .uid (r.tables.maxUid t) t)
  gid_read : (Service.nextGid p t).run.run r = (.ok (p.nextAfter .gid (r.tables.maxGid t) t), r)
  gid_fits : RangePolicy.FitsType Group.type Group.gid r.tables.liveGroups t
    (p.rangeFor .gid t).min (p.nextAfter .gid (r.tables.maxGid t) t)
  gid_refusals : ∀ (req : NewGroup) actor, req.gid = none →
    IdentityType.parse req.type = some t →
    (((Service.createGroup p req actor).outcome r).1 =
        .error (.registry (.negativeIdentifier .gid)) →
      (∀ g ∈ r.tables.liveGroups, g.type ≠ t) ∧ (p.rangeFor .gid t).min < 0) ∧
    ∀ v, ((Service.createGroup p req actor).outcome r).1 = .error (.registry (.gidTaken v)) →
      v = p.nextAfter .gid (r.tables.maxGid t) t ∧ ∃ g ∈ r.tables.liveGroups,
        g.gid = p.nextAfter .gid (r.tables.maxGid t) t ∧
        (g.type ≠ t ∨ idMax ≤ p.nextAfter .gid (r.tables.maxGid t) t)

/-- **What a proposal promises.**  In every registry a session leaves, under any policy and for
every type, the proposals of both spaces fit their type: each lies above every live identifier
of its type short of the largest 64-bit value and is not negative exactly when its type has a
live record or its range starts at 0 or above, so a creation with the identifier left out is
refused for it only when the range starts below 0 with no live record of the type, or when a
live record of another type, or at the top of the 64-bit range, holds it. -/
theorem reachable_proposals_fit_their_type {r : Registry} (h : Reachable r) (p : RangePolicy)
    (t : IdentityType) : r.ProposalsFit p t where
  uid_read := Service.nextUid_run p t r
  uid_fits := h.uidProposal_fits p t
  uid_refusals _ actor hreq ht := h.createAccount_proposal_refusals p t actor hreq ht
  gid_read := Service.nextGid_run p t r
  gid_fits := h.gidProposal_fits p t
  gid_refusals _ actor hreq ht := h.createGroup_proposal_refusals p t actor hreq ht

/-- The proposals for people fit their type after a service account took user id 1000, the
proposal for the first people account. -/
theorem proposals_fit_after_a_taken_proposal :
    let r := ((Mutation.createAccount .standard
      { uid := some 1000, username := "svc", type := "service" } .standard).run {}).2
    Reachable r ∧ r.ProposalsFit .standard .people :=
  have h := Reachable.step .empty (.mutate _ _)
  ⟨h, reachable_proposals_fit_their_type h _ _⟩

end PosixRegistry
