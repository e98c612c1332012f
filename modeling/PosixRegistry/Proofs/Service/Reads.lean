import PosixRegistry.Proofs.Service.Identifiers

/-!
# Services — reads agree with the live registry

In every registry a session leaves (`reachable_reads_agree`):

* listing accounts returns every live account of the type filter, or of every type when there
  is none, each once, by strictly increasing user id; searching returns, in that order, exactly
  those whose username or decimal user id contains the trimmed query, so a query that trims to
  nothing lists; groups are listed and searched the same way by group id;
* a lookup by user id, username, group id or group name returns exactly the live record with
  that key, and refuses with the record's unknown code when there is none;
* the members of a live group are the live accounts with a membership row in it, by user id,
  and the groups of a live account are the live groups it has a row in, by group id; an id that
  is not live is refused;
* a type filter whose name reads to no type is refused with `INVALID_TYPE`;
* no read changes the registry, and none returns a deleted record.

The order and the "exactly one" come from the invariant, not from the reads: a read filters the
live rows and sorts them with a stable sort by a key that no two live rows share
(`listsBy_mergeSort`), and a list strictly sorted by a key is fixed by its members
(`ListsBy.unique`), so a search is the listing filtered by the query.
-/

namespace PosixRegistry

/-! ### Lists by a key -/

/-- `l` lists the rows of `rows` that satisfy `p`, each once, by strictly increasing key. -/
def ListsBy {α : Type} (key : α → Int) (rows : List α) (p : α → Prop) (l : List α) : Prop :=
  (∀ x, x ∈ l ↔ x ∈ rows ∧ p x) ∧ l.Pairwise fun x y => key x < key y

namespace ListsBy

variable {α : Type} {key : α → Int} {rows : List α} {p : α → Prop} {l l' : List α}

theorem nodup (h : ListsBy key rows p l) : l.Nodup :=
  h.2.imp fun hxy heq => (heq ▸ hxy).false

/-- Two lists of the same rows strictly sorted by a key are one list. -/
theorem unique (h : ListsBy key rows p l) (h' : ListsBy key rows p l') : l = l' := by
  have hperm : l.Perm l' :=
    (List.perm_ext_iff_of_nodup h.nodup h'.nodup).mpr fun x => (h.1 x).trans (h'.1 x).symm
  exact hperm.eq_of_pairwise (fun _ _ _ _ hxy hyx => absurd (hxy.trans hyx) (lt_irrefl _)) h.2 h'.2

theorem congr {q : α → Prop} (hpq : ∀ x ∈ rows, p x ↔ q x) (h : ListsBy key rows p l) :
    ListsBy key rows q l :=
  ⟨fun x => (h.1 x).trans ⟨fun ⟨hx, hp⟩ => ⟨hx, (hpq x hx).mp hp⟩,
    fun ⟨hx, hq⟩ => ⟨hx, (hpq x hx).mpr hq⟩⟩, h.2⟩

/-- Filtering a listing lists the rows that also pass the filter, in the same order. -/
theorem filter (h : ListsBy key rows p l) (q : α → Bool) :
    ListsBy key rows (fun x => p x ∧ q x = true) (l.filter q) :=
  ⟨fun x => by simp only [List.mem_filter, h.1, and_assoc], h.2.filter q⟩

end ListsBy

/-- Sorting the rows that pass a filter by a key no two rows share lists them by strictly
increasing key: the sort orders them by the key, and the key tells any two apart. -/
theorem listsBy_mergeSort {α : Type} {key : α → Int} {rows : List α} (hk : (rows.map key).Nodup)
    (q : α → Bool) :
    ListsBy key rows (fun x => q x = true) ((rows.filter q).mergeSort fun x y => key x ≤ key y) := by
  have hsorted : ((rows.filter q).mergeSort fun x y => key x ≤ key y).Pairwise
      fun x y => decide (key x ≤ key y) :=
    List.pairwise_mergeSort (fun _ _ _ hxy hyz => by simp only [decide_eq_true_eq] at *; omega)
      (fun x y => by simpa using le_total (key x) (key y)) (rows.filter q)
  -- the keys of the sorted rows are those of a sublist of the rows, so they stay apart
  have hapart : ((rows.filter q).mergeSort fun x y => key x ≤ key y).Pairwise
      fun x y => key x ≠ key y := by
    have hsub : ((rows.filter q).map key).Nodup := hk.sublist (List.filter_sublist.map key)
    exact List.pairwise_map.mp (((List.mergeSort_perm _ _).map key).nodup_iff.mpr hsub)
  refine ⟨fun x => by simp [List.mem_filter], ?_⟩
  exact (hsorted.and hapart).imp fun ⟨hle, hne⟩ => lt_of_le_of_ne (by simpa using hle) hne

/-- Where a key tells the rows apart, finding a row by its key finds exactly the row with it. -/
theorem find?_key_eq_some_iff {α β : Type} [DecidableEq β] {key : α → β} {rows : List α}
    (hk : (rows.map key).Nodup) {k : β} {x : α} :
    rows.find? (fun y => key y == k) = some x ↔ x ∈ rows ∧ key x = k := by
  constructor
  · intro h
    exact ⟨List.mem_of_find?_eq_some h, by simpa using List.find?_some h⟩
  · rintro ⟨hx, rfl⟩
    cases hf : rows.find? (fun y => key y == key x) with
    | none =>
      have := List.find?_eq_none.mp hf x hx
      simp at this
    | some y =>
      have hy := List.find?_some hf
      rw [List.inj_on_of_nodup_map hk (List.mem_of_find?_eq_some hf) hx (by simpa using hy)]

theorem find?_key_eq_none_iff {α β : Type} [DecidableEq β] {key : α → β} {rows : List α} {k : β} :
    rows.find? (fun y => key y == k) = none ↔ ∀ x ∈ rows, key x ≠ k := by
  simp [List.find?_eq_none]

/-- The empty text occurs in every text. -/
@[simp] theorem textContains_empty (hay : String) : textContains hay "" = true := by
  unfold textContains
  cases hay.toList <;> rfl

/-- A type filter passes a type when it is absent or names that type. -/
theorem all_beq_iff {t : Option IdentityType} {type : IdentityType} :
    t.all (· == type) = true ↔ ∀ u ∈ t, type = u := by
  cases t with
  | none => simp
  | some u => simpa using eq_comm

/-- Whether a record of a type, with a name and a numeric identifier, is of a type filter's
type and has the search text in its name or in its identifier written in decimal. -/
def SearchHit (t : Option IdentityType) (q : String) (type : IdentityType) (name : String)
    (ident : Int) : Prop :=
  (∀ u ∈ t, type = u) ∧ (textContains name q = true ∨ textContains (toString ident) q = true)

/-! ### The reads of the tables -/

namespace Tables

variable {t : Tables}

section Constrained

variable (hc : t.Constrained)
include hc

theorem listAccounts_listsBy (type : Option IdentityType) :
    ListsBy (·.uid) t.liveAccounts (fun a => ∀ u ∈ type, a.type = u) (t.listAccounts type) :=
  (listsBy_mergeSort hc.uids _).congr fun _ _ => all_beq_iff

theorem listGroups_listsBy (type : Option IdentityType) :
    ListsBy (·.gid) t.liveGroups (fun g => ∀ u ∈ type, g.type = u) (t.listGroups type) :=
  (listsBy_mergeSort hc.gids _).congr fun _ _ => all_beq_iff

/-- A search, narrowed to a type, lists the live accounts of the type that match. -/
theorem searchAccounts_listsBy (type : Option IdentityType) (q : String) :
    ListsBy (·.uid) t.liveAccounts (fun a => SearchHit type q a.type a.username a.uid)
      ((t.searchAccounts q).filter fun a => type.all (· == a.type)) :=
  ((listsBy_mergeSort hc.uids _).filter _).congr fun _ _ => by
    simp only [SearchHit, Bool.or_eq_true, all_beq_iff, and_comm]

theorem searchGroups_listsBy (type : Option IdentityType) (q : String) :
    ListsBy (·.gid) t.liveGroups (fun g => SearchHit type q g.type g.groupname g.gid)
      ((t.searchGroups q).filter fun g => type.all (· == g.type)) :=
  ((listsBy_mergeSort hc.gids _).filter _).congr fun _ _ => by
    simp only [SearchHit, Bool.or_eq_true, all_beq_iff, and_comm]

/-- A search for the empty text, narrowed to a type, is the listing of the type. -/
theorem searchAccounts_empty (type : Option IdentityType) :
    (t.searchAccounts "").filter (fun a => type.all (· == a.type)) = t.listAccounts type :=
  (searchAccounts_listsBy hc type "").unique
    ((listAccounts_listsBy hc type).congr fun _ _ => by simp [SearchHit])

theorem searchGroups_empty (type : Option IdentityType) :
    (t.searchGroups "").filter (fun g => type.all (· == g.type)) = t.listGroups type :=
  (searchGroups_listsBy hc type "").unique
    ((listGroups_listsBy hc type).congr fun _ _ => by simp [SearchHit])

theorem members_listsBy (group : Int) :
    ListsBy (·.uid) t.liveAccounts (fun a => ⟨a.id, group⟩ ∈ t.memberships) (t.members group) :=
  (listsBy_mergeSort hc.uids _).congr fun _ _ => isMember_iff

theorem groupsOf_listsBy (account : Int) :
    ListsBy (·.gid) t.liveGroups (fun g => ⟨account, g.id⟩ ∈ t.memberships) (t.groupsOf account) :=
  (listsBy_mergeSort hc.gids _).congr fun _ _ => isMember_iff

end Constrained

end Tables

/-! ### The read services, run -/

namespace Service

/-- What a type filter text reads to: no filter when absent, the type its name reads to, or the
refusal of a name that reads to no type. -/
def typeFilter : Option String → Except ServiceError (Option IdentityType)
  | none => .ok none
  | some s => match IdentityType.parse s with
    | some t => .ok (some t)
    | none => .error (.registry (.invalidType s))

/-- A service that reads the tables first runs on the tables as they are. -/
theorem tables_bind_run {α : Type} (f : Tables → Service α) (r : Registry) :
    (tables >>= f).run.run r = (f r.tables).run.run r := rfl

variable (r : Registry)

theorem listAccounts_run (type : Option String) :
    (listAccounts type).run.run r = ((typeFilter type).map r.tables.listAccounts, r) := by
  cases type with
  | none => rfl
  | some s =>
    simp only [listAccounts, typeFilter, parseType]
    cases IdentityType.parse s <;> rfl

theorem listGroups_run (type : Option String) :
    (listGroups type).run.run r = ((typeFilter type).map r.tables.listGroups, r) := by
  cases type with
  | none => rfl
  | some s =>
    simp only [listGroups, typeFilter, parseType]
    cases IdentityType.parse s <;> rfl

theorem searchAccounts_run (q : String) (type : Option String) :
    (searchAccounts q type).run.run r = ((typeFilter type).map fun t =>
      (r.tables.searchAccounts (Text.trimBlank q)).filter fun a => t.all (· == a.type), r) := by
  cases type with
  | none => rfl
  | some s =>
    simp only [searchAccounts, typeFilter, parseType]
    cases IdentityType.parse s <;> rfl

theorem searchGroups_run (q : String) (type : Option String) :
    (searchGroups q type).run.run r = ((typeFilter type).map fun t =>
      (r.tables.searchGroups (Text.trimBlank q)).filter fun g => t.all (· == g.type), r) := by
  cases type with
  | none => rfl
  | some s =>
    simp only [searchGroups, typeFilter, parseType]
    cases IdentityType.parse s <;> rfl

theorem accountByUid_run (u : Int) :
    (accountByUid u).run.run r =
      ((r.tables.accountByUid? u).elim (.error (.registry (.accountNotFoundBy "UID" (toString u)))) .ok, r) := by
  rw [accountByUid, tables_bind_run]
  cases r.tables.accountByUid? u <;> rfl

theorem accountByName_run (name : String) :
    (accountByName name).run.run r =
      ((r.tables.accountByName? name).elim (.error (.registry (.accountNotFoundBy "username" name))) .ok, r) := by
  rw [accountByName, tables_bind_run]
  cases r.tables.accountByName? name <;> rfl

theorem groupByGid_run (gid : Int) :
    (groupByGid gid).run.run r =
      ((r.tables.groupByGid? gid).elim (.error (.registry (.groupNotFoundBy "GID" (toString gid)))) .ok, r) := by
  rw [groupByGid, tables_bind_run]
  cases r.tables.groupByGid? gid <;> rfl

theorem groupByName_run (name : String) :
    (groupByName name).run.run r =
      ((r.tables.groupByName? name).elim (.error (.registry (.groupNotFoundBy "groupname" name))) .ok, r) := by
  rw [groupByName, tables_bind_run]
  cases r.tables.groupByName? name <;> rfl

theorem groupMembers_run (id : Int) :
    (groupMembers id).run.run r = (match r.tables.group? id with
      | some _ => .ok (r.tables.members id)
      | none => .error (.registry (.groupNotFound id)), r) := by
  simp only [groupMembers, findGroup, bind_assoc, tables_bind_run]
  cases r.tables.group? id <;> rfl

theorem accountGroups_run (id : Int) :
    (accountGroups id).run.run r = (match r.tables.account? id with
      | some _ => .ok (r.tables.groupsOf id)
      | none => .error (.registry (.accountNotFound id)), r) := by
  simp only [accountGroups, findAccount, bind_assoc, tables_bind_run]
  cases r.tables.account? id <;> rfl

end Service

/-! ### Reads agree -/

namespace Registry

/-- A lookup at a registry by a key: it returns a row, leaving the registry, exactly when the row
is one of `rows` with the key, and refuses with `e` when none is. -/
def LooksUp {α β : Type} (r : Registry) (s : Service α) (rows : List α) (key : α → β) (k : β)
    (e : ServiceError) : Prop :=
  (∀ x, s.run.run r = (.ok x, r) ↔ x ∈ rows ∧ key x = k) ∧
    ((∀ x ∈ rows, key x ≠ k) → s.run.run r = (.error e, r))

/-- A service that finds a row by a key no two rows share looks it up. -/
theorem looksUp_of_run {α β : Type} [DecidableEq β] {r : Registry} {s : Service α}
    {rows : List α} {key : α → β} {k : β} {e : ServiceError} (hk : (rows.map key).Nodup)
    (hrun : s.run.run r = ((rows.find? (fun y => key y == k)).elim (.error e) .ok, r)) :
    r.LooksUp s rows key k e := by
  refine ⟨fun x => ?_, fun hnone => ?_⟩
  · rw [hrun, ← find?_key_eq_some_iff hk]
    cases rows.find? (fun y => key y == k) with
    | none => exact ⟨nofun, nofun⟩
    | some y => exact ⟨fun h => by cases h; rfl, fun h => by cases h; rfl⟩
  · rw [hrun, find?_key_eq_none_iff.mpr hnone]
    rfl

/-- The reads of a registry agree with its live rows: lists and searches return the live rows
that pass, each once, by strictly increasing identifier; a search for a blank text lists;
lookups by a key return the one live row with it or refuse with the unknown record's error;
members and groups of a live record are the live rows with a membership row, and a record that
is not live is refused; a type name that reads to no type is refused.  Every read leaves the
registry as it was. -/
structure ReadsAgree (r : Registry) : Prop where
  listAccounts : ∀ type t, Service.typeFilter type = .ok t →
    ∃ l, (Service.listAccounts type).run.run r = (.ok l, r) ∧
      ListsBy (·.uid) r.tables.liveAccounts (fun a => ∀ u ∈ t, a.type = u) l
  searchAccounts : ∀ q type t, Service.typeFilter type = .ok t →
    ∃ l, (Service.searchAccounts q type).run.run r = (.ok l, r) ∧
      ListsBy (·.uid) r.tables.liveAccounts
        (fun a => SearchHit t (Text.trimBlank q) a.type a.username a.uid) l
  searchAccounts_blank : ∀ q type, Text.trimBlank q = "" →
    (Service.searchAccounts q type).run.run r = (Service.listAccounts type).run.run r
  accountByUid : ∀ u, r.LooksUp (Service.accountByUid u) r.tables.liveAccounts (·.uid) u
    (.registry (.accountNotFoundBy "UID" (toString u)))
  accountByName : ∀ name, r.LooksUp (Service.accountByName name) r.tables.liveAccounts
    (·.username) name (.registry (.accountNotFoundBy "username" name))
  groupMembers : ∀ id, (∀ g, r.tables.group? id = some g →
      ∃ l, (Service.groupMembers id).run.run r = (.ok l, r) ∧
        ListsBy (·.uid) r.tables.liveAccounts (fun a => ⟨a.id, id⟩ ∈ r.tables.memberships) l) ∧
    (r.tables.group? id = none →
      (Service.groupMembers id).run.run r = (.error (.registry (.groupNotFound id)), r))
  listGroups : ∀ type t, Service.typeFilter type = .ok t →
    ∃ l, (Service.listGroups type).run.run r = (.ok l, r) ∧
      ListsBy (·.gid) r.tables.liveGroups (fun g => ∀ u ∈ t, g.type = u) l
  searchGroups : ∀ q type t, Service.typeFilter type = .ok t →
    ∃ l, (Service.searchGroups q type).run.run r = (.ok l, r) ∧
      ListsBy (·.gid) r.tables.liveGroups
        (fun g => SearchHit t (Text.trimBlank q) g.type g.groupname g.gid) l
  searchGroups_blank : ∀ q type, Text.trimBlank q = "" →
    (Service.searchGroups q type).run.run r = (Service.listGroups type).run.run r
  groupByGid : ∀ gid, r.LooksUp (Service.groupByGid gid) r.tables.liveGroups (·.gid) gid
    (.registry (.groupNotFoundBy "GID" (toString gid)))
  groupByName : ∀ name, r.LooksUp (Service.groupByName name) r.tables.liveGroups
    (·.groupname) name (.registry (.groupNotFoundBy "groupname" name))
  accountGroups : ∀ id, (∀ a, r.tables.account? id = some a →
      ∃ l, (Service.accountGroups id).run.run r = (.ok l, r) ∧
        ListsBy (·.gid) r.tables.liveGroups (fun g => ⟨id, g.id⟩ ∈ r.tables.memberships) l) ∧
    (r.tables.account? id = none →
      (Service.accountGroups id).run.run r = (.error (.registry (.accountNotFound id)), r))
  invalidType : ∀ s, IdentityType.parse s = none → ∀ q,
    (Service.listAccounts (some s)).run.run r = (.error (.registry (.invalidType s)), r) ∧
    (Service.searchAccounts q (some s)).run.run r = (.error (.registry (.invalidType s)), r) ∧
    (Service.listGroups (some s)).run.run r = (.error (.registry (.invalidType s)), r) ∧
    (Service.searchGroups q (some s)).run.run r = (.error (.registry (.invalidType s)), r)

/-- The reads of every registry whose tables keep the store's constraints agree with its live
rows. -/
theorem readsAgree_of_constrained {r : Registry} (hc : r.tables.Constrained) : r.ReadsAgree where
  listAccounts type t ht :=
    ⟨_, by rw [Service.listAccounts_run, ht]; rfl, Tables.listAccounts_listsBy hc t⟩
  searchAccounts q type t ht :=
    ⟨_, by rw [Service.searchAccounts_run, ht]; rfl, Tables.searchAccounts_listsBy hc t _⟩
  searchAccounts_blank q type hq := by
    rw [Service.searchAccounts_run, Service.listAccounts_run, hq]
    cases Service.typeFilter type with
    | error e => rfl
    | ok t => exact congrArg (fun l => (Except.ok l, r)) (Tables.searchAccounts_empty hc t)
  accountByUid u := looksUp_of_run hc.uids (Service.accountByUid_run r u)
  accountByName name := looksUp_of_run hc.usernames (Service.accountByName_run r name)
  groupMembers id := by
    refine ⟨fun g hg => ⟨_, ?_, Tables.members_listsBy hc id⟩, fun hg => ?_⟩
    · rw [Service.groupMembers_run, hg]
    · rw [Service.groupMembers_run, hg]
  listGroups type t ht :=
    ⟨_, by rw [Service.listGroups_run, ht]; rfl, Tables.listGroups_listsBy hc t⟩
  searchGroups q type t ht :=
    ⟨_, by rw [Service.searchGroups_run, ht]; rfl, Tables.searchGroups_listsBy hc t _⟩
  searchGroups_blank q type hq := by
    rw [Service.searchGroups_run, Service.listGroups_run, hq]
    cases Service.typeFilter type with
    | error e => rfl
    | ok t => exact congrArg (fun l => (Except.ok l, r)) (Tables.searchGroups_empty hc t)
  groupByGid gid := looksUp_of_run hc.gids (Service.groupByGid_run r gid)
  groupByName name := looksUp_of_run hc.groupnames (Service.groupByName_run r name)
  accountGroups id := by
    refine ⟨fun a ha => ⟨_, ?_, Tables.groupsOf_listsBy hc id⟩, fun ha => ?_⟩
    · rw [Service.accountGroups_run, ha]
    · rw [Service.accountGroups_run, ha]
  invalidType s hs q := by
    have hf : Service.typeFilter (some s) = .error (.registry (.invalidType s)) := by
      simp [Service.typeFilter, hs]
    simp only [Service.listAccounts_run, Service.searchAccounts_run, Service.listGroups_run,
      Service.searchGroups_run, hf]
    exact ⟨rfl, rfl, rfl, rfl⟩

end Registry

/-- **Reads agree with the live registry.**  In every registry a session leaves: listing accounts
of a type, or of every type, returns every live account that passes exactly once, by strictly
increasing user id; a search returns exactly the live accounts of the type whose username or
decimal user id contains the trimmed query, in that order, and a query that trims to nothing
lists; a lookup by user id or username returns the one live account with it, or refuses with
`UNKNOWN_ACCOUNT`; the members of a live group are the live accounts with a membership row in
it, by user id, and a group that is not live is refused with `UNKNOWN_GROUP`; groups are listed,
searched and looked up the same way, and the groups of a live account are the live groups it has
a row in, by group id.  A type filter that reads to no type is refused with `INVALID_TYPE`.  No
read returns a deleted record or changes the registry. -/
theorem reachable_reads_agree {r : Registry} (h : Reachable r) : r.ReadsAgree :=
  Registry.readsAgree_of_constrained h.sound.constrained

/-- The registry after one service account is created is one a session leaves, so its reads
agree with it. -/
theorem reads_agree_after_one_account :
    let r := ((Mutation.createAccount .standard
      { uid := some 1000, username := "svc", type := "service" } .standard).run {}).2
    Reachable r ∧ r.ReadsAgree :=
  have h : Reachable ((Mutation.createAccount .standard
      { uid := some 1000, username := "svc", type := "service" } .standard).run {}).2 :=
    .step .empty (.mutate _ _)
  ⟨h, reachable_reads_agree h⟩

end PosixRegistry
