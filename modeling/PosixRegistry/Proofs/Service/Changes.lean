import PosixRegistry.Proofs.Service.Atomicity

/-!
# Services — what a change writes and how its audit line reads

Changing an account merges the request into the account as it is, field by field, by three
rules: a given user id, username or type replaces the old one; a first or last name can be set
but never cleared; clearing the primary group wins over setting one.  The audit line of the
change names the account as written, then lists, in a fixed order, exactly the fields whose
value changed, each as `<field> <old> -> <new>`, with `none` for an absent value.  A group
change merges by replacement, keeps the group's creator, and reports its description by name
only.

* `ChangeField` and `changeList` state the list as a rule over a table of fields
  (`AccountDraft.fields`, `GroupDraft.fields`): the fields on which the old and the new record
  differ, in table order, each written in the field's own form.  The services list exactly that
  (`Service.accountChanges_eq`, `Service.groupChanges_eq`), and the list is empty exactly when
  nothing changed (`changeList_eq_nil_iff`, `AccountDraft.fields_same_iff`).
* `updates_merge_and_list_changes`: on every registry, a change that succeeds returns and
  stores the record merged by those rules under its id, and appends one audit entry, whose line
  is the head `Updated account <username> with UID <uid>` (or the group's) followed, exactly
  when a field changed, by the change list in parentheses; a refused change leaves the tables.
-/

namespace PosixRegistry

/-! ### Change lists as a rule over a table of fields -/

/-- A field of a record as a change line reports it: its label, whether two records agree on
it, and, for a field reported with its values, how a value is written. -/
structure ChangeField (α : Type) where
  label : String
  same : α → α → Bool
  written : Option (α → String)

/-- The item of a field in a change line: `<label> <old> -> <new>`, or the label alone for a
field reported without values. -/
def ChangeField.item {α : Type} (f : ChangeField α) (old new : α) : String :=
  match f.written with
  | some write => f.label ++ " " ++ write old ++ " -> " ++ write new
  | none => f.label

/-- The change list between two records over a table of fields: the item of every field on
which they differ, in table order. -/
def changeList {α : Type} (fs : List (ChangeField α)) (old new : α) : List String :=
  (fs.filter fun f => !f.same old new).map fun f => f.item old new

section ChangeList

variable {α : Type} {fs : List (ChangeField α)} {x y : α}

@[simp] theorem changeList_nil : changeList ([] : List (ChangeField α)) x y = [] := rfl

theorem changeList_cons (f : ChangeField α) :
    changeList (f :: fs) x y = (if f.same x y then [] else [f.item x y]) ++ changeList fs x y := by
  by_cases h : f.same x y <;> simp [changeList, h]

/-- A change list is empty exactly when the records agree on every field of the table. -/
theorem changeList_eq_nil_iff : changeList fs x y = [] ↔ ∀ f ∈ fs, f.same x y = true := by
  simp [changeList, List.filter_eq_nil_iff]

end ChangeList

/-- The fields of an account that a change line reports, in the order it lists them. -/
def AccountDraft.fields : List (ChangeField AccountDraft) :=
  [⟨"uid", fun d e => d.uid == e.uid, some fun d => toString d.uid⟩,
   ⟨"username", fun d e => d.username == e.username, some (·.username)⟩,
   ⟨"type", fun d e => d.type == e.type, some (·.type.name)⟩,
   ⟨"primary group", fun d e => d.primaryGroup == e.primaryGroup,
     some fun d => (d.primaryGroup.map toString).getD "none"⟩,
   ⟨"first name", fun d e => d.firstName == e.firstName, some (·.firstName.getD "none")⟩,
   ⟨"last name", fun d e => d.lastName == e.lastName, some (·.lastName.getD "none")⟩]

/-- The fields of a group that a change line reports, in the order it lists them; the
description is reported by name only. -/
def GroupDraft.fields : List (ChangeField GroupDraft) :=
  [⟨"gid", fun d e => d.gid == e.gid, some fun d => toString d.gid⟩,
   ⟨"groupname", fun d e => d.groupname == e.groupname, some (·.groupname)⟩,
   ⟨"type", fun d e => d.type == e.type, some (·.type.name)⟩,
   ⟨"description", fun d e => d.description == e.description, none⟩]

/-- The account fields cover the whole draft: two drafts agree on every field exactly when they
are equal. -/
theorem AccountDraft.fields_same_iff {d e : AccountDraft} :
    (∀ f ∈ AccountDraft.fields, f.same d e = true) ↔ d = e := by
  obtain ⟨uid, username, type, group, first, last⟩ := d
  obtain ⟨uid', username', type', group', first', last'⟩ := e
  simp [AccountDraft.fields]

/-- The group fields cover a group's draft but its creator, which a change keeps. -/
theorem GroupDraft.fields_same_iff {d e : GroupDraft} (hc : d.createdBy = e.createdBy) :
    (∀ f ∈ GroupDraft.fields, f.same d e = true) ↔ d = e := by
  obtain ⟨gid, groupname, type, description, creator⟩ := d
  obtain ⟨gid', groupname', type', description', creator'⟩ := e
  simp only at hc
  subst hc
  simp [GroupDraft.fields]

namespace Service

theorem showOpt_eq_getD (x : Option String) : showOpt x = x.getD "none" := by
  cases x <;> rfl

/-- A test of `!=` reads as the test of `==` with its branches swapped. -/
theorem ite_bne {α β : Type} [BEq α] (x y : α) (p q : List β) :
    (if (x != y) = true then p else q) = if (x == y) = true then q else p := by
  cases h : x == y <;> simp [bne, h]

/-- **The account change list is the rule over the account fields.** -/
theorem accountChanges_eq (a : Account) (d : AccountDraft) :
    accountChanges a d = changeList AccountDraft.fields a.draft d := by
  simp only [accountChanges, AccountDraft.fields, changeList_cons, showOpt_eq_getD, ite_bne,
    changeList_nil, List.append_assoc, List.append_nil]
  -- field by field, both sides test the same values and write the same item
  rfl

/-- **The group change list is the rule over the group fields.** -/
theorem groupChanges_eq (g : Group) (d : GroupDraft) :
    groupChanges g d = changeList GroupDraft.fields g.draft d := by
  simp only [groupChanges, GroupDraft.fields, changeList_cons, ite_bne, changeList_nil,
    List.append_assoc, List.append_nil]
  rfl

/-- The audit line of an account change: the head alone when the draft is the account's own,
and otherwise the head with the change list in parentheses. -/
theorem changeLine_accountChanges (head : String) (a : Account) (d : AccountDraft) :
    changeLine head (accountChanges a d) = if a.draft = d then head
      else head ++ " (" ++ ", ".intercalate (changeList AccountDraft.fields a.draft d) ++ ")" := by
  have hnil : changeList AccountDraft.fields a.draft d = [] ↔ a.draft = d :=
    changeList_eq_nil_iff.trans AccountDraft.fields_same_iff
  simp only [changeLine, accountChanges_eq, List.isEmpty_iff, hnil]

example : changeLine "Updated account alice with UID 1600" (changeList AccountDraft.fields
    ⟨1500, "alice", .people, none, none, none⟩ ⟨1600, "alice", .people, none, some "Alice", none⟩) =
      "Updated account alice with UID 1600 (uid 1500 -> 1600, first name none -> Alice)" := by
  decide +kernel

/-- The audit line of a group change that keeps the creator: the head alone when the draft is
the group's own, and otherwise the head with the change list in parentheses. -/
theorem changeLine_groupChanges (head : String) (g : Group) (d : GroupDraft)
    (hc : g.createdBy = d.createdBy) :
    changeLine head (groupChanges g d) = if g.draft = d then head
      else head ++ " (" ++ ", ".intercalate (changeList GroupDraft.fields g.draft d) ++ ")" := by
  have hnil : changeList GroupDraft.fields g.draft d = [] ↔ g.draft = d :=
    changeList_eq_nil_iff.trans (GroupDraft.fields_same_iff hc)
  simp only [changeLine, groupChanges_eq, List.isEmpty_iff, hnil]

/-- **An account with a change merged in**: a given user id, username and type replace the old
ones, a first or last name is set but never cleared, and clearing the primary group wins over
setting one; the id and the deletion mark stay. -/
theorem AccountChange.withDraft_merge (a : Account) (req : AccountChange) (type : IdentityType) :
    a.withDraft (AccountChange.merge a req type) =
      { a with uid := req.uid.getD a.uid, username := req.username.getD a.username, type,
               primaryGroup := if req.clearPrimaryGroup then none
                 else req.primaryGroup.or a.primaryGroup,
               firstName := req.firstName.or a.firstName,
               lastName := req.lastName.or a.lastName } := by
  obtain ⟨uid, username, type', group, clear, first, last⟩ := req
  cases group <;> cases first <;> cases last <;> rfl

end Service

/-! ### The rows an update stores -/

namespace Tables

variable {t : Tables}

/-- In rows split around one that is live with an id, after rows none of which is, the first
live row with the id is that one. -/
theorem find?_live_split {α : Type} {id : α → Int} {deleted : α → Bool} {i : Int}
    {l₁ l₂ : List α} {x : α} (hl₁ : ∀ y ∈ l₁, (id y == i && !deleted y) = false)
    (hx : (id x == i && !deleted x) = true) :
    ((l₁ ++ x :: l₂).filter (!deleted ·)).find? (id · == i) = some x := by
  have hbefore : (l₁.filter (!deleted ·)).find? (id · == i) = none := by
    rw [List.find?_eq_none]
    intro y hy
    obtain ⟨hy, hlive⟩ := List.mem_filter.mp hy
    have := hl₁ y hy
    simp_all
  simp only [Bool.and_eq_true] at hx
  simp [List.filter_append, List.find?_append, hbefore, hx]

/-- Once the first live account with an id is replaced by a live row with that id, a lookup of
the id finds the new row: no live row before it has the id. -/
theorem account?_replaced {b : Account} {l : List Account}
    (h : replaceFirst (fun x => x.id == b.id && !x.deleted) (fun _ => b) t.accounts = some l)
    (hb : b.deleted = false) : ({ t with accounts := l } : Tables).account? b.id = some b := by
  obtain ⟨l₁, x, l₂, -, hl₁, -, rfl⟩ := replaceFirst_eq_some_iff.mp h
  exact find?_live_split hl₁ (by simp [hb])

/-- Once the first live group with an id is replaced by a live row with that id, a lookup of the
id finds the new row. -/
theorem group?_replaced {g : Group} {l : List Group}
    (h : replaceFirst (fun x => x.id == g.id && !x.deleted) (fun _ => g) t.groups = some l)
    (hg : g.deleted = false) : ({ t with groups := l } : Tables).group? g.id = some g := by
  obtain ⟨l₁, x, l₂, -, hl₁, -, rfl⟩ := replaceFirst_eq_some_iff.mp h
  exact find?_live_split hl₁ (by simp [hg])

end Tables

namespace Registry

variable {r r' : Registry} {n : AuditNote}

/-- An audited update of an account stores the new row under its id and appends the audit
entry. -/
theorem Wrote.account?_updated {b : Account} (hw : r.Wrote r' (.updateAccount b) n)
    (hb : b.deleted = false) :
    r'.tables.account? b.id = some b ∧ r'.tables.audit = r.tables.audit ++ [n.entry r'.lastId r'.clock] := by
  obtain ⟨t₁, h₁, ht⟩ := hw.tables
  obtain ⟨-, l, hl, rfl⟩ := Tables.apply_updateAccount_eq_ok.mp h₁
  rw [ht]
  exact ⟨Tables.account?_replaced hl hb, rfl⟩

/-- An audited update of a group stores the new row under its id and appends the audit entry. -/
theorem Wrote.group?_updated {g : Group} (hw : r.Wrote r' (.updateGroup g) n)
    (hg : g.deleted = false) :
    r'.tables.group? g.id = some g ∧ r'.tables.audit = r.tables.audit ++ [n.entry r'.lastId r'.clock] := by
  obtain ⟨t₁, h₁, ht⟩ := hw.tables
  obtain ⟨-, l, hl, rfl⟩ := Tables.apply_updateGroup_eq_ok.mp h₁
  rw [ht]
  exact ⟨Tables.group?_replaced hl hg, rfl⟩

/-- What a successful change of the account with the id did to `r`, leaving `r'`: it found the
live account `a`, read the new type if one was given, returned `b`, which is `a` with the change
merged in, stored `b` under the id, and appended one audit entry, whose line is the head followed,
exactly when a field changed, by the change list in parentheses. -/
def AccountChanged (r r' : Registry) (id : Int) (req : AccountChange) (b : Account) : Prop :=
  ∃ a type, r.tables.account? id = some a ∧ (req.type = none → type = a.type) ∧
    (∀ s, req.type = some s → IdentityType.parse s = some type) ∧
    b = { a with uid := req.uid.getD a.uid, username := req.username.getD a.username, type,
                 primaryGroup := if req.clearPrimaryGroup then none
                   else req.primaryGroup.or a.primaryGroup,
                 firstName := req.firstName.or a.firstName,
                 lastName := req.lastName.or a.lastName } ∧
    r'.tables.account? id = some b ∧
    ∃ e, r'.tables.audit = r.tables.audit ++ [e] ∧
      e.details = if a.draft = b.draft then s!"Updated account {b.username} with UID {b.uid}"
        else s!"Updated account {b.username} with UID {b.uid}" ++ " (" ++
          ", ".intercalate (changeList AccountDraft.fields a.draft b.draft) ++ ")"

/-- What a successful change of the group with the id did to `r`, leaving `r'`: it found the live
group `g`, read the new type if one was given, returned `h`, which is `g` with the given group id,
name, type and description in place of its own and its creator kept, stored `h` under the id,
and appended one audit entry, whose line is the head followed, exactly when a field changed, by
the change list in parentheses. -/
def GroupChanged (r r' : Registry) (id : Int) (req : GroupChange) (h : Group) : Prop :=
  ∃ g type, r.tables.group? id = some g ∧ (req.type = none → type = g.type) ∧
    (∀ s, req.type = some s → IdentityType.parse s = some type) ∧
    h = { g with gid := req.gid.getD g.gid, groupname := req.groupname.getD g.groupname, type,
                 description := req.description.getD g.description } ∧
    r'.tables.group? id = some h ∧
    ∃ e, r'.tables.audit = r.tables.audit ++ [e] ∧
      e.details = if g.draft = h.draft then s!"Updated group {h.groupname} with GID {h.gid}"
        else s!"Updated group {h.groupname} with GID {h.gid}" ++ " (" ++
          ", ".intercalate (changeList GroupDraft.fields g.draft h.draft) ++ ")"

end Registry

/-! ### Changes -/

namespace Service

/-- The type a change ends with: the account's own when none is given, else the one read. -/
theorem type_of_elim {old type : IdentityType} {given : Option String}
    (h : given.elim (some old) IdentityType.parse = some type) :
    (given = none → type = old) ∧ ∀ s, given = some s → IdentityType.parse s = some type := by
  cases given with
  | none => exact ⟨fun _ => (Option.some.inj h).symm, nofun⟩
  | some s => exact ⟨nofun, fun s' hs => Option.some.inj hs ▸ h⟩

/-- A change of an account that succeeds did what `AccountChanged` says; one that is refused
leaves the tables. -/
theorem updateAccount_changed (p : RangePolicy) (id : Int) (req : AccountChange) (actor : Actor)
    (r : Registry) :
    match (updateAccount p id req actor).run.run r with
    | (.ok v, r') => r.AccountChanged r' id req v.record
    | (.error _, r') => r.RolledBack r' := by
  have hrun := run_of_triple (updateAccount_spec p id req actor r) (r := r) rfl
  generalize (updateAccount p id req actor).run.run r = o at hrun ⊢
  rcases o with ⟨_ | v, r'⟩
  · exact hrun
  · obtain ⟨-, a, ha, type, htype, hrec, -, -, -, -, -, hw⟩ := hrun
    obtain ⟨hlive, rfl⟩ := Tables.account?_eq_some ha
    have hb : v.record.deleted = false := by
      simp [hrec, (Tables.mem_liveAccounts.mp hlive).2]
    obtain ⟨hstored, haudit⟩ := hw.account?_updated hb
    obtain ⟨hnone, hsome⟩ := type_of_elim htype
    refine ⟨a, type, ha, hnone, hsome, hrec.trans (AccountChange.withDraft_merge a req type),
      by simpa [hrec] using hstored, _, haudit, ?_⟩
    -- the line the service wrote is the change line of the merged draft
    have hdraft : v.record.draft = AccountChange.merge a req type := by rw [hrec]; rfl
    rw [AuditNote.entry, hdraft]
    exact changeLine_accountChanges _ a _

/-- A change of a group that succeeds did what `GroupChanged` says; one that is refused leaves
the tables. -/
theorem updateGroup_changed (p : RangePolicy) (id : Int) (req : GroupChange) (actor : Actor)
    (r : Registry) :
    match (updateGroup p id req actor).run.run r with
    | (.ok v, r') => r.GroupChanged r' id req v.record
    | (.error _, r') => r.RolledBack r' := by
  have hrun := run_of_triple (updateGroup_spec p id req actor r) (r := r) rfl
  generalize (updateGroup p id req actor).run.run r = o at hrun ⊢
  rcases o with ⟨_ | v, r'⟩
  · exact hrun
  · obtain ⟨-, g, hg, type, htype, hrec, -, -, -, -, -, hw⟩ := hrun
    obtain ⟨hlive, rfl⟩ := Tables.group?_eq_some hg
    have hd : v.record.deleted = false := by
      simp [hrec, (Tables.mem_liveGroups.mp hlive).2]
    obtain ⟨hstored, haudit⟩ := hw.group?_updated hd
    obtain ⟨hnone, hsome⟩ := type_of_elim htype
    refine ⟨g, type, hg, hnone, hsome, hrec, by simpa [hrec] using hstored, _, haudit, ?_⟩
    have hdraft : v.record.draft = ⟨req.gid.getD g.gid, req.groupname.getD g.groupname, type,
        req.description.getD g.description, g.createdBy⟩ := by rw [hrec]; rfl
    rw [AuditNote.entry, hdraft]
    exact changeLine_groupChanges _ g _ rfl

end Service

/-- **Changes merge, and their audit lines list what changed.**  On every registry, a change of
an account that succeeds returns and stores under its id the account with the change merged in
(a given user id, username or type replaces the old one, a name is set but never cleared,
clearing the primary group wins over setting one) and appends one audit entry, whose line is
`Updated account <username> with UID <uid>` followed, exactly when a field's value changed, by
` (`, the items `<field> <old> -> <new>` of exactly the changed fields in the order uid,
username, type, primary group, first name, last name, joined by `, `, and `)`.  A change of a
group does the same with group id, name, type and description, the description listed by name
only, and keeps the group's creator.  A refused change leaves the tables. -/
theorem updates_merge_and_list_changes (r : Registry) (p : RangePolicy) (id : Int)
    (actor : Actor) :
    (∀ req, match (Service.updateAccount p id req actor).run.run r with
      | (.ok v, r') => r.AccountChanged r' id req v.record
      | (.error _, r') => r.RolledBack r') ∧
    ∀ req, match (Service.updateGroup p id req actor).run.run r with
      | (.ok v, r') => r.GroupChanged r' id req v.record
      | (.error _, r') => r.RolledBack r' :=
  ⟨fun req => Service.updateAccount_changed p id req actor r,
    fun req => Service.updateGroup_changed p id req actor r⟩

end PosixRegistry
