import PosixRegistry.Proofs.Store.Rows

/-!
# Store — transactions and commit

A transaction writes on its working copy and records each write that goes through; a refused
write leaves it as it was (`Txn.write_eq_ok`, `Txn.write_eq_error`).  `Txn.Replays t x` says
that the recorded writes, replayed on `t`, give the working copy: a transaction begun on `t`
satisfies it, and every write keeps it (`Txn.Replays.write`).  So when nothing was committed
in between, **commit reproduces the working copy** (`Txn.Replays.commit`).

**Commit is all or nothing** (`Registry.commit_eq_ok`, `Registry.commit_eq_error_iff`): it
either keeps the tables that the whole log leaves, or refuses with the error of the first
recorded write that fails on the tables the writes before it leave, and produces no registry.
-/

namespace PosixRegistry

/-! ### Rows made from drafts -/

/-- The account a draft becomes under a record id. -/
def AccountDraft.toAccount (d : AccountDraft) (id : Int) : Account :=
  { id, uid := d.uid, username := d.username, type := d.type, primaryGroup := d.primaryGroup,
    firstName := d.firstName, lastName := d.lastName }

/-- The group a draft becomes under a record id. -/
def GroupDraft.toGroup (d : GroupDraft) (id : Int) : Group :=
  { id, gid := d.gid, groupname := d.groupname, type := d.type, description := d.description,
    createdBy := d.createdBy }

namespace AccountDraft

variable (d : AccountDraft) (i : Int)

@[simp] theorem toAccount_id : (d.toAccount i).id = i := rfl
@[simp] theorem toAccount_uid : (d.toAccount i).uid = d.uid := rfl
@[simp] theorem toAccount_username : (d.toAccount i).username = d.username := rfl
@[simp] theorem toAccount_type : (d.toAccount i).type = d.type := rfl
@[simp] theorem toAccount_primaryGroup : (d.toAccount i).primaryGroup = d.primaryGroup := rfl
@[simp] theorem toAccount_deleted : (d.toAccount i).deleted = false := rfl

end AccountDraft

namespace GroupDraft

variable (d : GroupDraft) (i : Int)

@[simp] theorem toGroup_id : (d.toGroup i).id = i := rfl
@[simp] theorem toGroup_gid : (d.toGroup i).gid = d.gid := rfl
@[simp] theorem toGroup_groupname : (d.toGroup i).groupname = d.groupname := rfl
@[simp] theorem toGroup_type : (d.toGroup i).type = d.type := rfl
@[simp] theorem toGroup_deleted : (d.toGroup i).deleted = false := rfl

end GroupDraft

/-! ### Transaction steps -/

namespace Txn

variable {x x' : Txn} {w : Write} {t : Tables}

theorem write_eq_ok : x.write w = .ok x' ↔ ∃ t₁, x.working.apply w = .ok t₁ ∧ x' = ⟨t₁, x.log ++ [w]⟩ := by
  unfold write
  cases x.working.apply w <;> simp [Except.map, eq_comm]

theorem write_eq_error {e : RegistryError} : x.write w = .error e ↔ x.working.apply w = .error e := by
  unfold write
  cases x.working.apply w <;> simp [Except.map]

/-- The transaction steps return a write's transaction along with the row they wrote. -/
theorem write_map_eq_ok {β : Type} {f : Txn → β} {b : β} :
    (x.write w).map f = .ok b ↔ ∃ t₁, x.working.apply w = .ok t₁ ∧ b = f ⟨t₁, x.log ++ [w]⟩ := by
  unfold write
  cases x.working.apply w <;> simp [Except.map, eq_comm]

theorem write_map_eq_error {β : Type} {f : Txn → β} {e : RegistryError} :
    (x.write w).map f = .error e ↔ x.working.apply w = .error e := by
  unfold write
  cases x.working.apply w <;> simp [Except.map]

theorem updateAccount_eq_ok {id : Int} {d : AccountDraft} {p : Account × Txn} :
    x.updateAccount id d = .ok p ↔ ∃ a, x.working.account? id = some a ∧
      ∃ t₁, x.working.apply (.updateAccount (a.withDraft d)) = .ok t₁ ∧
        p = (a.withDraft d, ⟨t₁, x.log ++ [.updateAccount (a.withDraft d)]⟩) := by
  unfold updateAccount
  cases x.working.account? id <;> simp [write_map_eq_ok]

theorem updateGroup_eq_ok {id : Int} {d : GroupDraft} {p : Group × Txn} :
    x.updateGroup id d = .ok p ↔ ∃ g, x.working.group? id = some g ∧
      ∃ t₁, x.working.apply (.updateGroup (g.withDraft d)) = .ok t₁ ∧
        p = (g.withDraft d, ⟨t₁, x.log ++ [.updateGroup (g.withDraft d)]⟩) := by
  unfold updateGroup
  cases x.working.group? id <;> simp [write_map_eq_ok]

/-- Removing a membership never fails; it writes only when the pair is there. -/
theorem deleteMembership_eq {a g : Int} :
    x.deleteMembership a g = .ok (x.working.isMember a g,
      if x.working.isMember a g then
        ⟨{ x.working with
            memberships := x.working.memberships.filter fun m => !(m.account == a && m.group == g) },
          x.log ++ [.deleteMembership a g]⟩
      else x) := by
  unfold deleteMembership
  cases x.working.isMember a g <;> rfl

/-- Inserting draws the next id and writes the draft's row under it. -/
theorem insertAccount_eq {r : Registry} {d : AccountDraft} :
    insertAccount r x d = (r.draw.2, (x.write (.insertAccount (d.toAccount (r.lastId + 1)))).map
      fun x' => (d.toAccount (r.lastId + 1), x')) := rfl

theorem insertGroup_eq {r : Registry} {d : GroupDraft} :
    insertGroup r x d = (r.draw.2, (x.write (.insertGroup (d.toGroup (r.lastId + 1)))).map
      fun x' => (d.toGroup (r.lastId + 1), x')) := rfl

/-- The recorded writes of `x`, replayed on `t`, give its working copy. -/
def Replays (t : Tables) (x : Txn) : Prop := t.replay x.log = .ok x.working

theorem Replays.write (h : x.Replays t) (hw : x.write w = .ok x') : x'.Replays t := by
  obtain ⟨t₁, h₁, rfl⟩ := write_eq_ok.mp hw
  unfold Replays at h ⊢
  rw [Tables.replay_append, h]
  simp [bind, Except.bind, Tables.replay_cons, h₁]

end Txn

namespace Registry

variable {r r' : Registry} {x : Txn}

theorem begin_replays : r.begin.Replays r.tables := rfl

@[simp] theorem begin_working : r.begin.working = r.tables := rfl

@[simp] theorem begin_log : r.begin.log = [] := rfl

@[simp] theorem draw_fst : r.draw.1 = r.lastId + 1 := rfl

@[simp] theorem draw_snd : r.draw.2 = { r with lastId := r.lastId + 1 } := rfl

/-- A commit that goes through keeps the tables the whole log leaves, and nothing else. -/
theorem commit_eq_ok : r.commit x = .ok r' ↔
    ∃ t', r.tables.replay x.log = .ok t' ∧ r' = { r with tables := t' } := by
  unfold commit
  cases r.tables.replay x.log <;> simp [Except.map, eq_comm]

theorem commit_eq_error {e : RegistryError} : r.commit x = .error e ↔ r.tables.replay x.log = .error e := by
  unfold commit
  cases r.tables.replay x.log <;> simp [Except.map]

/-- **A refused commit is refused by the first conflicting write**: the writes recorded
before it all go through on the current tables, and it fails on what they leave. -/
theorem commit_eq_error_iff {e : RegistryError} : r.commit x = .error e ↔
    ∃ l₁ w l₂ t₁, x.log = l₁ ++ w :: l₂ ∧ r.tables.replay l₁ = .ok t₁ ∧ t₁.apply w = .error e :=
  commit_eq_error.trans Tables.replay_eq_error_iff

end Registry

/-- With no commit in between, a commit reproduces the working copy. -/
theorem Txn.Replays.commit {r : Registry} {x : Txn} (h : x.Replays r.tables) :
    r.commit x = .ok { r with tables := x.working } :=
  Registry.commit_eq_ok.mpr ⟨x.working, h, rfl⟩

end PosixRegistry
