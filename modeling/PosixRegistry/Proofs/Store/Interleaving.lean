import PosixRegistry.Proofs.Store.Constraints
import PosixRegistry.Proofs.Store.Transaction

/-!
# Store — transactions interleaved

Any number of transactions may be open on one registry at once, each on its own snapshot of
the tables: a transaction begins on a copy, checks and logs its writes there, draws ids from
the one shared sequence, and at commit replays its log against the tables as they are then.  A
`Pool` is the shared registry with the transactions open on it; `Pool.Step` is one move of one
transaction, in any order, labelled with the ids it drew.  A schedule (`Pool.runMoves`) names
the moves by the positions of the transactions that make them, and every schedule runs as such
an interleaving (`Pool.steps_runMoves`).

**Every interleaving keeps the constraints** (`interleaved_transactions_constrained`): from the
empty store, whatever the order of begins, operations, commits and drops, the shared tables
satisfy the store's constraints, every commit applies its whole log or none of it, and no id is
handed out twice, rolled-back transactions included.

A transaction's snapshot may be stale by the time it commits, so nothing it checked on the
snapshot can be relied on; the replay checks every write again.  What makes that enough is that
the rows a log inserts carry ids no other row or log has (`Pool.Sound`): the shared sequence
hands each id out once, so an insert's id is fresh at whatever moment it is replayed.
-/

namespace PosixRegistry

/-- One operation of an open transaction, as the store offers them. -/
inductive TxnOp where
  | insertAccount (d : AccountDraft)
  | updateAccount (id : Int) (d : AccountDraft)
  | deleteAccount (id : Int)
  | insertGroup (d : GroupDraft)
  | updateGroup (id : Int) (d : GroupDraft)
  | deleteGroup (id : Int)
  | insertMembership (m : Membership)
  | deleteMembership (account group : Int)
  | appendAudit (n : AuditNote)

namespace TxnOp

/-- Runs an operation of a transaction over the shared registry: the registry after (ids drawn
stay drawn) and the transaction after, or the refusal. -/
def run : TxnOp → Registry → Txn → Registry × Except RegistryError Txn
  | insertAccount d, r, x => ((Txn.insertAccount r x d).1, (Txn.insertAccount r x d).2.map (·.2))
  | updateAccount id d, r, x => (r, (x.updateAccount id d).map (·.2))
  | deleteAccount id, r, x => (r, x.write (.deleteAccount id))
  | insertGroup d, r, x => ((Txn.insertGroup r x d).1, (Txn.insertGroup r x d).2.map (·.2))
  | updateGroup id d, r, x => (r, (x.updateGroup id d).map (·.2))
  | deleteGroup id, r, x => (r, x.write (.deleteGroup id))
  | insertMembership m, r, x => (r, x.write (.insertMembership m))
  | deleteMembership account group, r, x => (r, (x.deleteMembership account group).map (·.2))
  | appendAudit n, r, x => ((Txn.appendAudit r x n).1, (Txn.appendAudit r x n).2.map (·.2))

/-- The ids an operation draws from the shared sequence: inserts draw one, and so does an audit
append unless audit appends are failing. -/
def drawn : TxnOp → Registry → List Int
  | insertAccount _, r | insertGroup _, r => [r.lastId + 1]
  | appendAudit _, r => if r.failAudit then [] else [r.lastId + 1]
  | _, _ => []

/-- The transaction an operation leaves: the one it returns, or the same one when refused. -/
def txnAfter (op : TxnOp) (r : Registry) (x : Txn) : Txn :=
  match (op.run r x).2 with
  | .ok x' => x'
  | .error _ => x

variable (op : TxnOp) (r : Registry) (x : Txn)

/-- An operation changes the shared registry only by the ids it draws. -/
theorem run_registry : (op.run r x).1 = { r with lastId := r.lastId + (op.drawn r).length } := by
  cases op with
  | insertAccount | insertGroup => rfl
  | appendAudit n =>
    obtain ⟨tables, lastId, fail, clock⟩ := r
    cases fail <;> simp [run, drawn, Txn.appendAudit, Registry.draw]
  | updateAccount | deleteAccount | updateGroup | deleteGroup | insertMembership
  | deleteMembership => simp [run, drawn]

/-- An operation draws no id, or the next one. -/
theorem drawn_eq : op.drawn r = [] ∨ op.drawn r = [r.lastId + 1] := by
  cases op with
  | insertAccount | insertGroup => exact .inr rfl
  | appendAudit n =>
    simp only [drawn]
    cases r.failAudit <;> simp
  | updateAccount | deleteAccount | updateGroup | deleteGroup | insertMembership
  | deleteMembership => exact .inl rfl

theorem map_snd_pair {α : Type} {e : Except RegistryError Txn} {a : α} :
    (e.map fun x' => (a, x')).map (·.2) = e := by
  cases e <;> rfl

/-- After a write, the transaction logs it, or is as it was. -/
theorem log_after_write {w : Write} :
    (match x.write w with | .ok x' => x' | .error _ => x).log = x.log ∨
      (match x.write w with | .ok x' => x' | .error _ => x).log = x.log ++ [w] := by
  cases h : x.write w with
  | error => exact .inl rfl
  | ok x' =>
    obtain ⟨t₁, -, rfl⟩ := Txn.write_eq_ok.mp h
    exact .inr rfl

/-- An operation logs at most one write, and a row it inserts takes an id it drew. -/
theorem txnAfter_log : (op.txnAfter r x).log = x.log ∨
    ∃ w, (op.txnAfter r x).log = x.log ++ [w] ∧
      ∀ i ∈ w.newAccountIds ++ w.newGroupIds, i ∈ op.drawn r := by
  unfold txnAfter
  cases op with
  | insertAccount d =>
    simp only [run, Txn.insertAccount_eq, map_snd_pair]
    refine (log_after_write x).imp_right fun h => ⟨_, h, ?_⟩
    simp [Write.newAccountIds, Write.newGroupIds, drawn]
  | insertGroup d =>
    simp only [run, Txn.insertGroup_eq, map_snd_pair]
    refine (log_after_write x).imp_right fun h => ⟨_, h, ?_⟩
    simp [Write.newAccountIds, Write.newGroupIds, drawn]
  | deleteAccount | deleteGroup | insertMembership =>
    refine (log_after_write x).imp_right fun h => ⟨_, h, ?_⟩
    simp [Write.newAccountIds, Write.newGroupIds]
  | updateAccount id d =>
    simp only [run]
    cases h : x.updateAccount id d with
    | error => exact .inl rfl
    | ok p =>
      obtain ⟨a, -, t₁, -, rfl⟩ := Txn.updateAccount_eq_ok.mp h
      exact .inr ⟨_, rfl, by simp [Write.newAccountIds, Write.newGroupIds]⟩
  | updateGroup id d =>
    simp only [run]
    cases h : x.updateGroup id d with
    | error => exact .inl rfl
    | ok p =>
      obtain ⟨g, -, t₁, -, rfl⟩ := Txn.updateGroup_eq_ok.mp h
      exact .inr ⟨_, rfl, by simp [Write.newAccountIds, Write.newGroupIds]⟩
  | deleteMembership account group =>
    simp only [run, Txn.deleteMembership_eq]
    cases x.working.isMember account group
    · exact .inl rfl
    · exact .inr ⟨_, rfl, by simp [Write.newAccountIds, Write.newGroupIds]⟩
  | appendAudit n =>
    simp only [run, Txn.appendAudit]
    cases r.failAudit
    · simp only [Bool.false_eq_true, ↓reduceIte, map_snd_pair]
      refine (log_after_write x (w := .audit (n.entry r.draw.1 r.clock))).imp_right fun h => ⟨_, h, ?_⟩
      simp [Write.newAccountIds, Write.newGroupIds]
    · exact .inl rfl

end TxnOp

/-- A registry shared by the transactions open on it. -/
structure Pool where
  registry : Registry
  txns : List Txn

/-- The empty store, with no transaction open. -/
def Pool.empty : Pool := ⟨{}, []⟩

/-- One move of one transaction, labelled with the ids it drew. -/
inductive Pool.Step : Pool → List Int → Pool → Prop
  /-- A transaction begins on a snapshot of the shared tables. -/
  | begin (r : Registry) (txns : List Txn) : Step ⟨r, txns⟩ [] ⟨r, txns ++ [r.begin]⟩
  /-- An open transaction runs an operation; the ids it draws stay drawn whatever happens. -/
  | run (r : Registry) (l₁ l₂ : List Txn) (x : Txn) (op : TxnOp) :
      Step ⟨r, l₁ ++ x :: l₂⟩ (op.drawn r) ⟨(op.run r x).1, l₁ ++ op.txnAfter r x :: l₂⟩
  /-- An open transaction commits and closes: the shared registry becomes the commit's, or
  stays as it was when the commit is refused. -/
  | commit (r : Registry) (l₁ l₂ : List Txn) (x : Txn) :
      Step ⟨r, l₁ ++ x :: l₂⟩ []
        ⟨match r.commit x with | .ok r' => r' | .error _ => r, l₁ ++ l₂⟩
  /-- An open transaction is dropped, and its writes with it. -/
  | drop (r : Registry) (l₁ l₂ : List Txn) (x : Txn) : Step ⟨r, l₁ ++ x :: l₂⟩ [] ⟨r, l₁ ++ l₂⟩
  /-- Audit appends are switched on or off. -/
  | switchAudit (r : Registry) (txns : List Txn) (fail : Bool) :
      Step ⟨r, txns⟩ [] ⟨{ r with failAudit := fail }, txns⟩

/-- Moves in sequence, with the ids drawn along the way. -/
inductive Pool.Steps : Pool → List Int → Pool → Prop
  | refl (p : Pool) : Steps p [] p
  | tail {p q q' : Pool} {l l' : List Int} (h : Steps p l q) (hs : Step q l' q') :
      Steps p (l ++ l') q'

namespace Pool

/-- A move before a run of moves makes a run. -/
theorem Steps.head {p q q' : Pool} {l l' : List Int} (hs : Step p l q) (h : Steps q l' q') :
    Steps p (l ++ l') q' := by
  induction h with
  | refl => simpa using Steps.tail (.refl p) hs
  | tail _ hs' ih =>
    rw [← List.append_assoc]
    exact ih.tail hs'

/-! ### Schedules

A schedule names each move by the position, among the transactions open, of the one that makes
it; running it plays the moves in turn and skips a move that names no open transaction.  Every
run of a schedule is an interleaving (`steps_runMoves`), so what is proved of interleavings holds
of it. -/

/-- A move of a schedule. -/
inductive Move where
  | begin
  | run (i : Nat) (op : TxnOp)
  | commit (i : Nat)
  | drop (i : Nat)
  | switchAudit (fail : Bool)

/-- The open transaction at position `i`, with those opened before it and after it. -/
def pick (p : Pool) (i : Nat) : Option (List Txn × Txn × List Txn) :=
  match p.txns.drop i with
  | x :: l₂ => some (p.txns.take i, x, l₂)
  | [] => none

theorem pick_eq_some {p : Pool} {i : Nat} {l₁ l₂ : List Txn} {x : Txn}
    (h : p.pick i = some (l₁, x, l₂)) : p.txns = l₁ ++ x :: l₂ := by
  unfold pick at h
  split at h
  · next x' l₂' hdrop =>
    cases h
    rw [← hdrop, List.take_append_drop]
  · cases h

/-- A move that names an open transaction splits the open ones around it. -/
theorem map_pick_eq_some {β : Type} {p : Pool} {i : Nat} {f : List Txn × Txn × List Txn → β}
    {b : β} (h : (p.pick i).map f = some b) :
    ∃ l₁ x l₂, p.txns = l₁ ++ x :: l₂ ∧ f (l₁, x, l₂) = b := by
  obtain ⟨⟨l₁, x, l₂⟩, hpick, hf⟩ := Option.map_eq_some_iff.mp h
  exact ⟨l₁, x, l₂, pick_eq_some hpick, hf⟩

/-- Plays one move, with the ids it draws; none when it names no open transaction. -/
def play (p : Pool) : Move → Option (List Int × Pool)
  | .begin => some ([], ⟨p.registry, p.txns ++ [p.registry.begin]⟩)
  | .run i op => (p.pick i).map fun (l₁, x, l₂) =>
      (op.drawn p.registry, ⟨(op.run p.registry x).1, l₁ ++ op.txnAfter p.registry x :: l₂⟩)
  | .commit i => (p.pick i).map fun (l₁, x, l₂) =>
      ([], ⟨match p.registry.commit x with | .ok r' => r' | .error _ => p.registry, l₁ ++ l₂⟩)
  | .drop i => (p.pick i).map fun (l₁, _, l₂) => ([], ⟨p.registry, l₁ ++ l₂⟩)
  | .switchAudit fail => some ([], ⟨{ p.registry with failAudit := fail }, p.txns⟩)

/-- A move that a schedule plays is a move of the pool. -/
theorem play_step {p p' : Pool} {l : List Int} {m : Move} (h : p.play m = some (l, p')) :
    Step p l p' := by
  obtain ⟨r, txns⟩ := p
  cases m with
  | begin =>
    cases h
    exact .begin r txns
  | switchAudit fail =>
    cases h
    exact .switchAudit r txns fail
  | run i op =>
    obtain ⟨l₁, x, l₂, rfl, hplay⟩ := map_pick_eq_some h
    cases hplay
    exact .run r l₁ l₂ x op
  | commit i =>
    obtain ⟨l₁, x, l₂, rfl, hplay⟩ := map_pick_eq_some h
    cases hplay
    exact .commit r l₁ l₂ x
  | drop i =>
    obtain ⟨l₁, x, l₂, rfl, hplay⟩ := map_pick_eq_some h
    cases hplay
    exact .drop r l₁ l₂ x

/-- Plays a schedule's moves in turn, with the ids drawn along the way. -/
def runMoves : Pool → List Move → List Int × Pool
  | p, [] => ([], p)
  | p, m :: ms =>
    match p.play m with
    | some (l, p') => (l ++ (p'.runMoves ms).1, (p'.runMoves ms).2)
    | none => p.runMoves ms

/-- **Every schedule runs as an interleaving.** -/
theorem steps_runMoves (p : Pool) (ms : List Move) :
    Steps p (p.runMoves ms).1 (p.runMoves ms).2 := by
  fun_induction runMoves p ms with
  | case1 p => exact .refl p
  | case2 p m ms l p' hplay ih => exact Steps.head (play_step hplay) ih
  | case3 p m ms hnone ih => exact ih

/-! ### Keys stored or waiting in a log

The rows of one kind carry keys — the account ids, or the group ids — and the keys of a pool
are those of the rows stored together with those the open logs insert.  Both kinds are handled
by one definition over the key of a stored table and the keys a write inserts. -/

section Keys

variable (stored : Tables → List Int) (inserted : Write → List Int)

/-- The keys of the stored rows, then those the open transactions' logs insert. -/
def keys (p : Pool) : List Int :=
  stored p.registry.tables ++ p.txns.flatMap fun x => x.log.flatMap inserted

/-- The keys are distinct, and every one was drawn already. -/
def KeysFresh (p : Pool) : Prop :=
  (p.keys stored inserted).Nodup ∧ ∀ i ∈ p.keys stored inserted, i ≤ p.registry.lastId

variable {stored inserted}

/-- A transaction begins with an empty log, which adds no key. -/
theorem KeysFresh.begin {r : Registry} {txns : List Txn}
    (h : KeysFresh stored inserted ⟨r, txns⟩) :
    KeysFresh stored inserted ⟨r, txns ++ [r.begin]⟩ := by
  have heq : keys stored inserted ⟨r, txns ++ [r.begin]⟩ = keys stored inserted ⟨r, txns⟩ := by
    simp [keys]
  exact ⟨heq ▸ h.1, heq ▸ h.2⟩

/-- Closing a transaction without its writes forgets keys, and keeps the rest fresh. -/
theorem KeysFresh.close {r : Registry} {l₁ l₂ : List Txn} {x : Txn}
    (h : KeysFresh stored inserted ⟨r, l₁ ++ x :: l₂⟩) :
    KeysFresh stored inserted ⟨r, l₁ ++ l₂⟩ := by
  have hsub : (keys stored inserted ⟨r, l₁ ++ l₂⟩).Sublist (keys stored inserted ⟨r, l₁ ++ x :: l₂⟩) := by
    simp only [keys, List.flatMap_append, List.flatMap_cons]
    exact ((List.sublist_append_right _ _).append_left _).append_left _
  exact ⟨h.1.sublist hsub, fun i hi => h.2 i (hsub.subset hi)⟩

/-- Committing a transaction moves the keys its log inserts into the stored rows. -/
theorem KeysFresh.commit {r : Registry} {l₁ l₂ : List Txn} {x : Txn} {t' : Tables}
    (hreplay : stored t' = stored r.tables ++ x.log.flatMap inserted)
    (h : KeysFresh stored inserted ⟨r, l₁ ++ x :: l₂⟩) :
    KeysFresh stored inserted ⟨{ r with tables := t' }, l₁ ++ l₂⟩ := by
  have hperm : (keys stored inserted ⟨{ r with tables := t' }, l₁ ++ l₂⟩).Perm
      (keys stored inserted ⟨r, l₁ ++ x :: l₂⟩) := by
    simp only [keys, hreplay, List.flatMap_append, List.flatMap_cons, List.perm_iff_count,
      List.count_append]
    intro i
    omega
  exact ⟨hperm.nodup_iff.mpr h.1, fun i hi => h.2 i (hperm.subset hi)⟩

/-- An operation adds to the keys at most the one it drew, which is past every key. -/
theorem KeysFresh.run (hins : ∀ w, (inserted w).length ≤ 1 ∧
      ∀ i ∈ inserted w, i ∈ w.newAccountIds ++ w.newGroupIds)
    {r : Registry} {l₁ l₂ : List Txn} {x : Txn} {op : TxnOp}
    (h : KeysFresh stored inserted ⟨r, l₁ ++ x :: l₂⟩) :
    KeysFresh stored inserted ⟨(op.run r x).1, l₁ ++ op.txnAfter r x :: l₂⟩ := by
  have hle : ∀ i ∈ keys stored inserted ⟨r, l₁ ++ x :: l₂⟩, i ≤ r.lastId := h.2
  have hreg := op.run_registry r x
  have hdrawn : ∀ i ∈ op.drawn r, i = r.lastId + 1 := by
    rcases op.drawn_eq r with hd | hd <;> simp [hd]
  rcases op.txnAfter_log r x with hlog | ⟨w, hlog, hw⟩
  · -- nothing logged: the keys are the same
    have heq : keys stored inserted ⟨(op.run r x).1, l₁ ++ op.txnAfter r x :: l₂⟩ =
        keys stored inserted ⟨r, l₁ ++ x :: l₂⟩ := by
      simp [keys, hreg, hlog]
    refine ⟨heq ▸ h.1, fun i hi => ?_⟩
    have := hle i (heq ▸ hi)
    simp only [hreg]
    omega
  · -- the logged write inserts at most the key just drawn
    have hnew : ∀ i ∈ inserted w, i = r.lastId + 1 := fun i hi =>
      hdrawn i (hw i ((hins w).2 i hi))
    have hperm : (keys stored inserted ⟨(op.run r x).1, l₁ ++ op.txnAfter r x :: l₂⟩).Perm
        (keys stored inserted ⟨r, l₁ ++ x :: l₂⟩ ++ inserted w) := by
      simp only [keys, hreg, hlog, List.flatMap_append, List.flatMap_cons, List.flatMap_nil,
        List.append_nil, List.perm_iff_count, List.count_append]
      intro i
      omega
    have hnodup : (inserted w).Nodup := by
      match hi : inserted w, (hins w).1 with
      | [], _ => exact List.nodup_nil
      | [_], _ => simp
    refine ⟨hperm.nodup_iff.mpr (List.nodup_append.mpr ⟨h.1, hnodup, fun i hi j hj => ?_⟩),
      fun i hi => ?_⟩
    · have := hle i hi
      have := hnew j hj
      omega
    · simp only [hreg]
      rcases List.mem_append.mp (hperm.subset hi) with hi | hi
      · have := hle i hi
        omega
      · have := hnew i hi
        have : (op.drawn r).length = 1 := by
          have hmem := hw i ((hins w).2 i hi)
          rcases op.drawn_eq r with hd | hd <;> simp_all
        omega

/-- A log's keys are distinct from each other and from the stored ones. -/
theorem KeysFresh.log_nodup {r : Registry} {l₁ l₂ : List Txn} {x : Txn}
    (h : KeysFresh stored inserted ⟨r, l₁ ++ x :: l₂⟩) :
    (stored r.tables ++ x.log.flatMap inserted).Nodup := by
  refine h.1.sublist ?_
  simp only [keys, List.flatMap_append, List.flatMap_cons]
  exact (((List.sublist_append_left _ _).trans (List.sublist_append_right _ _))).append_left _

end Keys

/-! ### The invariant of the store -/

/-- The invariant of a shared store: the stored tables meet the constraints, and the account
ids and group ids, stored or waiting in a log, are distinct and drawn already. -/
structure Sound (p : Pool) : Prop where
  constrained : p.registry.tables.Constrained
  accounts : p.KeysFresh (fun t => t.accounts.map (·.id)) Write.newAccountIds
  groups : p.KeysFresh (fun t => t.groups.map (·.id)) Write.newGroupIds

theorem sound_empty : Pool.empty.Sound :=
  ⟨Tables.constrained_empty, ⟨List.nodup_nil, by simp [keys, Pool.empty]⟩,
    ⟨List.nodup_nil, by simp [keys, Pool.empty]⟩⟩

/-- **Every move keeps the invariant.**  A commit replays its log on the tables as they are
now; the log's inserts carry keys no stored row has, so the replay keeps the constraints. -/
theorem Sound.step {p p' : Pool} {l : List Int} (hs : p.Sound) (h : Step p l p') : p'.Sound := by
  cases h with
  | begin r txns => exact ⟨hs.constrained, hs.accounts.begin, hs.groups.begin⟩
  | run r l₁ l₂ x op =>
    refine ⟨?_, hs.accounts.run fun w => ⟨?_, fun i hi => ?_⟩,
      hs.groups.run fun w => ⟨?_, fun i hi => ?_⟩⟩
    · simpa [op.run_registry r x] using hs.constrained
    · cases w <;> simp [Write.newAccountIds]
    · exact List.mem_append_left _ hi
    · cases w <;> simp [Write.newGroupIds]
    · exact List.mem_append_right _ hi
  | commit r l₁ l₂ x =>
    cases hc : r.commit x with
    | ok r' =>
      obtain ⟨t', hrep, rfl⟩ := Registry.commit_eq_ok.mp hc
      have hfresh : r.tables.FreshLog x.log := ⟨hs.accounts.log_nodup, hs.groups.log_nodup⟩
      exact ⟨(hs.constrained.replay hfresh hrep).1,
        hs.accounts.commit (Tables.replay_accountIds hrep),
        hs.groups.commit (Tables.replay_groupIds hrep)⟩
    | error e => exact ⟨hs.constrained, hs.accounts.close, hs.groups.close⟩
  | drop r l₁ l₂ x => exact ⟨hs.constrained, hs.accounts.close, hs.groups.close⟩
  | switchAudit r txns fail => exact ⟨hs.constrained, hs.accounts, hs.groups⟩

theorem Steps.sound {p p' : Pool} {l : List Int} (h : Steps p l p') (hp : p.Sound) :
    p'.Sound := by
  induction h with
  | refl => exact hp
  | tail _ hs ih => exact ih.step hs

/-! ### Ids handed out -/

/-- A move draws no id, or the next one, and the sequence moves past what it drew. -/
theorem Step.drawn {p p' : Pool} {l : List Int} (h : Step p l p') :
    p'.registry.lastId = p.registry.lastId + l.length ∧
      (l = [] ∨ l = [p.registry.lastId + 1]) := by
  cases h with
  | run r l₁ l₂ x op =>
    refine ⟨by simp [op.run_registry r x], op.drawn_eq r⟩
  | commit r l₁ l₂ x =>
    cases hc : r.commit x with
    | ok r' =>
      obtain ⟨t', -, rfl⟩ := Registry.commit_eq_ok.mp hc
      simp
    | error e => simp
  | begin | drop | switchAudit => simp

/-- **No id is handed out twice** along a run, whichever transaction drew it and whether or
not that transaction commits: the sequence moves past exactly the ids drawn, each once. -/
theorem Steps.drawn {p p' : Pool} {l : List Int} (h : Steps p l p') :
    l.Nodup ∧ (∀ i ∈ l, p.registry.lastId < i ∧ i ≤ p'.registry.lastId) ∧
      p'.registry.lastId = p.registry.lastId + l.length := by
  induction h with
  | refl => simp
  | @tail q q' l l' _ hs ih =>
    obtain ⟨hnd, hrange, hlast⟩ := ih
    obtain ⟨hlast', hl' | rfl⟩ := hs.drawn
    · -- the move drew nothing
      subst hl'
      simp only [List.append_nil, List.length_nil, Int.natCast_zero, Int.add_zero] at hlast' ⊢
      exact ⟨hnd, fun i hi => by have := hrange i hi; omega, by omega⟩
    · -- the move drew the id after every one drawn before
      simp only [List.length_singleton, Int.natCast_one] at hlast'
      refine ⟨List.nodup_append.mpr ⟨hnd, by simp, fun i hi j hj => ?_⟩, fun i hi => ?_, ?_⟩
      · have := hrange i hi
        simp at hj
        omega
      · rcases List.mem_append.mp hi with hi | hi
        · have := hrange i hi
          omega
        · simp at hi
          omega
      · simp only [List.length_append, List.length_singleton]
        omega

end Pool

/-- **Interleaved transactions keep the store's constraints.**  Along any interleaving of any
number of transactions from the empty store: the shared tables meet the constraints (live
accounts differ in user id and username, live groups in group id and name, membership pairs are
distinct and name stored accounts and groups, and primary groups name stored groups); the ids
handed out are distinct; and the commit of any open transaction either applies its whole log,
keeping the tables the log leaves, or refuses with the error of the first logged write that
fails on the tables as they are, producing no registry; and the ids handed out, committed or
not, are distinct, and are exactly as many as the shared sequence has advanced. -/
theorem interleaved_transactions_constrained {p : Pool} {ids : List Int}
    (h : Pool.Steps Pool.empty ids p) :
    p.registry.tables.Constrained ∧
      (ids.Nodup ∧ (ids.length : Int) = p.registry.lastId ∧
        ∀ i ∈ ids, 0 < i ∧ i ≤ p.registry.lastId) ∧
      ∀ x ∈ p.txns,
        (∃ t', p.registry.tables.replay x.log = .ok t' ∧
          p.registry.commit x = .ok { p.registry with tables := t' }) ∨
        ∃ l₁ w l₂ t₁ e, x.log = l₁ ++ w :: l₂ ∧ p.registry.tables.replay l₁ = .ok t₁ ∧
          t₁.apply w = .error e ∧ p.registry.commit x = .error e := by
  obtain ⟨hnd, hrange, hlast⟩ := h.drawn
  have hlast : p.registry.lastId = ids.length := by simpa [Pool.empty] using hlast
  refine ⟨(h.sound Pool.sound_empty).constrained, ⟨hnd, hlast.symm, hrange⟩, fun x _ => ?_⟩
  cases hc : p.registry.commit x with
  | ok r' =>
    obtain ⟨t', hrep, rfl⟩ := Registry.commit_eq_ok.mp hc
    exact .inl ⟨t', hrep, rfl⟩
  | error e =>
    obtain ⟨l₁, w, l₂, t₁, hlog, h₁, hw⟩ := Registry.commit_eq_error_iff.mp hc
    exact .inr ⟨l₁, w, l₂, t₁, e, hlog, h₁, hw, rfl⟩

/-- Two transactions write side by side and both commit; a third, begun before either commit,
logs a username the first one takes and is left open with a log that no longer replays; a
fourth, begun after the commits, logs a group. -/
theorem constrained_with_two_writers :
    let alice : AccountDraft := ⟨1000, "alice", .people, none, none, none⟩
    let bob : AccountDraft := ⟨1001, "bob", .people, none, none, none⟩
    let late : AccountDraft := ⟨1002, "alice", .people, none, none, none⟩
    let staff : GroupDraft := ⟨1000, "staff", .people, "", none⟩
    let q := Pool.empty.runMoves [.begin, .begin, .begin, .run 0 (.insertAccount alice),
      .run 1 (.insertAccount bob), .run 2 (.insertAccount late), .commit 0, .commit 0, .begin,
      .run 1 (.insertGroup staff)]
    let p := q.2
    let ids := q.1
    p.registry.tables.liveAccounts.map (·.uid) = [1000, 1001] ∧
      p.txns.map (fun x => (x.log.length, (p.registry.commit x).isOk)) = [(1, false), (1, true)] ∧
      p.registry.tables.Constrained ∧
      (ids.Nodup ∧ (ids.length : Int) = p.registry.lastId ∧
        ∀ i ∈ ids, 0 < i ∧ i ≤ p.registry.lastId) ∧
      ∀ x ∈ p.txns,
        (∃ t', p.registry.tables.replay x.log = .ok t' ∧
          p.registry.commit x = .ok { p.registry with tables := t' }) ∨
        ∃ l₁ w l₂ t₁ e, x.log = l₁ ++ w :: l₂ ∧ p.registry.tables.replay l₁ = .ok t₁ ∧
          t₁.apply w = .error e ∧ p.registry.commit x = .error e :=
  ⟨by decide +kernel, by decide +kernel,
    interleaved_transactions_constrained (Pool.steps_runMoves _ _)⟩

end PosixRegistry
