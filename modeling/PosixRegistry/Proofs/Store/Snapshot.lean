import PosixRegistry.Proofs.Store.Interleaving

/-!
# Store — a quiet commit reproduces the snapshot

A transaction keeps a working copy of the tables and a log of the writes that went through on
it.  Every operation it runs either leaves it as it was or makes exactly one write on it
(`TxnOp.txnAfter_eq`), so the log, replayed on the tables the transaction began on, gives the
working copy at every moment (`Txn.Replays.txnAfter`).

`Pool.Watch` follows one open transaction through the moves of the pool, with the transactions
opened before and after it kept in their places.  Its moves are the pool's moves in which no
other transaction commits: the watched transaction runs an operation, another begins, runs an
operation or is dropped, or audit appends are switched.  None of them changes the shared tables
(`Pool.Watch.Step.tables`), and each is a move of the pool (`Pool.Watch.Step.pool`).

* `quiet_commit_reproduces_snapshot`: when no other transaction commits between the begin of a
  transaction and its commit, the commit goes through, whatever its operations did and whether
  or not they were refused, and the shared tables become its working copy; the begin, the moves
  and the commit together are a run of the pool.
-/

namespace PosixRegistry

/-! ### What an operation does to its transaction -/

namespace TxnOp

variable (op : TxnOp) (r : Registry) (x : Txn)

/-- An operation that goes through returns the transaction it ran on, or that one after one
write that went through. -/
theorem run_eq_ok {x' : Txn} (h : (op.run r x).2 = .ok x') :
    x' = x ∨ ∃ w, x.write w = .ok x' := by
  cases op with
  | insertAccount d =>
    simp only [run, Txn.insertAccount_eq, map_snd_pair] at h
    exact .inr ⟨_, h⟩
  | insertGroup d =>
    simp only [run, Txn.insertGroup_eq, map_snd_pair] at h
    exact .inr ⟨_, h⟩
  | deleteAccount | deleteGroup | insertMembership => exact .inr ⟨_, h⟩
  | updateAccount id d =>
    simp only [run] at h
    cases hu : x.updateAccount id d with
    | error => simp [hu, Except.map] at h
    | ok p =>
      obtain ⟨a, -, t₁, h₁, rfl⟩ := Txn.updateAccount_eq_ok.mp hu
      simp only [hu, Except.map, Except.ok.injEq] at h
      exact .inr ⟨_, Txn.write_eq_ok.mpr ⟨t₁, h₁, h.symm⟩⟩
  | updateGroup id d =>
    simp only [run] at h
    cases hu : x.updateGroup id d with
    | error => simp [hu, Except.map] at h
    | ok p =>
      obtain ⟨g, -, t₁, h₁, rfl⟩ := Txn.updateGroup_eq_ok.mp hu
      simp only [hu, Except.map, Except.ok.injEq] at h
      exact .inr ⟨_, Txn.write_eq_ok.mpr ⟨t₁, h₁, h.symm⟩⟩
  | deleteMembership account group =>
    simp only [run, Txn.deleteMembership_eq, Except.map, Except.ok.injEq] at h
    -- a pair that is not there is left alone, without a write
    cases hm : x.working.isMember account group
    · simp only [hm, Bool.false_eq_true, ↓reduceIte] at h
      exact .inl h.symm
    · simp only [hm, ↓reduceIte] at h
      exact .inr ⟨.deleteMembership account group, Txn.write_eq_ok.mpr ⟨_, rfl, h.symm⟩⟩
  | appendAudit n =>
    simp only [run, Txn.appendAudit] at h
    -- a failing audit append is refused before anything is written
    cases hf : r.failAudit
    · simp only [hf, Bool.false_eq_true, ↓reduceIte, map_snd_pair] at h
      exact .inr ⟨_, h⟩
    · simp [hf, Except.map] at h

/-- **An operation makes at most one write**: the transaction it leaves is the one it ran on, or
that one after one write that went through. -/
theorem txnAfter_eq : op.txnAfter r x = x ∨ ∃ w, x.write w = .ok (op.txnAfter r x) := by
  unfold txnAfter
  split
  · next x' h => exact op.run_eq_ok r x h
  · exact .inl rfl

/-- An operation changes the shared tables in no way: ids drawn are all it changes. -/
@[simp] theorem run_tables : (op.run r x).1.tables = r.tables := by
  rw [run_registry]

end TxnOp

/-- Whatever operations a transaction runs, its log replayed on the tables it began on gives its
working copy. -/
theorem Txn.Replays.txnAfter {x : Txn} {t : Tables} (h : x.Replays t) (op : TxnOp)
    (r : Registry) : (op.txnAfter r x).Replays t := by
  rcases op.txnAfter_eq r x with heq | ⟨w, hw⟩
  · rw [heq]
    exact h
  · exact h.write hw

/-! ### One transaction among others that do not commit -/

namespace Pool

/-- A pool seen from one of its open transactions: the shared registry, the transactions opened
before it, the transaction itself and those opened after it. -/
structure Watch where
  registry : Registry
  before : List Txn
  txn : Txn
  after : List Txn

namespace Watch

/-- The pool a watch looks at. -/
def pool (w : Watch) : Pool := ⟨w.registry, w.before ++ w.txn :: w.after⟩

/-- One move of the pool while the watched transaction stays open and no other transaction
commits, labelled with the ids it drew. -/
inductive Step : Watch → List Int → Watch → Prop
  /-- The watched transaction runs an operation. -/
  | run (r : Registry) (b : List Txn) (x : Txn) (a : List Txn) (op : TxnOp) :
      Step ⟨r, b, x, a⟩ (op.drawn r) ⟨(op.run r x).1, b, op.txnAfter r x, a⟩
  /-- Another transaction begins, after the watched one. -/
  | begin (r : Registry) (b : List Txn) (x : Txn) (a : List Txn) :
      Step ⟨r, b, x, a⟩ [] ⟨r, b, x, a ++ [r.begin]⟩
  /-- A transaction opened before the watched one runs an operation. -/
  | runBefore (r : Registry) (l₁ l₂ : List Txn) (y x : Txn) (a : List Txn) (op : TxnOp) :
      Step ⟨r, l₁ ++ y :: l₂, x, a⟩ (op.drawn r) ⟨(op.run r y).1, l₁ ++ op.txnAfter r y :: l₂, x, a⟩
  /-- A transaction opened after the watched one runs an operation. -/
  | runAfter (r : Registry) (b : List Txn) (x : Txn) (l₁ l₂ : List Txn) (y : Txn) (op : TxnOp) :
      Step ⟨r, b, x, l₁ ++ y :: l₂⟩ (op.drawn r) ⟨(op.run r y).1, b, x, l₁ ++ op.txnAfter r y :: l₂⟩
  /-- A transaction opened before the watched one is dropped. -/
  | dropBefore (r : Registry) (l₁ l₂ : List Txn) (y x : Txn) (a : List Txn) :
      Step ⟨r, l₁ ++ y :: l₂, x, a⟩ [] ⟨r, l₁ ++ l₂, x, a⟩
  /-- A transaction opened after the watched one is dropped. -/
  | dropAfter (r : Registry) (b : List Txn) (x : Txn) (l₁ l₂ : List Txn) (y : Txn) :
      Step ⟨r, b, x, l₁ ++ y :: l₂⟩ [] ⟨r, b, x, l₁ ++ l₂⟩
  /-- Audit appends are switched on or off. -/
  | switchAudit (r : Registry) (b : List Txn) (x : Txn) (a : List Txn) (fail : Bool) :
      Step ⟨r, b, x, a⟩ [] ⟨{ r with failAudit := fail }, b, x, a⟩

/-- Moves in sequence, with the ids drawn along the way. -/
inductive Steps : Watch → List Int → Watch → Prop
  | refl (w : Watch) : Steps w [] w
  | tail {w v v' : Watch} {l l' : List Int} (h : Steps w l v) (hs : Step v l' v') :
      Steps w (l ++ l') v'

variable {w w' : Watch} {l : List Int}

/-- **Every move of a watch is a move of its pool.** -/
theorem Step.pool (h : Step w l w') : Pool.Step w.pool l w'.pool := by
  cases h with
  | run r b x a op => exact .run r b a x op
  | begin r b x a =>
    have h := Pool.Step.begin r (b ++ x :: a)
    simpa [Watch.pool] using h
  | runBefore r l₁ l₂ y x a op =>
    have h := Pool.Step.run r l₁ (l₂ ++ x :: a) y op
    simpa [Watch.pool] using h
  | runAfter r b x l₁ l₂ y op =>
    have h := Pool.Step.run r (b ++ x :: l₁) l₂ y op
    simpa [Watch.pool] using h
  | dropBefore r l₁ l₂ y x a =>
    have h := Pool.Step.drop r l₁ (l₂ ++ x :: a) y
    simpa [Watch.pool] using h
  | dropAfter r b x l₁ l₂ y =>
    have h := Pool.Step.drop r (b ++ x :: l₁) l₂ y
    simpa [Watch.pool] using h
  | switchAudit r b x a fail => exact .switchAudit r _ fail

/-- A watched run continues every run of the pool that reaches its start. -/
theorem Steps.pool {p : Pool} {l₀ : List Int} (h₀ : Pool.Steps p l₀ w.pool) (h : Steps w l w') :
    Pool.Steps p (l₀ ++ l) w'.pool := by
  induction h with
  | refl => simpa using h₀
  | tail _ hs ih =>
    rw [← List.append_assoc]
    exact .tail ih hs.pool

/-- No move of a watch changes the shared tables: only a commit does. -/
theorem Step.tables (h : Step w l w') : w'.registry.tables = w.registry.tables := by
  cases h <;> simp

/-- The watched transaction is moved only by the operations it runs. -/
theorem Step.replays {t : Tables} (h : Step w l w') (ht : w.txn.Replays t) :
    w'.txn.Replays t := by
  cases h with
  | run r b x a op => exact ht.txnAfter op r
  | begin | runBefore | runAfter | dropBefore | dropAfter | switchAudit => exact ht

/-- Along a watched run the shared tables stay as they are, and the watched transaction's log
keeps replaying to its working copy. -/
theorem Steps.replays (h : Steps w l w') (ht : w.txn.Replays w.registry.tables) :
    w'.registry.tables = w.registry.tables ∧ w'.txn.Replays w.registry.tables := by
  induction h with
  | refl => exact ⟨rfl, ht⟩
  | tail _ hs ih =>
    obtain ⟨htables, hreplays⟩ := ih
    exact ⟨hs.tables.trans htables, hs.replays hreplays⟩

end Watch

end Pool

/-- **A quiet commit reproduces the snapshot.**  A transaction begins on the shared tables while
other transactions may be open; until it commits, it runs any operations, refused or not, while
the others begin, run operations and are dropped, and audit appends are switched, but no other
transaction commits.  Then its commit goes through and leaves the shared tables equal to its
working copy, and the begin, every move and the commit form a run of the pool. -/
theorem quiet_commit_reproduces_snapshot {r : Registry} {txns : List Txn} {ids : List Int}
    {w : Pool.Watch} (h : Pool.Watch.Steps ⟨r, txns, r.begin, []⟩ ids w) :
    w.registry.commit w.txn = .ok { w.registry with tables := w.txn.working } ∧
      Pool.Steps ⟨r, txns⟩ ids ⟨{ w.registry with tables := w.txn.working }, w.before ++ w.after⟩ := by
  obtain ⟨htables, hreplays⟩ := h.replays Registry.begin_replays
  -- the tables are those the transaction began on, so its log replays to its working copy there
  have hcommit : w.registry.commit w.txn = .ok { w.registry with tables := w.txn.working } :=
    Txn.Replays.commit (htables ▸ hreplays)
  refine ⟨hcommit, ?_⟩
  have hbegin : Pool.Steps ⟨r, txns⟩ [] (⟨r, txns, r.begin, []⟩ : Pool.Watch).pool :=
    .tail (.refl _) (.begin r txns)
  have hclose := Pool.Step.commit w.registry w.before w.after w.txn
  rw [hcommit] at hclose
  simpa using Pool.Steps.tail (h.pool hbegin) hclose

/-- A transaction begun on the empty store, with nothing else happening, commits its one
account insertion. -/
theorem quiet_commit_after_one_insert :
    let op := TxnOp.insertAccount ⟨1000, "alice", .people, none, none, none⟩
    let w : Pool.Watch :=
      ⟨(op.run {} ({} : Registry).begin).1, [], op.txnAfter {} ({} : Registry).begin, []⟩
    Pool.Watch.Steps ⟨{}, [], ({} : Registry).begin, []⟩ [1] w ∧
      (w.registry.commit w.txn = .ok { w.registry with tables := w.txn.working } ∧
        Pool.Steps ⟨{}, []⟩ [1] ⟨{ w.registry with tables := w.txn.working }, w.before ++ w.after⟩) :=
  have h : Pool.Watch.Steps ⟨{}, [], ({} : Registry).begin, []⟩ [1] _ :=
    .tail (.refl _) (.run {} [] ({} : Registry).begin [] (.insertAccount ⟨1000, "alice", .people,
      none, none, none⟩))
  ⟨h, quiet_commit_reproduces_snapshot h⟩

end PosixRegistry
