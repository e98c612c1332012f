import PosixRegistry.Proofs.Service.Atomicity
import PosixRegistry.Proofs.Service.Reads
import PosixRegistry.Registry.Service.Query

/-!
# Services — pages of the audit log

The audit log of every registry a session leaves lists its entries in the order they were
appended (`Reachable.auditOrdered`): by strictly increasing id, and, since the wall clock of a
session never goes back, by time.  A write request either rolls back, or makes one write that is
not an audit entry and appends its entry under an id drawn past every stored one, stamped with
the clock, which no stored entry is later than (`Mutation.run_auditedOrBack`).

A query reads the log (`Registry.AuditPages`): it keeps the entries that pass every filter it
sets, newest first — the later time first, and of two at one time the greater id, which on such
a log is by strictly decreasing id (`mergeSort_newest_first`) — then drops `max offset 0` of them and keeps at most the page size, which is
50 when the size asked for is not positive and the size capped at 500 otherwise.  Normalizing a
query is idempotent, so normalizing it again in each layer changes nothing, and its page and
start are not negative, so they read as natural numbers exactly.  Hence the consecutive pages of
one size concatenate to the hits in order, with nothing lost or repeated.
-/

namespace PosixRegistry

/-! ### Normalized queries -/

namespace AuditQuery

variable (q : AuditQuery)

theorem normalized_limit :
    q.normalized.limit = if q.limit ≤ 0 then 50 else min q.limit 500 := by
  unfold normalized defaultLimit maxLimit
  dsimp only
  split <;> omega

theorem normalized_offset : q.normalized.offset = max q.offset 0 := rfl

example :
    ({ limit := 0, offset := -5 } : AuditQuery).normalized = { limit := 50, offset := 0 } := by
  decide

@[simp] theorem admits_normalized : q.normalized.admits = q.admits := rfl

theorem normalized_idem : q.normalized.normalized = q.normalized := by
  have hlimit := q.normalized_limit
  have hpage : q.normalized.normalized.limit = q.normalized.limit := by
    rw [normalized_limit, hlimit]
    split <;> omega
  have hstart : q.normalized.normalized.offset = q.normalized.offset := by
    simp only [normalized_offset]
    omega
  cases q
  simp only [normalized] at hpage hstart ⊢
  rw [hpage, hstart]

theorem normalized_limit_mem : 1 ≤ q.normalized.limit ∧ q.normalized.limit ≤ 500 := by
  rw [normalized_limit]
  split <;> omega

theorem normalized_offset_nonneg : 0 ≤ q.normalized.offset := by
  rw [normalized_offset]
  omega

/-- The page and the start of a normalized query read as natural numbers exactly. -/
theorem normalized_toNat :
    (q.normalized.limit.toNat : Int) = q.normalized.limit ∧
      (q.normalized.offset.toNat : Int) = q.normalized.offset :=
  ⟨Int.toNat_of_nonneg (by have := q.normalized_limit_mem; omega),
    Int.toNat_of_nonneg q.normalized_offset_nonneg⟩

end AuditQuery

/-! ### Sessions append audit entries in id order -/

/-- `r'` is `r` rolled back, or `r` after a write other than an audit entry and its audit
entry, under ids drawn past the last one. -/
def Registry.AuditedOrBack (r r' : Registry) : Prop :=
  r.RolledBack r' ∨ ∃ w n, (∀ e, w ≠ .audit e) ∧ r.lastId < r'.lastId ∧ r.Wrote r' w n

namespace Mutation

/-- A write request either rolls back, or makes one write that is not an audit entry and
appends its audit entry. -/
theorem run_auditedOrBack (m : Mutation) (r : Registry) : r.AuditedOrBack (m.run r).2 := by
  cases m with
  | createAccount p req actor =>
    refine Service.outcome_preserves (I := r.AuditedOrBack)
      (Service.createAccount_spec p req actor r) ?_ (fun _ => Or.inl)
    rintro v r' ⟨-, _, -, -, -, -, -, -, hlast, hw⟩
    exact Or.inr ⟨_, _, fun _ => by simp, by omega, hw⟩
  | updateAccount p id req actor =>
    refine Service.outcome_preserves (I := r.AuditedOrBack)
      (Service.updateAccount_spec p id req actor r) ?_ (fun _ => Or.inl)
    rintro v r' ⟨-, _, -, _, -, -, -, -, -, -, hlast, hw⟩
    exact Or.inr ⟨_, _, fun _ => by simp, by omega, hw⟩
  | deleteAccount id actor =>
    refine Service.outcome_preserves (I := r.AuditedOrBack)
      (Service.deleteAccount_spec id actor r) ?_ (fun _ => Or.inl)
    rintro - r' ⟨_, -, hlast, hw⟩
    exact Or.inr ⟨_, _, fun _ => by simp, by omega, hw⟩
  | createGroup p req actor =>
    refine Service.outcome_preserves (I := r.AuditedOrBack)
      (Service.createGroup_spec p req actor r) ?_ (fun _ => Or.inl)
    rintro v r' ⟨-, _, -, -, -, -, -, hlast, hw⟩
    exact Or.inr ⟨_, _, fun _ => by simp, by omega, hw⟩
  | updateGroup p id req actor =>
    refine Service.outcome_preserves (I := r.AuditedOrBack)
      (Service.updateGroup_spec p id req actor r) ?_ (fun _ => Or.inl)
    rintro v r' ⟨-, _, -, _, -, -, -, -, -, -, hlast, hw⟩
    exact Or.inr ⟨_, _, fun _ => by simp, by omega, hw⟩
  | deleteGroup id actor =>
    refine Service.outcome_preserves (I := r.AuditedOrBack)
      (Service.deleteGroup_spec id actor r) ?_ (fun _ => Or.inl)
    rintro - r' ⟨_, -, -, hlast, hw⟩
    exact Or.inr ⟨_, _, fun _ => by simp, by omega, hw⟩
  | assign account group actor =>
    refine Service.outcome_preserves (I := r.AuditedOrBack)
      (Service.assign_spec account group actor r) ?_ (fun _ => Or.inl)
    rintro - r' ⟨_, _, -, -, -, -, hlast, hw⟩
    exact Or.inr ⟨_, _, fun _ => by simp, by omega, hw⟩
  | remove account group actor =>
    refine Service.outcome_preserves (I := r.AuditedOrBack)
      (Service.remove_spec account group actor r) ?_ (fun _ => Or.inl)
    rintro - r' ⟨_, _, -, -, -, hlast, hw⟩
    exact Or.inr ⟨_, _, fun _ => by simp, by omega, hw⟩

end Mutation

/-- `a` was appended before `b`: under a smaller id, and at a time no later. -/
def AuditEntry.AppendedBefore (a b : AuditEntry) : Prop :=
  a.id < b.id ∧ a.timestamp ≤ b.timestamp

namespace Registry

/-- The audit log lists its entries in the order they were appended, and none is stamped later
than the clock. -/
structure AuditOrdered (r : Registry) : Prop where
  appended : r.tables.audit.Pairwise AuditEntry.AppendedBefore
  notAhead : ∀ e ∈ r.tables.audit, e.timestamp ≤ r.clock

variable {r : Registry}

theorem auditOrdered_empty : ({} : Registry).AuditOrdered := ⟨List.Pairwise.nil, by simp⟩

/-- An entry appended under an id drawn past every stored one and stamped with the clock comes
after all of them. -/
theorem AuditOrdered.mutate (hs : r.Sound) (ho : r.AuditOrdered) (m : Mutation) :
    (m.run r).2.AuditOrdered := by
  rcases m.run_auditedOrBack r with ⟨ht, -, hclock, -⟩ | ⟨w, n, hne, hlast, hw⟩
  · constructor
    · rw [ht]
      exact ho.appended
    · rw [ht, hclock]
      exact ho.notAhead
  · obtain ⟨t₁, -, ht⟩ := hw.effect hne
    have hclock : (m.run r).2.clock = r.clock := hw.2.2.1
    constructor
    · rw [ht]
      refine List.pairwise_append.mpr ⟨ho.appended, List.pairwise_singleton _ _, fun a ha b hb => ?_⟩
      obtain rfl := List.mem_singleton.mp hb
      have hdrawn := hs.rowIds_drawn a.id (by simp [Tables.rowIds, List.mem_map_of_mem ha])
      have hstamp := ho.notAhead a ha
      refine ⟨?_, ?_⟩
      · show a.id < (m.run r).2.lastId
        omega
      · show a.timestamp ≤ (m.run r).2.clock
        omega
    · rw [ht, hclock]
      intro e he
      rcases List.mem_append.mp he with he | he
      · exact ho.notAhead e he
      · obtain rfl := List.mem_singleton.mp he
        exact le_of_eq (AuditNote.entry_timestamp _ _ _)

/-- The clock moving on leaves every entry no later than it. -/
theorem AuditOrdered.tick (ho : r.AuditOrdered) {t : Int} (h : r.clock ≤ t) :
    ({ r with clock := t }).AuditOrdered :=
  ⟨ho.appended, fun e he => le_trans (ho.notAhead e he) h⟩

end Registry

/-- Every registry a session leaves lists its audit entries in the order they were appended. -/
theorem Reachable.auditOrdered {r : Registry} (h : Reachable r) : r.AuditOrdered := by
  refine (h.invariant (I := fun r => r.Sound ∧ r.AuditOrdered)
    ⟨Registry.sound_empty, Registry.auditOrdered_empty⟩ fun ⟨hs, ho⟩ step => ?_).2
  cases step with
  | mutate m r => exact ⟨hs.mutate m, ho.mutate hs m⟩
  | switchAudit fail r => exact ⟨hs.switchAudit fail, ho.appended, ho.notAhead⟩
  | tick t r hle => exact ⟨hs.of_eq rfl rfl, ho.tick hle⟩

/-! ### A page of the log -/

namespace AuditEntry

variable {a b c : AuditEntry}

theorem newerOrSame_iff :
    a.newerOrSame b = true ↔ b.timestamp < a.timestamp ∨ a.timestamp = b.timestamp ∧ b.id ≤ a.id := by
  simp [newerOrSame]

theorem newerOrSame_trans (hab : a.newerOrSame b = true) (hbc : b.newerOrSame c = true) :
    a.newerOrSame c = true := by
  rw [newerOrSame_iff] at *
  omega

theorem newerOrSame_total (a b : AuditEntry) : (a.newerOrSame b || b.newerOrSame a) = true := by
  rw [Bool.or_eq_true, newerOrSame_iff, newerOrSame_iff]
  omega

/-- An entry appended later is newer. -/
theorem newerOrSame_of_appendedBefore (h : a.AppendedBefore b) : b.newerOrSame a = true := by
  rw [newerOrSame_iff]
  obtain ⟨hid, htime⟩ := h
  omega

end AuditEntry

/-- Sorting entries listed in the order they were appended newest first reverses them. -/
theorem mergeSort_newest_first {l : List AuditEntry}
    (h : l.Pairwise AuditEntry.AppendedBefore) :
    l.mergeSort AuditEntry.newerOrSame = l.reverse := by
  have hsorted : (l.mergeSort AuditEntry.newerOrSame).Pairwise fun a b => a.newerOrSame b = true :=
    @List.pairwise_mergeSort _ AuditEntry.newerOrSame
      (fun _ _ _ hab hbc => AuditEntry.newerOrSame_trans hab hbc) AuditEntry.newerOrSame_total l
  have hrev : l.reverse.Pairwise fun a b => a.newerOrSame b = true :=
    List.pairwise_reverse.mpr (h.imp AuditEntry.newerOrSame_of_appendedBefore)
  -- two entries of the log at one time and with one id are one entry, the ids being distinct
  have hnodup : (l.map (·.id)).Nodup := List.pairwise_map.mpr (h.imp fun hab => ne_of_lt hab.1)
  refine ((List.mergeSort_perm _ _).trans (List.reverse_perm l).symm).eq_of_pairwise
    (fun a b ha hb hab hba => ?_) hsorted hrev
  have ha' : a ∈ l := (List.mergeSort_perm _ _).mem_iff.mp ha
  rw [AuditEntry.newerOrSame_iff] at hab hba
  exact List.inj_on_of_nodup_map hnodup ha' (List.mem_reverse.mp hb) (by omega)

/-- The hits of a query, newest first, are exactly the entries of the log that pass it, each
once, by strictly decreasing id. -/
theorem listsBy_hits {t : Tables} (h : t.audit.Pairwise AuditEntry.AppendedBefore)
    (q : AuditQuery) :
    ListsBy (fun e => -e.id) t.audit (fun e => q.admits e = true)
      (t.audit.filter q.admits).reverse :=
  ⟨fun e => by simp,
    List.pairwise_reverse.mpr ((h.filter _).imp fun hab => Int.neg_lt_neg hab.1)⟩

namespace Tables

variable {t : Tables}

theorem auditPage_normalized (q : AuditQuery) : t.auditPage q.normalized = t.auditPage q := by
  simp only [auditPage, AuditQuery.normalized_idem]

/-- A page is the hits, newest first, from the start and at most the page size on. -/
theorem auditPage_eq (h : t.audit.Pairwise AuditEntry.AppendedBefore) (q : AuditQuery) :
    t.auditPage q = (((t.audit.filter q.admits).reverse.drop (max q.offset 0).toNat).take
      (if q.limit ≤ 0 then 50 else min q.limit 500).toNat) := by
  simp only [auditPage, AuditQuery.admits_normalized, AuditQuery.normalized_offset,
    AuditQuery.normalized_limit, mergeSort_newest_first (h.filter _)]

end Tables

/-- Consecutive pages of one size concatenate to as many of the hits, in order. -/
theorem flatMap_pages {α : Type} (l : List α) (L n : Nat) :
    (List.range n).flatMap (fun k => (l.drop (k * L)).take L) = l.take (n * L) := by
  induction n with
  | zero => simp
  | succ n ih =>
    rw [List.range_succ, List.flatMap_append, ih, Nat.succ_mul, List.take_add]
    simp

namespace Service

/-- A client reading the first `n` pages of `L` entries of a query, one after another. -/
def auditPages (q : AuditQuery) (L n : Nat) : Service (List AuditEntry) := do
  let pages ← (List.range n).mapM fun k =>
    auditList { q with limit := L, offset := ((k * L : Nat) : Int) }
  pure pages.flatten

theorem auditList_run (q : AuditQuery) (r : Registry) :
    (auditList q).run.run r = (.ok (r.tables.auditPage q), r) := by
  rw [← Tables.auditPage_normalized]
  rfl

/-- Services that only read answer a list of requests with the list of their answers. -/
theorem mapM_run_of_reads {α β : Type} {f : α → Service β} {g : α → β} {r : Registry}
    (h : ∀ a, (f a).run.run r = (.ok (g a), r)) :
    ∀ l : List α, (l.mapM f).run.run r = (.ok (l.map g), r)
  | [] => rfl
  | a :: l => by
    have ih := mapM_run_of_reads h l
    simp only [List.mapM_cons, List.map_cons, ExceptT.run_bind, StateT.run_bind, h a,
      bind_pure_comp]
    -- the first answer is in hand; the rest are read on the same registry
    show (ExceptT.run (List.cons (g a) <$> List.mapM f l)).run r = _
    simp only [ExceptT.run_map, StateT.run_map, ih]
    rfl

end Service

/-! ### Queries on the registries of a session -/

namespace Registry

/-- How the audit log of `r` answers queries: the hits of a query, newest first, are the entries
that pass every filter it sets, each once, by strictly decreasing id and none older before a
newer one; a query returns the hits
after dropping `max offset 0` of them, at most 50 when the page size asked for is not positive
and at most that size capped at 500 otherwise, and changes nothing; and the first `n` pages of
a size between 1 and 500 concatenate to the first `n` pages' worth of hits, so enough of them to
all the hits. -/
structure AuditPages (r : Registry) : Prop where
  hits : ∀ q : AuditQuery, ListsBy (fun e => -e.id) r.tables.audit (fun e => q.admits e = true)
    (r.tables.audit.filter q.admits).reverse
  byTime : ∀ q : AuditQuery, (r.tables.audit.filter q.admits).reverse.Pairwise
    fun a b => b.timestamp ≤ a.timestamp
  page : ∀ q : AuditQuery, (Service.auditList q).run.run r =
    (.ok (((r.tables.audit.filter q.admits).reverse.drop (max q.offset 0).toNat).take
      (if q.limit ≤ 0 then 50 else min q.limit 500).toNat), r)
  pages : ∀ (q : AuditQuery) (L n : Nat), 1 ≤ L → L ≤ 500 →
    (Service.auditPages q L n).run.run r =
      (.ok ((r.tables.audit.filter q.admits).reverse.take (n * L)), r)
  whole : ∀ (q : AuditQuery) (L n : Nat), 1 ≤ L → L ≤ 500 →
    (r.tables.audit.filter q.admits).length ≤ n * L →
    (Service.auditPages q L n).run.run r = (.ok (r.tables.audit.filter q.admits).reverse, r)

/-- The `k`-th page of `L` entries is the hits from `k * L` on, at most `L` of them. -/
theorem page_at {r : Registry} (h : r.AuditOrdered) (q : AuditQuery) {L : Nat} (h1 : 1 ≤ L)
    (h500 : L ≤ 500) (k : Nat) :
    (Service.auditList { q with limit := L, offset := ((k * L : Nat) : Int) }).run.run r =
      (.ok (((r.tables.audit.filter q.admits).reverse.drop (k * L)).take L), r) := by
  rw [Service.auditList_run, Tables.auditPage_eq h.appended]
  have hlimit : (if (L : Int) ≤ 0 then 50 else min (L : Int) 500).toNat = L := by
    rw [if_neg (by omega), min_eq_left (by omega), Int.toNat_natCast]
  have hoffset : (max ((k * L : Nat) : Int) 0).toNat = k * L := by
    rw [max_eq_left (Int.natCast_nonneg _), Int.toNat_natCast]
  simp only [hlimit, hoffset]
  rfl

theorem auditPages_of_ordered {r : Registry} (h : r.AuditOrdered) : r.AuditPages := by
  have hpages : ∀ (q : AuditQuery) (L n : Nat), 1 ≤ L → L ≤ 500 →
      (Service.auditPages q L n).run.run r =
        (.ok ((r.tables.audit.filter q.admits).reverse.take (n * L)), r) := by
    intro q L n h1 h500
    have hmap := Service.mapM_run_of_reads (page_at h q h1 h500) (List.range n)
    simp only [Service.auditPages, ExceptT.run_bind, StateT.run_bind, hmap]
    rw [← flatMap_pages, List.flatMap_def]
    rfl
  refine ⟨listsBy_hits h.appended,
    fun q => List.pairwise_reverse.mpr ((h.appended.filter _).imp fun hab => hab.2),
    fun q => ?_, hpages, fun q L n h1 h500 hlen => ?_⟩
  · rw [Service.auditList_run, Tables.auditPage_eq h.appended]
  · rw [hpages q L n h1 h500, List.take_of_length_le (by simpa using hlen)]

end Registry

/-- **Audit queries filter, order and page.**  Normalizing a query is idempotent and leaves a
page size from 1 to 500 and a start that is not negative, both read as natural numbers exactly;
and in every registry a session leaves, its wall clock never going back, a query returns the
entries that pass every filter it sets, newest first — by time and then by id, which there is by
strictly decreasing id — from its start and at most its page size on, and consecutive pages of
one size concatenate to the hits with nothing lost or repeated. -/
theorem audit_queries_page_the_log :
    (∀ q : AuditQuery, q.normalized.normalized = q.normalized ∧
      1 ≤ q.normalized.limit ∧ q.normalized.limit ≤ 500 ∧ 0 ≤ q.normalized.offset ∧
      (q.normalized.limit.toNat : Int) = q.normalized.limit ∧
      (q.normalized.offset.toNat : Int) = q.normalized.offset) ∧
    ∀ r : Registry, Reachable r → r.AuditPages :=
  ⟨fun q => ⟨q.normalized_idem, q.normalized_limit_mem.1, q.normalized_limit_mem.2,
      q.normalized_offset_nonneg, q.normalized_toNat⟩,
    fun _ h => Registry.auditPages_of_ordered h.auditOrdered⟩

/-- A session that creates an account, lets the clock move on a minute and creates another
pages its audit log newest first. -/
theorem audit_pages_after_two_accounts :
    let r₁ := ((Mutation.createAccount .standard { username := "alice", type := "people" }
      .standard).run {}).2
    let r := ((Mutation.createAccount .standard { username := "bob", type := "people" }
      .standard).run { r₁ with clock := 60 }).2
    Reachable r ∧ r.tables.audit.map (fun e => (e.id, e.timestamp)) = [(2, 0), (4, 60)] ∧
      r.AuditPages :=
  have h := Reachable.step
    (Reachable.step (Reachable.step .empty (.mutate _ _)) (.tick 60 _ (by decide +kernel)))
    (.mutate _ _)
  ⟨h, by decide +kernel, audit_queries_page_the_log.2 _ h⟩

end PosixRegistry
