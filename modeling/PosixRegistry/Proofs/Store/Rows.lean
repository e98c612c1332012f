import PosixRegistry.Registry.Store

/-!
# Store — rows, lookups and checked writes

What each lookup of the store says about its rows, and what each checked write does to the
tables.  A write is one of nine kinds; `apply_*_eq_ok` says, kind by kind, exactly when it goes
through and what it leaves, so that no later proof unfolds `Tables.apply`.  A replay is a left
fold of `apply`: it runs the writes in order (`replay_append`), and a refused replay is refused
by the first write that fails on the tables its prefix left (`replay_eq_error_iff`).

Rows are replaced in place: `replaceFirst` changes the first row that its test picks and keeps
the others where they were (`replaceFirst_eq_some_iff`); where at most one row can pass the
test, that is the map which changes just that row (`replaceFirst_eq_map`).
-/

namespace PosixRegistry

/-! ### Replacing the first match -/

theorem replaceFirst_eq_some_iff {α : Type} {p : α → Bool} {f : α → α} {l l' : List α} :
    replaceFirst p f l = some l' ↔
      ∃ l₁ x l₂, l = l₁ ++ x :: l₂ ∧ (∀ y ∈ l₁, p y = false) ∧ p x = true ∧
        l' = l₁ ++ f x :: l₂ := by
  induction l generalizing l' with
  | nil => simp [replaceFirst]
  | cons y ys ih =>
    by_cases hy : p y = true
    · simp only [replaceFirst, hy, ite_true, Option.some.injEq]
      constructor
      · rintro rfl
        exact ⟨[], y, ys, rfl, by simp, hy, rfl⟩
      · rintro ⟨l₁, x, l₂, he, hl₁, hx, rfl⟩
        cases l₁ with
        | nil => cases he; rfl
        | cons z zs =>
          cases he
          rw [hl₁ _ List.mem_cons_self] at hy
          cases hy
    · simp only [replaceFirst, hy, Bool.false_eq_true, ite_false, Option.map_eq_some_iff, ih]
      constructor
      · rintro ⟨_, ⟨l₁, x, l₂, rfl, hl₁, hx, rfl⟩, rfl⟩
        refine ⟨y :: l₁, x, l₂, rfl, ?_, hx, rfl⟩
        intro z hz
        rcases List.mem_cons.mp hz with rfl | hz
        · simpa using hy
        · exact hl₁ z hz
      · rintro ⟨l₁, x, l₂, he, hl₁, hx, rfl⟩
        cases l₁ with
        | nil => cases he; exact absurd hx hy
        | cons z zs =>
          cases he
          exact ⟨zs ++ f x :: l₂, ⟨zs, x, l₂, rfl, fun w hw => hl₁ w (List.mem_cons_of_mem _ hw),
            hx, rfl⟩, rfl⟩

theorem replaceFirst_eq_none_iff {α : Type} {p : α → Bool} {f : α → α} {l : List α} :
    replaceFirst p f l = none ↔ ∀ x ∈ l, p x = false := by
  induction l with
  | nil => simp [replaceFirst]
  | cons y ys ih => by_cases hy : p y = true <;> simp_all [replaceFirst]

/-- Where the test picks at most one row, replacing the first pick is replacing every row that
`q` names, when `p` picks only rows `q` names. -/
theorem replaceFirst_eq_map {α : Type} {p : α → Bool} {f : α → α} {q : α → Prop}
    [DecidablePred q] {l l' : List α} (hpq : ∀ x, p x = true → q x)
    (hq : l.Pairwise fun x y => ¬ (q x ∧ q y)) (h : replaceFirst p f l = some l') :
    l' = l.map fun x => if q x then f x else x := by
  obtain ⟨l₁, x, l₂, rfl, -, hx, rfl⟩ := replaceFirst_eq_some_iff.mp h
  have hqx : q x := hpq x hx
  have hpair := List.pairwise_append.mp hq
  have h₁ : ∀ y ∈ l₁, ¬ q y := fun y hy hy' =>
    hpair.2.2 y hy x List.mem_cons_self ⟨hy', hqx⟩
  have h₂ : ∀ y ∈ l₂, ¬ q y := fun y hy hy' =>
    (List.pairwise_cons.mp hpair.2.1).1 y hy ⟨hqx, hy'⟩
  simp only [List.map_append, List.map_cons, hqx, ite_true]
  congr 1
  · exact (List.map_congr_left fun y hy => by simp [h₁ y hy]).trans (List.map_id' l₁) |>.symm
  · congr 1
    exact (List.map_congr_left fun y hy => by simp [h₂ y hy]).trans (List.map_id' l₂) |>.symm

/-- Replacing a row by one with the same key keeps the list of keys. -/
theorem map_replaceFirst {α β : Type} {p : α → Bool} {f : α → α} {key : α → β}
    {l l' : List α} (hkey : ∀ x, p x = true → key (f x) = key x)
    (h : replaceFirst p f l = some l') : l'.map key = l.map key := by
  obtain ⟨l₁, x, l₂, rfl, -, hx, rfl⟩ := replaceFirst_eq_some_iff.mp h
  simp [hkey x hx]

/-- What a write that goes through does, spelled out: the one table it changes and how, every
other table staying as it was.  An update or a delete changes one live row with the id in place;
an insert or an audit entry is appended. -/
def Write.Effect : Write → Tables → Tables → Prop
  | .insertAccount a, t, t' => t' = { t with accounts := t.accounts ++ [a] }
  | .updateAccount a, t, t' => ∃ l₁ b l₂, t.accounts = l₁ ++ b :: l₂ ∧ b.id = a.id ∧
      b.deleted = false ∧ t' = { t with accounts := l₁ ++ a :: l₂ }
  | .deleteAccount id, t, t' => ∃ l₁ b l₂, t.accounts = l₁ ++ b :: l₂ ∧ b.id = id ∧
      b.deleted = false ∧ t' = { t with accounts := l₁ ++ { b with deleted := true } :: l₂ }
  | .insertGroup g, t, t' => t' = { t with groups := t.groups ++ [g] }
  | .updateGroup g, t, t' => ∃ l₁ h l₂, t.groups = l₁ ++ h :: l₂ ∧ h.id = g.id ∧
      h.deleted = false ∧ t' = { t with groups := l₁ ++ g :: l₂ }
  | .deleteGroup id, t, t' => ∃ l₁ h l₂, t.groups = l₁ ++ h :: l₂ ∧ h.id = id ∧
      h.deleted = false ∧ t' = { t with groups := l₁ ++ { h with deleted := true } :: l₂ }
  | .insertMembership m, t, t' => t' = { t with memberships := t.memberships ++ [m] }
  | .deleteMembership a g, t, t' => t' = { t with
      memberships := t.memberships.filter fun m => !(m.account == a && m.group == g) }
  | .audit e, t, t' => t' = { t with audit := t.audit ++ [e] }

namespace Tables

variable {t t' : Tables}

/-! ### Live rows and lookups -/

@[simp] theorem mem_liveAccounts {a : Account} :
    a ∈ t.liveAccounts ↔ a ∈ t.accounts ∧ a.deleted = false := by
  simp [liveAccounts]

@[simp] theorem mem_liveGroups {g : Group} :
    g ∈ t.liveGroups ↔ g ∈ t.groups ∧ g.deleted = false := by
  simp [liveGroups]

theorem account?_eq_some {id : Int} {a : Account} (h : t.account? id = some a) :
    a ∈ t.liveAccounts ∧ a.id = id :=
  ⟨List.mem_of_find?_eq_some h, by simpa using List.find?_some h⟩

theorem group?_eq_some {id : Int} {g : Group} (h : t.group? id = some g) :
    g ∈ t.liveGroups ∧ g.id = id :=
  ⟨List.mem_of_find?_eq_some h, by simpa using List.find?_some h⟩

@[simp] theorem isMember_iff {account group : Int} :
    t.isMember account group = true ↔ ⟨account, group⟩ ∈ t.memberships := by
  simp only [isMember, List.any_eq_true, Bool.and_eq_true, beq_iff_eq]
  constructor
  · rintro ⟨⟨a, g⟩, hm, rfl, rfl⟩
    exact hm
  · intro hm
    exact ⟨_, hm, rfl, rfl⟩

/-! ### Identifiers held by other live rows

`exclude` names the row an update leaves out of the comparison; `0` leaves out none. -/

theorem uidTaken_eq_false {uid exclude : Int} :
    t.uidTaken uid exclude = false ↔
      ∀ a ∈ t.liveAccounts, a.uid = uid → exclude ≠ 0 ∧ a.id = exclude := by
  simp only [uidTaken, List.any_eq_false, Bool.and_eq_true, beq_iff_eq, Bool.or_eq_true,
    bne_iff_ne, ne_eq]
  exact forall₂_congr fun a _ => by grind

theorem usernameTaken_eq_false {name : String} {exclude : Int} :
    t.usernameTaken name exclude = false ↔
      ∀ a ∈ t.liveAccounts, a.username = name → exclude ≠ 0 ∧ a.id = exclude := by
  simp only [usernameTaken, List.any_eq_false, Bool.and_eq_true, beq_iff_eq, Bool.or_eq_true,
    bne_iff_ne, ne_eq]
  exact forall₂_congr fun a _ => by grind

theorem gidTaken_eq_false {gid exclude : Int} :
    t.gidTaken gid exclude = false ↔
      ∀ g ∈ t.liveGroups, g.gid = gid → exclude ≠ 0 ∧ g.id = exclude := by
  simp only [gidTaken, List.any_eq_false, Bool.and_eq_true, beq_iff_eq, Bool.or_eq_true,
    bne_iff_ne, ne_eq]
  exact forall₂_congr fun g _ => by grind

theorem groupnameTaken_eq_false {name : String} {exclude : Int} :
    t.groupnameTaken name exclude = false ↔
      ∀ g ∈ t.liveGroups, g.groupname = name → exclude ≠ 0 ∧ g.id = exclude := by
  simp only [groupnameTaken, List.any_eq_false, Bool.and_eq_true, beq_iff_eq, Bool.or_eq_true,
    bne_iff_ne, ne_eq]
  exact forall₂_congr fun g _ => by grind

theorem primaryCount_eq_zero {group : Int} :
    t.primaryCount group = 0 ↔ ∀ a ∈ t.liveAccounts, a.primaryGroup ≠ some group := by
  simp [primaryCount, List.filter_eq_nil_iff]

/-! ### The checks of a write -/

theorem ite_error_eq_ok {α : Type} {c : Prop} [Decidable c] {e : RegistryError}
    {x : Except RegistryError α} {v : α} :
    (if c then .error e else x) = .ok v ↔ ¬ c ∧ x = .ok v := by
  split <;> simp_all

theorem checkAccount_eq_ok {a : Account} :
    t.checkAccount a = .ok () ↔
      (∀ b ∈ t.liveAccounts, b.id ≠ a.id → b.uid ≠ a.uid ∧ b.username ≠ a.username) ∧
      ∀ g, a.primaryGroup = some g → ∃ h ∈ t.groups, h.id = g := by
  cases hg : a.primaryGroup with
  | none =>
    simp only [checkAccount, hg, ite_error_eq_ok]
    grind
  | some g =>
    simp only [checkAccount, hg, ite_error_eq_ok]
    grind

theorem checkGroup_eq_ok {g : Group} :
    t.checkGroup g = .ok () ↔
      ∀ h ∈ t.liveGroups, h.id ≠ g.id → h.gid ≠ g.gid ∧ h.groupname ≠ g.groupname := by
  simp only [checkGroup, ite_error_eq_ok]
  grind

theorem checkMembership_eq_ok {m : Membership} :
    t.checkMembership m = .ok () ↔
      (∃ a ∈ t.accounts, a.id = m.account) ∧ (∃ g ∈ t.groups, g.id = m.group) ∧
        m ∉ t.memberships := by
  obtain ⟨account, group⟩ := m
  simp only [checkMembership, ite_error_eq_ok, Bool.not_eq_true', List.any_eq_false, beq_iff_eq,
    isMember_iff]
  grind

/-! ### Writes -/

theorem apply_insertAccount_eq_ok {a : Account} :
    t.apply (.insertAccount a) = .ok t' ↔
      t.checkAccount a = .ok () ∧ t' = { t with accounts := t.accounts ++ [a] } := by
  cases h : t.checkAccount a <;> simp [apply, h, bind, Except.bind, pure, Except.pure, eq_comm]

theorem apply_updateAccount_eq_ok {a : Account} :
    t.apply (.updateAccount a) = .ok t' ↔
      t.checkAccount a = .ok () ∧ ∃ l, replaceFirst (fun b => b.id == a.id && !b.deleted)
        (fun _ => a) t.accounts = some l ∧ t' = { t with accounts := l } := by
  cases h : t.checkAccount a with
  | error e => simp [apply, h, bind, Except.bind]
  | ok u =>
    cases hr : replaceFirst (fun b => b.id == a.id && !b.deleted) (fun _ => a) t.accounts <;>
      simp [apply, h, hr, putAccount, bind, Except.bind, eq_comm]

theorem apply_deleteAccount_eq_ok {id : Int} :
    t.apply (.deleteAccount id) = .ok t' ↔
      ∃ l, replaceFirst (fun b => b.id == id && !b.deleted) (fun b => { b with deleted := true })
        t.accounts = some l ∧ t' = { t with accounts := l } := by
  cases hr : replaceFirst (fun b => b.id == id && !b.deleted) (fun b => { b with deleted := true })
    t.accounts <;> simp [apply, hr, eq_comm]

theorem apply_insertGroup_eq_ok {g : Group} :
    t.apply (.insertGroup g) = .ok t' ↔
      t.checkGroup g = .ok () ∧ t' = { t with groups := t.groups ++ [g] } := by
  cases h : t.checkGroup g <;> simp [apply, h, bind, Except.bind, pure, Except.pure, eq_comm]

theorem apply_updateGroup_eq_ok {g : Group} :
    t.apply (.updateGroup g) = .ok t' ↔
      t.checkGroup g = .ok () ∧ ∃ l, replaceFirst (fun h => h.id == g.id && !h.deleted)
        (fun _ => g) t.groups = some l ∧ t' = { t with groups := l } := by
  cases h : t.checkGroup g with
  | error e => simp [apply, h, bind, Except.bind]
  | ok u =>
    cases hr : replaceFirst (fun h => h.id == g.id && !h.deleted) (fun _ => g) t.groups <;>
      simp [apply, h, hr, putGroup, bind, Except.bind, eq_comm]

theorem apply_deleteGroup_eq_ok {id : Int} :
    t.apply (.deleteGroup id) = .ok t' ↔
      ∃ l, replaceFirst (fun h => h.id == id && !h.deleted) (fun h => { h with deleted := true })
        t.groups = some l ∧ t' = { t with groups := l } := by
  cases hr : replaceFirst (fun h => h.id == id && !h.deleted) (fun h => { h with deleted := true })
    t.groups <;> simp [apply, hr, eq_comm]

theorem apply_insertMembership_eq_ok {m : Membership} :
    t.apply (.insertMembership m) = .ok t' ↔
      t.checkMembership m = .ok () ∧ t' = { t with memberships := t.memberships ++ [m] } := by
  cases h : t.checkMembership m <;> simp [apply, h, bind, Except.bind, pure, Except.pure, eq_comm]

@[simp] theorem apply_deleteMembership {account group : Int} :
    t.apply (.deleteMembership account group) =
      .ok { t with memberships := t.memberships.filter fun m => !(m.account == account && m.group == group) } :=
  rfl

@[simp] theorem apply_audit {e : AuditEntry} :
    t.apply (.audit e) = .ok { t with audit := t.audit ++ [e] } :=
  rfl

/-- A replaced row is the first live row with the id, and the replacement stands where it
stood. -/
theorem replaceFirst_live {α : Type} {id : α → Int} {deleted : α → Bool} {i : Int}
    {f : α → α} {l l' : List α}
    (h : replaceFirst (fun b => id b == i && !deleted b) f l = some l') :
    ∃ l₁ b l₂, l = l₁ ++ b :: l₂ ∧ id b = i ∧ deleted b = false ∧ l' = l₁ ++ f b :: l₂ := by
  obtain ⟨l₁, b, l₂, rfl, -, hb, rfl⟩ := replaceFirst_eq_some_iff.mp h
  simp only [Bool.and_eq_true, beq_iff_eq, Bool.not_eq_true'] at hb
  exact ⟨l₁, b, l₂, rfl, hb.1, hb.2, rfl⟩

/-- **Every write does what its effect says.** -/
theorem apply_effect {w : Write} (h : t.apply w = .ok t') : w.Effect t t' := by
  cases w with
  | insertAccount a => exact (apply_insertAccount_eq_ok.mp h).2
  | updateAccount a =>
    obtain ⟨-, l, hr, rfl⟩ := apply_updateAccount_eq_ok.mp h
    obtain ⟨l₁, b, l₂, hl, hb, hd, rfl⟩ := replaceFirst_live hr
    exact ⟨l₁, b, l₂, hl, hb, hd, rfl⟩
  | deleteAccount id =>
    obtain ⟨l, hr, rfl⟩ := apply_deleteAccount_eq_ok.mp h
    obtain ⟨l₁, b, l₂, hl, hb, hd, rfl⟩ := replaceFirst_live hr
    exact ⟨l₁, b, l₂, hl, hb, hd, rfl⟩
  | insertGroup g => exact (apply_insertGroup_eq_ok.mp h).2
  | updateGroup g =>
    obtain ⟨-, l, hr, rfl⟩ := apply_updateGroup_eq_ok.mp h
    obtain ⟨l₁, b, l₂, hl, hb, hd, rfl⟩ := replaceFirst_live hr
    exact ⟨l₁, b, l₂, hl, hb, hd, rfl⟩
  | deleteGroup id =>
    obtain ⟨l, hr, rfl⟩ := apply_deleteGroup_eq_ok.mp h
    obtain ⟨l₁, b, l₂, hl, hb, hd, rfl⟩ := replaceFirst_live hr
    exact ⟨l₁, b, l₂, hl, hb, hd, rfl⟩
  | insertMembership m => exact (apply_insertMembership_eq_ok.mp h).2
  | deleteMembership a g => exact (apply_deleteMembership.symm.trans h |> Except.ok.inj).symm
  | audit e => exact (apply_audit.symm.trans h |> Except.ok.inj).symm

/-! ### Replays -/

@[simp] theorem replay_nil : t.replay [] = .ok t := rfl

theorem replay_cons {w : Write} {ws : List Write} :
    t.replay (w :: ws) = t.apply w >>= fun t₁ => t₁.replay ws := rfl

theorem replay_append {ws vs : List Write} :
    t.replay (ws ++ vs) = t.replay ws >>= fun t₁ => t₁.replay vs :=
  List.foldlM_append

theorem replay_cons_eq_ok {w : Write} {ws : List Write} :
    t.replay (w :: ws) = .ok t' ↔ ∃ t₁, t.apply w = .ok t₁ ∧ t₁.replay ws = .ok t' := by
  rw [replay_cons]
  cases t.apply w <;> simp [bind, Except.bind]

theorem replay_cons_eq_error {w : Write} {ws : List Write} {e : RegistryError} :
    t.replay (w :: ws) = .error e ↔
      t.apply w = .error e ∨ ∃ t₁, t.apply w = .ok t₁ ∧ t₁.replay ws = .error e := by
  rw [replay_cons]
  cases t.apply w <;> simp [bind, Except.bind]

/-- **A refused replay is refused by its first failing write**: the writes before it all go
through, and it fails on the tables they leave, with the replay's error. -/
theorem replay_eq_error_iff {ws : List Write} {e : RegistryError} :
    t.replay ws = .error e ↔
      ∃ l₁ w l₂ t₁, ws = l₁ ++ w :: l₂ ∧ t.replay l₁ = .ok t₁ ∧ t₁.apply w = .error e := by
  induction ws generalizing t with
  | nil => simp
  | cons v vs ih =>
    rw [replay_cons_eq_error]
    constructor
    · rintro (hv | ⟨t₁, hv, hvs⟩)
      · exact ⟨[], v, vs, t, rfl, rfl, hv⟩
      · obtain ⟨l₁, w, l₂, t₂, rfl, h₁, hw⟩ := ih.mp hvs
        exact ⟨v :: l₁, w, l₂, t₂, rfl, replay_cons_eq_ok.mpr ⟨t₁, hv, h₁⟩, hw⟩
    · rintro ⟨l₁, w, l₂, t₁, hws, h₁, hw⟩
      cases l₁ with
      | nil =>
        cases hws
        cases h₁
        exact .inl hw
      | cons u us =>
        cases hws
        obtain ⟨t₂, hu, hus⟩ := replay_cons_eq_ok.mp h₁
        exact .inr ⟨t₂, hu, ih.mpr ⟨us, w, l₂, t₁, rfl, hus, hw⟩⟩

end Tables

end PosixRegistry
