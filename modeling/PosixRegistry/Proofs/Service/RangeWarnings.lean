import PosixRegistry.Proofs.Service.CheckOrder
import PosixRegistry.Proofs.Service.Reads

/-!
# Services — identifiers judged against their ranges

A policy sorts every identifier into one of three verdicts against the range of a type, with no
condition on the range: crossed bounds and negative bounds are taken as given.

* `RangePolicy.judges`: a negative identifier is invalid, one inside the range is fine, and any
  other draws the warning that names its space, itself, the type and the range; when the type
  comes as a name, the sign is looked at first and an unreadable name is invalid next.
* `Registry.warnsOfRanges`: on every registry, a write of an account or a group that succeeds
  reports exactly the warnings its record's identifier draws against its record's type, in the
  user id space for accounts and the group id space for groups; on an update the record is the
  merged one, so a change of type alone can raise or clear a warning.  A request that gets as far
  as its identifier with a negative one is refused as negative and leaves the registry as it was.

The warnings of a success are read off the write specifications of `Writes`; the refusals of a
negative identifier come from running the services up to their judgement, which refuses before
the transaction begins (`Service.judge_bind_run_of_neg`).
-/

namespace PosixRegistry

private theorem toString_string (s : String) : toString s = s := rfl

/-- The message of a warning, piece by piece. -/
theorem RangeWarning.message_eq (w : RangeWarning) :
    w.message = "identifier " ++ toString w.id ++ " outside recommended range [" ++
      toString w.range.min ++ "," ++ toString w.range.max ++ "] for type " ++ w.type.name := by
  simp only [RangeWarning.message, IdRange.text, toString_string, String.append_assoc]
  -- the interpolation splits the literal texts at the range's brackets
  rw [← @String.append_assoc " outside recommended range " "[",
    ← @String.append_assoc "]" " for type "]
  rfl

namespace RangePolicy

variable (p : RangePolicy) (k : IdKind) (id : Int) (t : IdentityType)

/-- The warnings an identifier of a type draws in a space: none inside the type's range, and
otherwise the one that names the range. -/
def warningsFor : List RangeWarning :=
  if (p.rangeFor k t).contains id then [] else [⟨k, id, t, p.rangeFor k t⟩]

theorem contains_iff {r : IdRange} : r.contains id = true ↔ r.min ≤ id ∧ id ≤ r.max := by
  simp [IdRange.contains]

theorem judge_eq_invalid_negative_iff : p.judge k id t = .invalid .negative ↔ id < 0 := by
  unfold judge
  by_cases hneg : id < 0
  · simp [hneg]
  · by_cases hc : (p.rangeFor k t).contains id <;> simp [hneg, hc]

theorem judge_eq_fine_iff :
    p.judge k id t = .fine ↔ 0 ≤ id ∧ (p.rangeFor k t).min ≤ id ∧ id ≤ (p.rangeFor k t).max := by
  unfold judge
  by_cases hneg : id < 0
  · simp only [hneg, ↓reduceIte, reduceCtorEq, false_iff]
    omega
  · have hpos : 0 ≤ id := by omega
    by_cases hc : (p.rangeFor k t).contains id
    · simpa [hneg, hc, hpos] using (contains_iff id).mp hc
    · simpa [hneg, hc, hpos] using mt (contains_iff id).mpr hc

theorem judge_of_outside (hpos : 0 ≤ id)
    (hout : ¬((p.rangeFor k t).min ≤ id ∧ id ≤ (p.rangeFor k t).max)) :
    p.judge k id t = .warning ⟨k, id, t, p.rangeFor k t⟩ := by
  have hc : (p.rangeFor k t).contains id = false := by
    simpa using mt (contains_iff id).mp hout
  simp [judge, hc, not_lt.mpr hpos]

theorem judgeNamed_of_neg (name : String) (h : id < 0) :
    p.judgeNamed k id name = .invalid .negative := by
  simp [judgeNamed, h]

theorem judgeNamed_of_parse {name : String} (hpos : 0 ≤ id) (ht : IdentityType.parse name = some t) :
    p.judgeNamed k id name = p.judge k id t := by
  simp [judgeNamed, not_lt.mpr hpos, ht]

theorem judgeNamed_eq_unknown_iff (name : String) :
    p.judgeNamed k id name = .invalid (.unknownType name) ↔
      0 ≤ id ∧ IdentityType.parse name = none := by
  by_cases hneg : id < 0
  · simp [judgeNamed_of_neg p k id name hneg, not_le.mpr hneg]
  · have hpos : 0 ≤ id := by omega
    cases ht : IdentityType.parse name with
    | none => simp [judgeNamed, hneg, ht, hpos]
    | some u =>
      -- a type that is read gives a verdict of that type, never an invalid one other than negative
      rw [judgeNamed_of_parse p k id u hpos ht]
      simp only [reduceCtorEq, and_false, iff_false]
      intro h
      unfold judge at h
      dsimp only at h
      split_ifs at h

/-- The warnings a successful judgement hands on are those the identifier draws. -/
theorem warnings_of_judge {ws : List RangeWarning}
    (h : ((p.judge k id t).toResult k).map Option.toList = .ok ws) : ws = p.warningsFor k id t := by
  rw [judge_toResult] at h
  by_cases hneg : id < 0
  · simp [hneg, Except.map] at h
  · by_cases hc : (p.rangeFor k t).contains id <;>
      simpa [hneg, hc, Except.map, warningsFor, eq_comm] using h

/-- A warning names the identifier, the range and the type in one line. -/
theorem message_of_mem_warningsFor {w : RangeWarning} (hw : w ∈ p.warningsFor k id t) :
    w.message = "identifier " ++ toString id ++ " outside recommended range [" ++
      toString (p.rangeFor k t).min ++ "," ++ toString (p.rangeFor k t).max ++ "] for type " ++
      t.name := by
  unfold warningsFor at hw
  split_ifs at hw with hc
  · simp at hw
  · obtain rfl := List.mem_singleton.mp hw
    exact RangeWarning.message_eq _

/-- **How a policy judges identifiers**, whatever its ranges: a negative identifier is invalid,
one inside the type's range is fine, any other draws the warning naming the space, the
identifier, the type and the range, whose message reads
`identifier <id> outside recommended range [<min>,<max>] for type <t>`.  With the type given by
name, a negative identifier is invalid whatever the name, an unreadable name is invalid exactly
when the identifier is not negative, and a readable one is judged as its type. -/
structure Judges (p : RangePolicy) : Prop where
  negative : ∀ k id t, p.judge k id t = .invalid .negative ↔ id < 0
  fine : ∀ k id t,
    p.judge k id t = .fine ↔ 0 ≤ id ∧ (p.rangeFor k t).min ≤ id ∧ id ≤ (p.rangeFor k t).max
  warning : ∀ k id t, 0 ≤ id → ¬((p.rangeFor k t).min ≤ id ∧ id ≤ (p.rangeFor k t).max) →
    p.judge k id t = .warning ⟨k, id, t, p.rangeFor k t⟩
  message : ∀ k id t, ∀ w ∈ p.warningsFor k id t,
    w.message = "identifier " ++ toString id ++ " outside recommended range [" ++
      toString (p.rangeFor k t).min ++ "," ++ toString (p.rangeFor k t).max ++ "] for type " ++
      t.name
  named_negative : ∀ k id name, id < 0 → p.judgeNamed k id name = .invalid .negative
  named_unknown : ∀ k id name,
    p.judgeNamed k id name = .invalid (.unknownType name) ↔ 0 ≤ id ∧ IdentityType.parse name = none
  named_parsed : ∀ k id name t, 0 ≤ id → IdentityType.parse name = some t →
    p.judgeNamed k id name = p.judge k id t

theorem judges : p.Judges where
  negative := p.judge_eq_invalid_negative_iff
  fine := p.judge_eq_fine_iff
  warning := p.judge_of_outside
  message k id t _ := p.message_of_mem_warningsFor k id t
  named_negative := p.judgeNamed_of_neg
  named_unknown := p.judgeNamed_eq_unknown_iff
  named_parsed k id _ t := p.judgeNamed_of_parse k id t

end RangePolicy

namespace Service

variable {p : RangePolicy} {actor : Actor} {r r' : Registry}

/-! ### Warnings of a success -/

theorem createAccount_warnings {req : NewAccount} {v : Applied Account}
    (h : (createAccount p req actor).run.run r = (.ok v, r')) :
    v.warnings = p.warningsFor .uid v.record.uid v.record.type := by
  have hspec := run_of_triple (createAccount_spec p req actor r) (r := r) rfl
  rw [h] at hspec
  obtain ⟨-, type, -, hrec, hw, -⟩ := hspec
  have htype : v.record.type = type := by rw [hrec]; rfl
  rw [htype]
  exact p.warnings_of_judge .uid _ type hw

theorem updateAccount_warnings {id : Int} {req : AccountChange} {v : Applied Account}
    (h : (updateAccount p id req actor).run.run r = (.ok v, r')) :
    v.warnings = p.warningsFor .uid v.record.uid v.record.type := by
  have hspec := run_of_triple (updateAccount_spec p id req actor r) (r := r) rfl
  rw [h] at hspec
  obtain ⟨-, a, -, type, -, hrec, hw, -⟩ := hspec
  have htype : v.record.type = type := by rw [hrec]; rfl
  rw [htype]
  exact p.warnings_of_judge .uid _ type hw

theorem createGroup_warnings {req : NewGroup} {v : Applied Group}
    (h : (createGroup p req actor).run.run r = (.ok v, r')) :
    v.warnings = p.warningsFor .gid v.record.gid v.record.type := by
  have hspec := run_of_triple (createGroup_spec p req actor r) (r := r) rfl
  rw [h] at hspec
  obtain ⟨-, type, -, hrec, hw, -⟩ := hspec
  have htype : v.record.type = type := by rw [hrec]; rfl
  rw [htype]
  exact p.warnings_of_judge .gid _ type hw

theorem updateGroup_warnings {id : Int} {req : GroupChange} {v : Applied Group}
    (h : (updateGroup p id req actor).run.run r = (.ok v, r')) :
    v.warnings = p.warningsFor .gid v.record.gid v.record.type := by
  have hspec := run_of_triple (updateGroup_spec p id req actor r) (r := r) rfl
  rw [h] at hspec
  obtain ⟨-, g, -, type, -, hrec, hw, -⟩ := hspec
  have htype : v.record.type = type := by rw [hrec]; rfl
  rw [htype]
  exact p.warnings_of_judge .gid _ type hw

/-! ### Refusals of a negative identifier -/

theorem checkRules_nil : checkRules [] = pure () := rfl

theorem parseType_of_parse {s : String} {t : IdentityType} (h : IdentityType.parse s = some t) :
    parseType s = pure t := by
  simp [parseType, h]

/-- A judgement of a negative identifier refuses at once, before anything after it runs, and
leaves the registry as it was. -/
theorem judge_bind_run_of_neg {β : Type} {k : IdKind} {id : Int} {t : IdentityType} (h : id < 0)
    (f : List RangeWarning → Service β) (r : Registry) :
    (judge p k id t >>= f).run.run r = (.error (.registry (.negativeIdentifier k)), r) := by
  simp only [judge, RangePolicy.judge_toResult, h, if_true, lift, fail, bind_assoc]
  rfl

theorem createAccount_run_of_neg {req : NewAccount} {type : IdentityType}
    (hv : req.violations = []) (ht : IdentityType.parse req.type = some type)
    (hneg : req.uid.getD (p.nextAfter .uid (r.tables.maxUid type) type) < 0) :
    (createAccount p req actor).run.run r = (.error (.registry (.negativeIdentifier .uid)), r) := by
  cases hu : req.uid with
  | some u =>
    rw [hu, Option.getD_some] at hneg
    simp only [createAccount, hv, checkRules_nil, parseType_of_parse ht, hu, pure_bind]
    exact judge_bind_run_of_neg hneg _ r
  | none =>
    -- the proposal reads the tables, and then the judgement refuses it
    rw [hu, Option.getD_none] at hneg
    simp only [createAccount, hv, checkRules_nil, parseType_of_parse ht, hu, pure_bind, nextUid,
      bind_assoc]
    -- a rewrite, not a definitional unfolding, keeps the kernel off the whole continuation
    rw [tables_bind_run]
    exact judge_bind_run_of_neg hneg _ r

theorem createGroup_run_of_neg {req : NewGroup} {type : IdentityType}
    (hv : req.violations = []) (ht : IdentityType.parse req.type = some type)
    (hneg : req.gid.getD (p.nextAfter .gid (r.tables.maxGid type) type) < 0) :
    (createGroup p req actor).run.run r = (.error (.registry (.negativeIdentifier .gid)), r) := by
  cases hu : req.gid with
  | some u =>
    rw [hu, Option.getD_some] at hneg
    simp only [createGroup, hv, checkRules_nil, parseType_of_parse ht, hu, pure_bind]
    exact judge_bind_run_of_neg hneg _ r
  | none =>
    rw [hu, Option.getD_none] at hneg
    simp only [createGroup, hv, checkRules_nil, parseType_of_parse ht, hu, pure_bind, nextGid,
      bind_assoc]
    rw [tables_bind_run]
    exact judge_bind_run_of_neg hneg _ r

theorem updateAccount_run_of_neg {id : Int} {req : AccountChange} {a : Account}
    {type : IdentityType} (hv : req.violations = []) (ha : r.tables.account? id = some a)
    (ht : req.type.elim (some a.type) IdentityType.parse = some type)
    (hneg : req.uid.getD a.uid < 0) :
    (updateAccount p id req actor).run.run r =
      (.error (.registry (.negativeIdentifier .uid)), r) := by
  simp only [updateAccount, hv, checkRules_nil, pure_bind, findAccount, bind_assoc,
    tables_bind_run, ha]
  -- the type resolves before the judgement, to the new type or the old one
  cases hs : req.type with
  | some s =>
    rw [hs] at ht
    simp only [parseType_of_parse ht, pure_bind]
    exact judge_bind_run_of_neg hneg _ r
  | none =>
    rw [hs] at ht
    obtain rfl : a.type = type := Option.some.inj ht
    exact judge_bind_run_of_neg hneg _ r

theorem updateGroup_run_of_neg {id : Int} {req : GroupChange} {g : Group} {type : IdentityType}
    (hv : req.violations = []) (hg : r.tables.group? id = some g)
    (ht : req.type.elim (some g.type) IdentityType.parse = some type)
    (hneg : req.gid.getD g.gid < 0) :
    (updateGroup p id req actor).run.run r = (.error (.registry (.negativeIdentifier .gid)), r) := by
  simp only [updateGroup, hv, checkRules_nil, pure_bind, findGroup, bind_assoc, tables_bind_run,
    hg]
  cases hs : req.type with
  | some s =>
    rw [hs] at ht
    simp only [parseType_of_parse ht, pure_bind]
    exact judge_bind_run_of_neg hneg _ r
  | none =>
    rw [hs] at ht
    obtain rfl : g.type = type := Option.some.inj ht
    exact judge_bind_run_of_neg hneg _ r

end Service

namespace Registry

/-- **What the writes of accounts and groups report of their identifiers**, on a registry and
under a policy: a creation or a change that succeeds carries exactly the warnings its record's
identifier draws against its record's type, user ids for accounts and group ids for groups.  A
request that passes the field rules and names a readable type (and, for a change, a live record)
and whose identifier (the one given, the one proposed, or the one kept) is negative is refused
as negative and leaves the registry as it was. -/
structure WarnsOfRanges (r : Registry) (p : RangePolicy) : Prop where
  createAccount : ∀ req actor v r',
    (Service.createAccount p req actor).run.run r = (.ok v, r') →
      v.warnings = p.warningsFor .uid v.record.uid v.record.type
  updateAccount : ∀ id req actor v r',
    (Service.updateAccount p id req actor).run.run r = (.ok v, r') →
      v.warnings = p.warningsFor .uid v.record.uid v.record.type
  createGroup : ∀ req actor v r',
    (Service.createGroup p req actor).run.run r = (.ok v, r') →
      v.warnings = p.warningsFor .gid v.record.gid v.record.type
  updateGroup : ∀ id req actor v r',
    (Service.updateGroup p id req actor).run.run r = (.ok v, r') →
      v.warnings = p.warningsFor .gid v.record.gid v.record.type
  createAccount_negative : ∀ req actor type, req.violations = [] →
    IdentityType.parse req.type = some type →
    req.uid.getD (p.nextAfter .uid (r.tables.maxUid type) type) < 0 →
    (Service.createAccount p req actor).run.run r =
      (.error (.registry (.negativeIdentifier .uid)), r)
  updateAccount_negative : ∀ id req actor a type, req.violations = [] →
    r.tables.account? id = some a → req.type.elim (some a.type) IdentityType.parse = some type →
    req.uid.getD a.uid < 0 →
    (Service.updateAccount p id req actor).run.run r =
      (.error (.registry (.negativeIdentifier .uid)), r)
  createGroup_negative : ∀ req actor type, req.violations = [] →
    IdentityType.parse req.type = some type →
    req.gid.getD (p.nextAfter .gid (r.tables.maxGid type) type) < 0 →
    (Service.createGroup p req actor).run.run r =
      (.error (.registry (.negativeIdentifier .gid)), r)
  updateGroup_negative : ∀ id req actor g type, req.violations = [] →
    r.tables.group? id = some g → req.type.elim (some g.type) IdentityType.parse = some type →
    req.gid.getD g.gid < 0 →
    (Service.updateGroup p id req actor).run.run r =
      (.error (.registry (.negativeIdentifier .gid)), r)

theorem warnsOfRanges (r : Registry) (p : RangePolicy) : r.WarnsOfRanges p where
  createAccount _ _ _ _ := Service.createAccount_warnings
  updateAccount _ _ _ _ _ := Service.updateAccount_warnings
  createGroup _ _ _ _ := Service.createGroup_warnings
  updateGroup _ _ _ _ _ := Service.updateGroup_warnings
  createAccount_negative _ _ _ := Service.createAccount_run_of_neg
  updateAccount_negative _ _ _ _ _ := Service.updateAccount_run_of_neg
  createGroup_negative _ _ _ := Service.createGroup_run_of_neg
  updateGroup_negative _ _ _ _ _ := Service.updateGroup_run_of_neg

end Registry

/-- **Identifiers are judged against their ranges.**  Under every policy, whatever its ranges: an
identifier is invalid exactly when negative, fine exactly when it is not and lies in its type's
range, and otherwise draws the one warning
`identifier <id> outside recommended range [<min>,<max>] for type <t>`; a type given by name is
looked at only for an identifier that is not negative, and is invalid exactly when unreadable.
On every registry, each successful creation or change of an account or a group reports the
warnings its record's identifier draws against its record's (merged) type, in its own space, and
a negative identifier is refused as negative with nothing written. -/
theorem identifiers_judged_against_ranges (p : RangePolicy) :
    p.Judges ∧ ∀ r : Registry, r.WarnsOfRanges p :=
  ⟨p.judges, fun r => r.warnsOfRanges p⟩

end PosixRegistry
