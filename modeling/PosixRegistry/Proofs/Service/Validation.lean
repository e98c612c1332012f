import Mathlib.Computability.RegularExpressions
import PosixRegistry.Registry.Service.Step
import PosixRegistry.Proofs.Text.Bytes

/-!
# Services — field rules accept exactly their grammar

A name field passes its rules when it has 1 to 32 characters and, as a whole, is a word of the
Unix name grammar `^[a-z_][a-z0-9_-]*\$?$` (`isUnixName_iff`, with the grammar as a regular
expression `UnixName.regex`); a first or last name passes with at most 64 characters, a
description with at most 255, and an id of a membership request with a value of at least 1.

Each request states its rules as a list of `FieldRule`s, each with its field, its message and
whether the request keeps it, and a request's violations are its broken rules, item by item
(`RulesJudge`).  A refusal is `Validation error: ` and the items of the broken rules sorted as
byte strings and joined with `, `, and it does not depend on the order the violations come in:
a list of texts has one byte-wise sorted permutation (`SortedItems.unique`).
-/

namespace PosixRegistry

/-! ### The Unix name grammar -/

namespace UnixName

open RegularExpression

/-- The lowercase ASCII letters. -/
def lowercase : List Char :=
  ['a', 'b', 'c', 'd', 'e', 'f', 'g', 'h', 'i', 'j', 'k', 'l', 'm', 'n', 'o', 'p', 'q', 'r',
   's', 't', 'u', 'v', 'w', 'x', 'y', 'z']

/-- The decimal digits. -/
def digits : List Char := ['0', '1', '2', '3', '4', '5', '6', '7', '8', '9']

/-- `[a-z_]`: the characters a name may start with. -/
def firstClass : List Char := lowercase ++ ['_']

/-- `[a-z0-9_-]`: the characters that may follow. -/
def restClass : List Char := lowercase ++ digits ++ ['_', '-']

/-- A character class: the expression matching one of the characters. -/
def oneOf (cs : List Char) : RegularExpression Char := cs.foldr (fun c r => char c + r) 0

/-- The Unix name grammar `^[a-z_][a-z0-9_-]*\$?$` as a regular expression, matched against a
whole name. -/
def regex : RegularExpression Char := oneOf firstClass * (oneOf restClass).star * (1 + char '$')

theorem mem_oneOf {cs : List Char} {w : List Char} :
    w ∈ (oneOf cs).matches' ↔ ∃ c ∈ cs, w = [c] := by
  induction cs with
  | nil => simp [oneOf]
  | cons c cs ih =>
    simp only [oneOf, List.foldr_cons, matches'_add, matches'_char, Language.mem_add] at ih ⊢
    rw [ih, List.exists_mem_cons_iff]
    exact Iff.rfl

theorem mem_oneOf_star {cs : List Char} {w : List Char} :
    w ∈ (oneOf cs).star.matches' ↔ ∀ c ∈ w, c ∈ cs := by
  rw [matches'_star, Language.mem_kstar]
  constructor
  · rintro ⟨L, rfl, hL⟩ c hc
    obtain ⟨y, hy, hcy⟩ := List.mem_flatten.mp hc
    obtain ⟨d, hd, rfl⟩ := mem_oneOf.mp (hL y hy)
    obtain rfl := List.mem_singleton.mp hcy
    exact hd
  · -- a word of the class's characters is the join of its one-character words
    intro h
    refine ⟨w.map fun c => [c], ?_, fun y hy => ?_⟩
    · clear h
      induction w with
      | nil => rfl
      | cons c w ih => simpa using ih
    · obtain ⟨c, hc, rfl⟩ := List.mem_map.mp hy
      exact mem_oneOf.mpr ⟨c, h c hc, rfl⟩

/-- A class that lies in a range of code points and lists each of them holds exactly the range;
both sides are finite checks. -/
theorem mem_class_iff {cs : List Char} {lo hi : Char}
    (hin : cs.all (fun d => decide (lo ≤ d ∧ d ≤ hi)) = true)
    (hall : ∀ n < hi.toNat + 1, lo.toNat ≤ n → Char.ofNat n ∈ cs) {c : Char} :
    c ∈ cs ↔ lo ≤ c ∧ c ≤ hi := by
  refine ⟨fun h => of_decide_eq_true (List.all_eq_true.mp hin c h), fun ⟨hlo, hhi⟩ => ?_⟩
  have h1 : lo.toNat ≤ c.toNat := hlo
  have h2 : c.toNat ≤ hi.toNat := hhi
  have hc := hall c.toNat (by omega) h1
  rwa [Char.ofNat_toNat] at hc

theorem mem_lowercase {c : Char} : c ∈ lowercase ↔ 'a' ≤ c ∧ c ≤ 'z' :=
  mem_class_iff (by decide) (by decide)

theorem mem_digits {c : Char} : c ∈ digits ↔ '0' ≤ c ∧ c ≤ '9' :=
  mem_class_iff (by decide) (by decide)

theorem mem_firstClass {c : Char} :
    c ∈ firstClass ↔ ((('a' ≤ c && c ≤ 'z') || c == '_') = true) := by
  simp [firstClass, mem_lowercase]

theorem mem_restClass {c : Char} :
    c ∈ restClass ↔
      ((('a' ≤ c && c ≤ 'z') || ('0' ≤ c && c ≤ '9') || c == '_' || c == '-') = true) := by
  simp [restClass, mem_lowercase, mem_digits, or_assoc]

theorem dollar_not_mem_firstClass : '$' ∉ firstClass := by decide

theorem dollar_not_mem_restClass : '$' ∉ restClass := by decide

/-- A name body: a character of the first class, then characters of the second. -/
def Body (w : List Char) : Prop :=
  ∃ c rest, w = c :: rest ∧ c ∈ firstClass ∧ ∀ d ∈ rest, d ∈ restClass

theorem body_cons_iff {c : Char} {rest : List Char} :
    Body (c :: rest) ↔ c ∈ firstClass ∧ ∀ d ∈ rest, d ∈ restClass := by
  simp [Body]

theorem not_body_nil : ¬ Body [] := by
  simp [Body]

/-- A word of the grammar is a body, with or without one `$` after it. -/
theorem mem_regex {w : List Char} :
    w ∈ regex.matches' ↔ Body w ∨ ∃ body, Body body ∧ w = body ++ ['$'] := by
  simp only [regex, matches'_mul, matches'_add, matches'_epsilon, matches'_char, Language.mem_mul,
    Language.mem_add, Language.mem_one, mem_oneOf, mem_oneOf_star]
  constructor
  · rintro ⟨ab, ⟨a, ⟨c, hc, rfl⟩, rest, hrest, rfl⟩, s, hs, rfl⟩
    rcases hs with rfl | rfl
    · exact .inl ⟨c, rest, by simp, hc, hrest⟩
    · exact .inr ⟨c :: rest, ⟨c, rest, rfl, hc, hrest⟩, by simp⟩
  · rintro (⟨c, rest, rfl, hc, hrest⟩ | ⟨_, ⟨c, rest, rfl, hc, hrest⟩, rfl⟩)
    · exact ⟨c :: rest, ⟨[c], ⟨c, hc, rfl⟩, rest, hrest, rfl⟩, [], .inl rfl, by simp⟩
    · exact ⟨c :: rest, ⟨[c], ⟨c, hc, rfl⟩, rest, hrest, rfl⟩, ['$'], .inr rfl, by simp⟩

/-- A body never ends in `$`: neither class holds it. -/
theorem not_body_append_dollar (w : List Char) : ¬ Body (w ++ ['$']) := by
  rintro ⟨c, rest, hw, hc, hrest⟩
  have hmem : '$' ∈ c :: rest := hw ▸ List.mem_append_right w (List.mem_singleton_self '$')
  rcases List.mem_cons.mp hmem with rfl | h
  · exact dollar_not_mem_firstClass hc
  · exact dollar_not_mem_restClass (hrest '$' h)

theorem unixNameRest_iff {rest : List Char} :
    unixNameRest rest = true ↔ ∀ d ∈ rest, d ∈ restClass := by
  simp [unixNameRest, mem_restClass]

end UnixName

open UnixName in
/-- **The Unix name rule accepts exactly its grammar**: a name passes when, as a whole, it
matches `^[a-z_][a-z0-9_-]*\$?$`; so `$` alone, a second `$` and every character outside ASCII
are refused. -/
theorem isUnixName_iff (name : String) :
    isUnixName name = true ↔ name.toList ∈ regex.matches' := by
  rw [mem_regex]
  unfold isUnixName
  rcases List.eq_nil_or_concat name.toList with h | ⟨xs, b, h⟩
  · simp [h, not_body_nil]
  · rw [h, List.concat_eq_append]
    by_cases hb : b = '$'
    · -- one trailing `$` is dropped, and what is left must be a body
      subst hb
      simp only [List.getLast?_concat, beq_self_eq_true, ↓reduceIte, List.dropLast_concat,
        List.append_cancel_right_eq, exists_eq_right', not_body_append_dollar, false_or]
      cases xs with
      | nil => simp [not_body_nil]
      | cons c rest => simp [body_cons_iff, mem_firstClass, unixNameRest_iff]
    · -- no `$` to drop: the whole name must be a body
      have hne : ((xs ++ [b]).getLast? == some '$') = false := by simp [hb]
      have hno : ¬∃ body, Body body ∧ xs ++ [b] = body ++ ['$'] := by
        rintro ⟨body, -, heq⟩
        exact hb (List.singleton_inj.mp (List.append_inj' heq rfl).2)
      simp only [hne, Bool.false_eq_true, ↓reduceIte, hno, or_false]
      cases xs with
      | nil => simp [body_cons_iff, mem_firstClass, unixNameRest_iff]
      | cons c rest => simp [body_cons_iff, mem_firstClass, unixNameRest_iff]

/-! ### The rules a request states -/

/-- A field rule as a request states it: the field, the message of its refusal, and whether
the request keeps it. -/
structure FieldRule where
  field : String
  message : String
  kept : Bool

/-- The item of a refusal for a broken rule. -/
def FieldRule.item (x : FieldRule) : String := x.field ++ ": " ++ x.message

/-- The items of the rules that are broken, in the order the rules are stated. -/
def brokenItems (rules : List FieldRule) : List String :=
  (rules.filter fun x => !x.kept).map FieldRule.item

/-- A name of 1 to 32 characters that, as a whole, is a word of the Unix name grammar. -/
def IsName (s : String) : Prop :=
  1 ≤ s.length ∧ s.length ≤ 32 ∧ s.toList ∈ UnixName.regex.matches'

/-- The two rules of a name field: its length, then its grammar. -/
def nameRules (field lengthMessage s : String) : List FieldRule :=
  [⟨field, lengthMessage, decide (1 ≤ s.length ∧ s.length ≤ 32)⟩,
   ⟨field, "must start with a lowercase letter or underscore and contain only a-z, 0-9, '_' or '-'",
     decide (s.toList ∈ UnixName.regex.matches')⟩]

/-- The rule of a text of at most `max` characters. -/
def boundRule (field message : String) (max : Nat) (s : String) : List FieldRule :=
  [⟨field, message, decide (s.length ≤ max)⟩]

/-- The rule of an id of at least 1. -/
def positiveIdRule (field message : String) (id : Int) : List FieldRule :=
  [⟨field, message, decide (1 ≤ id)⟩]

/-- The rules of an account creation request. -/
def NewAccount.rules (r : NewAccount) : List FieldRule :=
  nameRules "username" "Username must be 1-32 characters" r.username ++
  (r.firstName.map
    (boundRule "first_name" "First name must be at most 64 characters" 64)).getD [] ++
  (r.lastName.map (boundRule "last_name" "Last name must be at most 64 characters" 64)).getD []

/-- The rules of an account change request: an absent field has none. -/
def AccountChange.rules (r : AccountChange) : List FieldRule :=
  (r.username.map (nameRules "username" "Username must be 1-32 characters")).getD [] ++
  (r.firstName.map
    (boundRule "first_name" "First name must be at most 64 characters" 64)).getD [] ++
  (r.lastName.map (boundRule "last_name" "Last name must be at most 64 characters" 64)).getD []

/-- The rules of a group creation request. -/
def NewGroup.rules (r : NewGroup) : List FieldRule :=
  nameRules "groupname" "Group name must be 1-32 characters" r.groupname ++
  (r.description.map
    (boundRule "description" "Description must be at most 255 characters" 255)).getD []

/-- The rules of a group change request: an absent field has none. -/
def GroupChange.rules (r : GroupChange) : List FieldRule :=
  (r.groupname.map (nameRules "groupname" "Group name must be 1-32 characters")).getD [] ++
  (r.description.map
    (boundRule "description" "Description must be at most 255 characters" 255)).getD []

/-- The rules of a membership request. -/
def MembershipRequest.rules (r : MembershipRequest) : List FieldRule :=
  positiveIdRule "account_id" "account_id must be positive" r.account ++
  positiveIdRule "group_id" "group_id must be positive" r.group

@[simp] theorem brokenItems_nil : brokenItems [] = [] := rfl

@[simp] theorem brokenItems_append (xs ys : List FieldRule) :
    brokenItems (xs ++ ys) = brokenItems xs ++ brokenItems ys := by
  simp [brokenItems]

theorem brokenItems_eq_nil_iff {rules : List FieldRule} :
    brokenItems rules = [] ↔ ∀ x ∈ rules, x.kept = true := by
  simp [brokenItems, List.filter_eq_nil_iff]

/-! ### The violations are the broken rules -/

@[simp] theorem item_some (field code m : String) (params : List (String × Json.Value)) :
    Violation.item ⟨field, code, some m, params⟩ = field ++ ": " ++ m := rfl

theorem lengthRule_items (field message : String) (min : Option Nat) (max : Nat) (s : String) :
    (lengthRule field message min max s).map Violation.item =
      brokenItems [⟨field, message, min.all (· ≤ s.length) && decide (s.length ≤ max)⟩] := by
  by_cases h : (min.all (· ≤ s.length) && decide (s.length ≤ max)) = true
  · simp only [lengthRule, h, if_true]
    simp [brokenItems]
  · simp only [lengthRule, h, Bool.false_eq_true, if_false]
    simp [brokenItems, FieldRule.item]

theorem unixNameRule_items (field s : String) :
    (unixNameRule field s).map Violation.item =
      brokenItems [⟨field, unixNameMessage, decide (s.toList ∈ UnixName.regex.matches')⟩] := by
  by_cases h : isUnixName s = true
  · simp [unixNameRule, h, brokenItems, (isUnixName_iff s).mp h]
  · have hno : s.toList ∉ UnixName.regex.matches' := fun hm => h ((isUnixName_iff s).mpr hm)
    simp [unixNameRule, h, hno, brokenItems, FieldRule.item]

theorem positiveRule_items (field : String) (id : Int) :
    (positiveRule field id).map Violation.item =
      brokenItems (positiveIdRule field (field ++ " must be positive") id) := by
  by_cases h : 1 ≤ id
  · simp [positiveRule, positiveIdRule, brokenItems, h]
  · simp [positiveRule, positiveIdRule, brokenItems, h, FieldRule.item]
    rfl

/-- A name field's violations are the broken rules of `nameRules`. -/
theorem nameRules_items (field lengthMessage s : String) :
    (lengthRule field lengthMessage (some 1) 32 s ++ unixNameRule field s).map Violation.item =
      brokenItems (nameRules field lengthMessage s) := by
  rw [List.map_append, lengthRule_items, unixNameRule_items, ← brokenItems_append]
  simp [nameRules, unixNameMessage]

theorem usernameRules_items (s : String) :
    (usernameRules s).map Violation.item =
      brokenItems (nameRules "username" "Username must be 1-32 characters" s) :=
  nameRules_items _ _ s

theorem groupnameRules_items (s : String) :
    (groupnameRules s).map Violation.item =
      brokenItems (nameRules "groupname" "Group name must be 1-32 characters" s) :=
  nameRules_items _ _ s

theorem boundRule_items (field message : String) (max : Nat) (s : String) :
    (lengthRule field message none max s).map Violation.item =
      brokenItems (boundRule field message max s) := by
  rw [lengthRule_items]
  simp [boundRule]

/-- The rules of an optional field are kept on its value, and an absent field breaks none. -/
theorem items_getD_map {f : String → List Violation} {g : String → List FieldRule}
    (h : ∀ s, (f s).map Violation.item = brokenItems (g s)) (o : Option String) :
    ((o.map f).getD []).map Violation.item = brokenItems ((o.map g).getD []) := by
  cases o <;> simp [h]

theorem kept_getD_map {g : String → List FieldRule} {P : String → Prop}
    (h : ∀ s, (∀ x ∈ g s, x.kept = true) ↔ P s) (o : Option String) :
    (∀ x ∈ (o.map g).getD [], x.kept = true) ↔ ∀ s ∈ o, P s := by
  cases o <;> simp [h]

theorem kept_nameRules (field lengthMessage s : String) :
    (∀ x ∈ nameRules field lengthMessage s, x.kept = true) ↔ IsName s := by
  simp [nameRules, IsName, and_assoc]

theorem kept_boundRule (field message : String) (max : Nat) (s : String) :
    (∀ x ∈ boundRule field message max s, x.kept = true) ↔ s.length ≤ max := by
  simp [boundRule]

/-! ### Sorting the items -/

/-- `L` is `items` sorted as byte strings. -/
def SortedItems (items L : List String) : Prop :=
  L.Perm items ∧ L.Pairwise fun a b => Text.utf8Bytes a ≤ Text.utf8Bytes b

/-- A list of texts has one byte-wise sorted permutation: two texts with the same bytes either
way round are one text. -/
theorem SortedItems.unique {items L L' : List String} (h : SortedItems items L)
    (h' : SortedItems items L') : L = L' := by
  refine (h.1.trans h'.1.symm).eq_of_pairwise (fun a b _ _ hab hba => ?_) h.2 h'.2
  rw [← Text.le_iff_utf8Bytes_le] at hab hba
  exact String.le_antisymm hab hba

/-- The service sorts the items byte-wise. -/
theorem sortTexts_sorted (items : List String) : SortedItems items (sortTexts items) := by
  refine ⟨List.mergeSort_perm _ _, ?_⟩
  have hsorted : (sortTexts items).Pairwise fun a b => (!(b < a)) = true :=
    List.pairwise_mergeSort (fun a b c hab hbc => by
      simp only [Bool.not_eq_eq_eq_not, Bool.not_true, decide_eq_false_iff_not] at *
      exact String.not_lt.mpr (String.le_trans (String.not_lt.mp hab) (String.not_lt.mp hbc)))
    (fun a b => by
      simp only [Bool.or_eq_true, Bool.not_eq_eq_eq_not, Bool.not_true, decide_eq_false_iff_not]
      rcases String.le_total a b with hab | hba
      · exact .inl (String.not_lt.mpr hab)
      · exact .inr (String.not_lt.mpr hba)) items
  refine hsorted.imp fun {a b} hab => ?_
  simp only [Bool.not_eq_eq_eq_not, Bool.not_true, decide_eq_false_iff_not] at hab
  exact (Text.le_iff_utf8Bytes_le a b).mp (String.not_lt.mp hab)

/-- **A refusal does not depend on the order of the violations**: it is the validation error
with the items sorted byte-wise, for violations in any order. -/
theorem violationsError_of_perm {vs ws : List Violation} (h : vs.Perm ws) {L : List String}
    (hL : SortedItems (ws.map Violation.item) L) :
    violationsError vs = .invalid (", ".intercalate L) := by
  have hsorted := sortTexts_sorted (vs.map Violation.item)
  have hperm : SortedItems (ws.map Violation.item) (sortTexts (vs.map Violation.item)) :=
    ⟨hsorted.1.trans (h.map Violation.item), hsorted.2⟩
  rw [violationsError, hperm.unique hL]

/-! ### How the rules judge a request -/

/-- How a request's field rules judge it: it passes exactly when `valid` holds, and then the
service goes on; its violations are its broken rules item by item; and a request that fails is
refused, before anything changes, with `Validation error: ` and the items of its broken rules
sorted byte-wise and joined with `, `, whatever order its violations come in. -/
structure RulesJudge (violations : List Violation) (rules : List FieldRule) (valid : Prop) :
    Prop where
  passes : violations = [] ↔ valid
  items : violations.map Violation.item = brokenItems rules
  refusal : ∀ vs : List Violation, vs.Perm violations → ∃ L, SortedItems (brokenItems rules) L ∧
    violationsError vs = .invalid (", ".intercalate L) ∧
    (violationsError vs).message = "Validation error: " ++ ", ".intercalate L
  check_pass : valid → ∀ r, (Service.checkRules violations).run.run r = (.ok (), r)
  check_fail : ¬valid → ∀ r,
    (Service.checkRules violations).run.run r = (.error (violationsError violations), r)

/-- The judgement of a request follows from its violations' items being its broken rules and
its rules being kept exactly when `valid` holds. -/
theorem RulesJudge.of_items {violations : List Violation} {rules : List FieldRule} {valid : Prop}
    (hitems : violations.map Violation.item = brokenItems rules)
    (hkept : (∀ x ∈ rules, x.kept = true) ↔ valid) : RulesJudge violations rules valid := by
  have hpass : violations = [] ↔ valid := by
    rw [← hkept, ← brokenItems_eq_nil_iff, ← hitems, List.map_eq_nil_iff]
  refine ⟨hpass, hitems, fun vs hvs => ?_, fun hv r => ?_, fun hv r => ?_⟩
  · have hsorted := sortTexts_sorted (brokenItems rules)
    have hL : SortedItems (violations.map Violation.item) (sortTexts (brokenItems rules)) := by
      rw [hitems]
      exact hsorted
    refine ⟨_, hsorted, violationsError_of_perm hvs hL, ?_⟩
    rw [violationsError_of_perm hvs hL]
    rfl
  · simp [Service.checkRules, hpass.mpr hv]
    rfl
  · have hne : violations.isEmpty = false := by
      simpa [List.isEmpty_iff] using mt hpass.mp hv
    simp [Service.checkRules, hne]
    rfl

theorem NewAccount.rulesJudge (r : NewAccount) :
    RulesJudge r.violations r.rules
      (IsName r.username ∧ (∀ s ∈ r.firstName, s.length ≤ 64) ∧
        ∀ s ∈ r.lastName, s.length ≤ 64) := by
  refine .of_items ?_ ?_
  · simp only [NewAccount.violations, personRules, NewAccount.rules, List.map_append,
      usernameRules_items, items_getD_map (boundRule_items _ _ _), brokenItems_append,
      List.append_assoc]
  · simp only [NewAccount.rules, List.forall_mem_append, kept_nameRules,
      kept_getD_map (kept_boundRule _ _ _), and_assoc]

theorem AccountChange.rulesJudge (r : AccountChange) :
    RulesJudge r.violations r.rules
      ((∀ s ∈ r.username, IsName s) ∧ (∀ s ∈ r.firstName, s.length ≤ 64) ∧
        ∀ s ∈ r.lastName, s.length ≤ 64) := by
  refine .of_items ?_ ?_
  · simp only [AccountChange.violations, personRules, AccountChange.rules, List.map_append,
      items_getD_map usernameRules_items, items_getD_map (boundRule_items _ _ _),
      brokenItems_append, List.append_assoc]
  · simp only [AccountChange.rules, List.forall_mem_append, kept_getD_map (kept_nameRules _ _),
      kept_getD_map (kept_boundRule _ _ _), and_assoc]

theorem NewGroup.rulesJudge (r : NewGroup) :
    RulesJudge r.violations r.rules (IsName r.groupname ∧ ∀ s ∈ r.description, s.length ≤ 255) := by
  refine .of_items ?_ ?_
  · simp only [NewGroup.violations, descriptionRules, NewGroup.rules, List.map_append,
      groupnameRules_items, items_getD_map (boundRule_items _ _ _), brokenItems_append]
  · simp only [NewGroup.rules, List.forall_mem_append, kept_nameRules,
      kept_getD_map (kept_boundRule _ _ _)]

theorem GroupChange.rulesJudge (r : GroupChange) :
    RulesJudge r.violations r.rules
      ((∀ s ∈ r.groupname, IsName s) ∧ ∀ s ∈ r.description, s.length ≤ 255) := by
  refine .of_items ?_ ?_
  · simp only [GroupChange.violations, descriptionRules, GroupChange.rules, List.map_append,
      items_getD_map groupnameRules_items, items_getD_map (boundRule_items _ _ _),
      brokenItems_append]
  · simp only [GroupChange.rules, List.forall_mem_append, kept_getD_map (kept_nameRules _ _),
      kept_getD_map (kept_boundRule _ _ _)]

theorem MembershipRequest.rulesJudge (r : MembershipRequest) :
    RulesJudge r.violations r.rules (1 ≤ r.account ∧ 1 ≤ r.group) := by
  refine .of_items ?_ ?_
  · simp only [MembershipRequest.violations, MembershipRequest.rules, List.map_append,
      positiveRule_items, brokenItems_append]
    rfl
  · simp [MembershipRequest.rules, positiveIdRule]

/-- An empty name breaks both of its rules. -/
example : brokenItems (NewAccount.rules ⟨none, "", "people", none, none, none⟩) =
    ["username: Username must be 1-32 characters",
     "username: must start with a lowercase letter or underscore and contain only a-z, 0-9, " ++
       "'_' or '-'"] := by
  decide

/-- **Field rules accept exactly their grammar**: the Unix name rule passes exactly the words
of `^[a-z_][a-z0-9_-]*\$?$`; each kind of request passes exactly when every name it holds has 1
to 32 characters and is such a word, every first or last name at most 64 characters, every
description at most 255, and every id of a membership at least 1; and a request that fails is
refused with `Validation error: ` and the items `field: message` of all its broken rules,
sorted byte-wise and joined with `, `, whatever order its violations come in. -/
theorem field_rules_accept_their_grammar :
    (∀ s : String, isUnixName s = true ↔ s.toList ∈ UnixName.regex.matches') ∧
    (∀ r : NewAccount, RulesJudge r.violations r.rules
      (IsName r.username ∧ (∀ s ∈ r.firstName, s.length ≤ 64) ∧
        ∀ s ∈ r.lastName, s.length ≤ 64)) ∧
    (∀ r : AccountChange, RulesJudge r.violations r.rules
      ((∀ s ∈ r.username, IsName s) ∧ (∀ s ∈ r.firstName, s.length ≤ 64) ∧
        ∀ s ∈ r.lastName, s.length ≤ 64)) ∧
    (∀ r : NewGroup, RulesJudge r.violations r.rules
      (IsName r.groupname ∧ ∀ s ∈ r.description, s.length ≤ 255)) ∧
    (∀ r : GroupChange, RulesJudge r.violations r.rules
      ((∀ s ∈ r.groupname, IsName s) ∧ ∀ s ∈ r.description, s.length ≤ 255)) ∧
    (∀ r : MembershipRequest, RulesJudge r.violations r.rules (1 ≤ r.account ∧ 1 ≤ r.group)) :=
  ⟨isUnixName_iff, NewAccount.rulesJudge, AccountChange.rulesJudge, NewGroup.rulesJudge,
    GroupChange.rulesJudge, MembershipRequest.rulesJudge⟩

end PosixRegistry
