import Mathlib
import PosixRegistry.Http.State
import PosixRegistry.Proofs.Text.Decimal

/-!
# The application state — its debug text shows no secret

The state's debug text goes to the logs, so it must not show the token secret, the database URL
or any other setting.  It shows exactly the range policy of the service context and the leeway
of the token checker: two states built over service contexts and settings have the same debug
text if and only if their policies and their leeways agree; a token checker's text likewise
shows exactly its leeway, and a service context's exactly its policy
(`debug_texts_show_policy_and_leeway`).

That a text shows no more is read off the definitions.  That it shows no less holds because
debug texts read back from the left (`ReadsBack`): a debug text followed by anything at all
determines what it shows and where it ends.  Numbers are where this needs care, since a digit
may follow a digit; in a debug text a number is always followed by a comma or a blank, which no
number continues (`intText_append_cancel`, `natText_append_cancel`).  From the numbers up, each
record's text reads back because its fields' texts do.
-/

namespace PosixRegistry

open Text

/-! ### Numbers followed by no digit -/

/-- A text that cannot continue a number written before it: empty, or starting with no digit. -/
def NoDigitFirst (l : List Char) : Prop := ∀ c ∈ l.head?, c.isDigit = false

/-- Two runs of digits, each followed by a text that does not start with a digit, are one run. -/
theorem digits_append_cancel {ds ds' s t : List Char} (hd : ∀ c ∈ ds, c.isDigit)
    (hd' : ∀ c ∈ ds', c.isDigit) (hs : NoDigitFirst s) (ht : NoDigitFirst t)
    (h : ds ++ s = ds' ++ t) : ds = ds' ∧ s = t := by
  induction ds generalizing ds' with
  | nil =>
    cases ds' with
    | nil => exact ⟨rfl, h⟩
    | cons c' ds' =>
      -- `s` would start with the digit `c'`
      subst h
      simp [NoDigitFirst, hd' c' List.mem_cons_self] at hs
  | cons c ds ih =>
    cases ds' with
    | nil =>
      subst h
      simp [NoDigitFirst, hd c List.mem_cons_self] at ht
    | cons c' ds' =>
      simp only [List.cons_append, List.cons.injEq] at h
      obtain ⟨rfl, h⟩ := h
      obtain ⟨rfl, rfl⟩ := ih (fun x hx => hd x (List.mem_cons_of_mem c hx))
        (fun x hx => hd' x (List.mem_cons_of_mem c hx)) h
      exact ⟨rfl, rfl⟩

theorem toDigits_append_cancel {m n : Nat} {s t : List Char} (hs : NoDigitFirst s)
    (ht : NoDigitFirst t) (h : Nat.toDigits 10 m ++ s = Nat.toDigits 10 n ++ t) :
    m = n ∧ s = t := by
  obtain ⟨hds, rfl⟩ := digits_append_cancel (fun _ => isDigit_of_mem_toDigits)
    (fun _ => isDigit_of_mem_toDigits) hs ht h
  refine ⟨?_, rfl⟩
  rw [← digitsValue_toDigits m, hds, digitsValue_toDigits]

theorem natText_toList (n : Nat) : (toString n).toList = Nat.toDigits 10 n := by
  simp [toString, Nat.repr]

/-- **A number followed by no digit reads back.** -/
theorem natText_append_cancel {m n : Nat} {s t : List Char} (hs : NoDigitFirst s)
    (ht : NoDigitFirst t) (h : (toString m).toList ++ s = (toString n).toList ++ t) :
    m = n ∧ s = t := by
  rw [natText_toList, natText_toList] at h
  exact toDigits_append_cancel hs ht h

theorem intText_toList (i : Int) :
    (toString i).toList = (if i < 0 then ['-'] else []) ++ Nat.toDigits 10 i.natAbs := by
  cases i with
  | ofNat n => simp [toString, Int.repr, Nat.repr]
  | negSucc n => simp [toString, Int.repr, Nat.repr]

/-- A minus sign does not start a number's digits. -/
theorem minus_cons_ne_toDigits_append (n : Nat) (l t : List Char) :
    '-' :: l ≠ Nat.toDigits 10 n ++ t := by
  obtain ⟨d, ds, hds⟩ := List.exists_cons_of_ne_nil (toDigits_ne_nil n)
  have hd : d.isDigit := isDigit_of_mem_toDigits (hds ▸ List.mem_cons_self)
  rw [hds, List.cons_append]
  intro h
  obtain ⟨rfl, -⟩ := List.cons.inj h
  exact absurd hd (by decide)

/-- **A signed number followed by no digit reads back.** -/
theorem intText_append_cancel {i j : Int} {s t : List Char} (hs : NoDigitFirst s)
    (ht : NoDigitFirst t) (h : (toString i).toList ++ s = (toString j).toList ++ t) :
    i = j ∧ s = t := by
  rw [intText_toList, intText_toList] at h
  -- the signs agree, as no digit is a minus sign; then the magnitudes do
  by_cases hi : i < 0 <;> by_cases hj : j < 0 <;>
    simp only [hi, hj, if_true, if_false, List.nil_append, List.cons_append, List.cons.injEq,
      true_and] at h
  · obtain ⟨habs, rfl⟩ := toDigits_append_cancel hs ht h
    exact ⟨by omega, rfl⟩
  · exact absurd h (minus_cons_ne_toDigits_append _ _ _)
  · exact absurd h.symm (minus_cons_ne_toDigits_append _ _ _)
  · obtain ⟨habs, rfl⟩ := toDigits_append_cancel hs ht h
    exact ⟨by omega, rfl⟩

/-! ### Records -/

/-- The text of a record that shows all its fields, one field at least, as characters. -/
theorem debugRecord_toList (name : String) (f : String × String) (fs : List (String × String)) :
    (debugRecord name (f :: fs)).toList =
      name.toList ++ " \x7b ".toList ++ f.1.toList ++ ": ".toList ++ f.2.toList ++
        fs.flatMap (fun g => ", ".toList ++ g.1.toList ++ ": ".toList ++ g.2.toList) ++
        " \x7d".toList := by
  simp [debugRecord, fieldsText, fieldText, String.toList_join, List.flatMap_map]

/-- The text of a record that shows some of its fields, one at least, as characters. -/
theorem debugRecordOpen_toList (name : String) (f : String × String)
    (fs : List (String × String)) :
    (debugRecordOpen name (f :: fs)).toList =
      name.toList ++ " \x7b ".toList ++ f.1.toList ++ ": ".toList ++ f.2.toList ++
        fs.flatMap (fun g => ", ".toList ++ g.1.toList ++ ": ".toList ++ g.2.toList) ++
        ", .. \x7d".toList := by
  simp [debugRecordOpen, fieldsText, fieldText, String.toList_join, List.flatMap_map]

/-- A debug text reads back, showing `key`, when the text followed by anything at all determines
the key and where the text ends. -/
def ReadsBack {α κ : Type} (key : α → κ) (text : α → String) : Prop :=
  ∀ a b s t, (text a).toList ++ s = (text b).toList ++ t → key a = key b ∧ s = t

/-- Equal texts that read back show the same key. -/
theorem ReadsBack.key_eq {α κ : Type} {key : α → κ} {text : α → String} (h : ReadsBack key text)
    {a b : α} (he : text a = text b) : key a = key b :=
  (h a b [] [] (by rw [he])).1

theorem IdRange.debugText_readsBack : ReadsBack id IdRange.debugText := by
  intro r r' s t h
  simp only [IdRange.debugText, debugRecord_toList, List.flatMap_cons, List.flatMap_nil,
    List.append_nil, List.append_assoc, List.append_cancel_left_eq] at h
  obtain ⟨hmin, h⟩ := intText_append_cancel (by simp [NoDigitFirst]) (by simp [NoDigitFirst]) h
  simp only [List.append_cancel_left_eq] at h
  obtain ⟨hmax, h⟩ := intText_append_cancel (by simp [NoDigitFirst]) (by simp [NoDigitFirst]) h
  simp only [List.append_cancel_left_eq] at h
  exact ⟨by cases r; cases r'; simp_all, h⟩

theorem RangeTable.debugText_readsBack : ReadsBack id RangeTable.debugText := by
  intro r r' s t h
  simp only [RangeTable.debugText, debugRecord_toList, List.flatMap_cons, List.flatMap_nil,
    List.append_nil, List.append_assoc, List.append_cancel_left_eq] at h
  -- the four ranges, in the order of the fields
  obtain ⟨hsystem, h⟩ := IdRange.debugText_readsBack _ _ _ _ h
  simp only [List.append_cancel_left_eq] at h
  obtain ⟨hpeople, h⟩ := IdRange.debugText_readsBack _ _ _ _ h
  simp only [List.append_cancel_left_eq] at h
  obtain ⟨hservice, h⟩ := IdRange.debugText_readsBack _ _ _ _ h
  simp only [List.append_cancel_left_eq] at h
  obtain ⟨hdatabase, h⟩ := IdRange.debugText_readsBack _ _ _ _ h
  simp only [List.append_cancel_left_eq] at h
  exact ⟨by cases r; cases r'; simp_all, h⟩

theorem RangePolicy.debugText_readsBack : ReadsBack id RangePolicy.debugText := by
  intro p p' s t h
  simp only [RangePolicy.debugText, debugRecord_toList, List.flatMap_cons, List.flatMap_nil,
    List.append_nil, List.append_assoc, List.append_cancel_left_eq] at h
  obtain ⟨huid, h⟩ := RangeTable.debugText_readsBack _ _ _ _ h
  simp only [List.append_cancel_left_eq] at h
  obtain ⟨hgid, h⟩ := RangeTable.debugText_readsBack _ _ _ _ h
  simp only [List.append_cancel_left_eq] at h
  exact ⟨by cases p; cases p'; simp_all, h⟩

/-- A service context's text reads back its range policy: the repositories and the store are
placeholders. -/
theorem ServiceContext.debugText_readsBack :
    ReadsBack ServiceContext.policy ServiceContext.debugText := by
  intro c c' s t h
  simp only [ServiceContext.debugText, debugRecord_toList, List.flatMap_cons, List.flatMap_nil,
    List.append_nil, List.append_assoc, List.append_cancel_left_eq] at h
  obtain ⟨hpolicy, h⟩ := RangePolicy.debugText_readsBack _ _ _ _ h
  simp only [List.append_cancel_left_eq] at h
  exact ⟨hpolicy, h⟩

example : TokenService.debugText ⟨"secret", 60⟩ = "JwtService \x7b leeway_secs: 60, .. \x7d" := by
  decide

/-- A token checker's text reads back its leeway. -/
theorem TokenService.debugText_readsBack :
    ReadsBack TokenService.leewaySecs TokenService.debugText := by
  intro k k' s t h
  simp only [TokenService.debugText, debugRecordOpen_toList, List.flatMap_nil, List.append_nil,
    List.append_assoc, List.append_cancel_left_eq] at h
  obtain ⟨hleeway, h⟩ := natText_append_cancel (by simp [NoDigitFirst]) (by simp [NoDigitFirst]) h
  simp only [List.append_cancel_left_eq] at h
  exact ⟨hleeway, h⟩

/-- The state's text reads back the policy of its service context and the leeway of its token
checker: the settings are a placeholder. -/
theorem AppState.debugText_readsBack :
    ReadsBack (fun s : AppState => (s.serviceContext.policy, s.tokens.leewaySecs))
      AppState.debugText := by
  intro a a' s t h
  simp only [AppState.debugText, debugRecord_toList, List.flatMap_cons, List.flatMap_nil,
    List.append_nil, List.append_assoc, List.append_cancel_left_eq] at h
  obtain ⟨hpolicy, h⟩ := ServiceContext.debugText_readsBack _ _ _ _ h
  simp only [List.append_cancel_left_eq] at h
  obtain ⟨hleeway, h⟩ := TokenService.debugText_readsBack _ _ _ _ h
  simp only [List.append_cancel_left_eq] at h
  exact ⟨Prod.ext hpolicy hleeway, h⟩

/-! ### What the texts show -/

theorem ServiceContext.debugText_eq_of_policy {c c' : ServiceContext} (h : c.policy = c'.policy) :
    c.debugText = c'.debugText := by
  simp [ServiceContext.debugText, h]

theorem TokenService.debugText_eq_of_leeway {k k' : TokenService}
    (h : k.leewaySecs = k'.leewaySecs) : k.debugText = k'.debugText := by
  simp [TokenService.debugText, h]

/-- The state's text is made of its service context's and its token checker's. -/
theorem AppState.debugText_eq_of {a a' : AppState}
    (hcontext : a.serviceContext.debugText = a'.serviceContext.debugText)
    (htokens : a.tokens.debugText = a'.tokens.debugText) : a.debugText = a'.debugText := by
  simp [AppState.debugText, hcontext, htokens]

/-- **Debug texts show no secret.** Two states built over service contexts and settings have the
same debug text exactly when the contexts' range policies and the settings' token leeways agree,
whatever their secrets, database URLs, registries and other settings; a token checker's text
shows exactly its leeway, and a service context's exactly its range policy. -/
theorem debug_texts_show_policy_and_leeway :
    (∀ (ctx₁ ctx₂ : ServiceContext) (c₁ c₂ : AppConfig),
      (AppState.new ctx₁ c₁).debugText = (AppState.new ctx₂ c₂).debugText ↔
        ctx₁.policy = ctx₂.policy ∧ c₁.leewaySecs = c₂.leewaySecs) ∧
    (∀ k₁ k₂ : TokenService, k₁.debugText = k₂.debugText ↔ k₁.leewaySecs = k₂.leewaySecs) ∧
    (∀ c₁ c₂ : ServiceContext, c₁.debugText = c₂.debugText ↔ c₁.policy = c₂.policy) := by
  refine ⟨fun ctx₁ ctx₂ c₁ c₂ => ⟨fun h => ?_, fun h => ?_⟩,
    fun k₁ k₂ => ⟨TokenService.debugText_readsBack.key_eq, TokenService.debugText_eq_of_leeway⟩,
    fun c₁ c₂ => ⟨ServiceContext.debugText_readsBack.key_eq, ServiceContext.debugText_eq_of_policy⟩⟩
  · exact Prod.ext_iff.mp (AppState.debugText_readsBack.key_eq h)
  · -- the token checker takes the settings' leeway, and the secret stays out of its text
    exact AppState.debugText_eq_of (ServiceContext.debugText_eq_of_policy h.1)
      (TokenService.debugText_eq_of_leeway h.2)

end PosixRegistry
