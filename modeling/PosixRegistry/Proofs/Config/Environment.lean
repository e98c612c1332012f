import Mathlib
import PosixRegistry.Config.Settings

/-!
# Settings — reading them from environment variables

Reading the settings from the environment is a total function of it, stated here against a
table (`settingReadings`): the fourteen variables in the order the settings' fields are read
(application, server, database, tokens, rate limit, cross-origin), each with the way it is read
(`Reading`).  The environment holds its variables as text; one that cannot be read as text
counts as unset.

A variable alone may fail (`Reading.fault`): a required variable that is unset is missing; a
number that does not read as an unsigned integer of its width once trimmed, or a switch that
is no switch word once trimmed and lowercased, is invalid, and the error carries the value as
it was set.  Otherwise the variable reads to its value or to its default (`Reading.read`); the
environment's name is compared in any case and untrimmed, and an unknown one means
development.

Main result, `settings_read_in_field_order`: reading fails exactly with the fault of the first
failing variable of the table, and otherwise gives the settings whose fields, in order
(`AppConfig.settings`), are what the variables read to.  The proof rewrites the reading as the
table's variables read one by one with `List.mapM` (`fromEnv_settings`); a traversal in `Except`
stops at the first error (`mapM_eq_error_iff`) and otherwise succeeds at every item
(`mapM_eq_ok_iff`).
-/

namespace PosixRegistry

/-! ### The table of variables -/

/-- How the settings read one variable. -/
inductive Reading where
  /-- The text as set, or a default when unset. -/
  | text (dflt : String)
  /-- The text as set; unset is an error. -/
  | required
  /-- An unsigned integer below `2 ^ bits` once trimmed, or a default when unset. -/
  | number (bits dflt : Nat)
  /-- A switch word once trimmed and lowercased, or a default when unset. -/
  | switch (dflt : Bool)
  /-- An environment's name in any case, development when unknown or unset. -/
  | environment
  /-- The comma-separated items, trimmed, the empty ones dropped; none when unset. -/
  | origins
  deriving DecidableEq, Repr

/-- The value of one setting. -/
inductive Setting where
  | text (s : String)
  | number (n : Nat)
  | switch (b : Bool)
  | environment (e : Environment)
  | origins (os : List String)
  deriving DecidableEq, Repr

/-- The words that switch a setting on. -/
def onWords : List String := ["1", "true", "yes", "on"]

/-- The words that switch a setting off. -/
def offWords : List String := ["0", "false", "no", "off"]

/-- The state a text names once trimmed and lowercased, if it is a switch word. -/
def switchOf? (s : String) : Option Bool :=
  let w := String.map Char.toLower (Text.trimBlank s)
  if w ∈ onWords then some true else if w ∈ offWords then some false else none

/-- The environment whose name a text is, in any case; development when it is none. -/
def environmentOf (s : String) : Environment :=
  (Environment.all.find? fun e => e.name = String.map Char.toLower s).getD .development

/-- The error a variable raises alone, given its value when set. -/
def Reading.fault (name : String) : Reading → Option String → Option ConfigError
  | .required, none => some (.missingVar name)
  | .number bits _, some raw =>
    if (parseUnsigned bits (Text.trimBlank raw)).isNone then some (.invalidValue name raw) else none
  | .switch _, some raw => if (switchOf? raw).isNone then some (.invalidValue name raw) else none
  | _, _ => none

/-- What a variable reads to when it raises no error. -/
def Reading.read : Reading → Option String → Setting
  | .text dflt, v => .text (v.getD dflt)
  | .required, v => .text (v.getD "")
  | .number bits dflt, v => .number ((v.bind fun raw => parseUnsigned bits (Text.trimBlank raw)).getD dflt)
  | .switch dflt, v => .switch ((v.bind switchOf?).getD dflt)
  | .environment, v => .environment ((v.map environmentOf).getD .development)
  | .origins, v => .origins ((v.map splitOrigins).getD [])

/-- A variable read alone: its error, or what it reads to. -/
def Reading.result (name : String) (r : Reading) (v : Option String) :
    Except ConfigError Setting :=
  match r.fault name v with
  | some e => .error e
  | none => .ok (r.read v)

/-- The variables of the settings in the order their fields are read, each with the way it is
read. -/
def settingReadings : List (String × Reading) :=
  [("APP_NAME", .text "unixify"), ("APP_ENV", .environment), ("API_HOST", .text "127.0.0.1"),
   ("API_PORT", .number 16 8080), ("API_REQUEST_TIMEOUT_SECS", .number 64 30),
   ("DATABASE_URL", .required), ("DATABASE_MAX_CONNECTIONS", .number 32 20),
   ("DATABASE_MIN_CONNECTIONS", .number 32 5), ("DATABASE_RUN_MIGRATIONS", .switch true),
   ("JWT_SECRET", .required), ("JWT_LEEWAY_SECS", .number 64 60),
   ("RATE_LIMIT_REQUESTS_PER_SECOND", .number 32 10), ("RATE_LIMIT_BURST", .number 32 50),
   ("CORS_ALLOWED_ORIGINS", .origins)]

example : settingReadings.map Prod.fst = settingVariables := rfl

/-- The fields of the settings, in the order they are read. -/
def AppConfig.settings (c : AppConfig) : List Setting :=
  [.text c.name, .environment c.env, .text c.host, .number c.port, .number c.requestTimeoutSecs,
   .text c.databaseUrl, .number c.maxConnections, .number c.minConnections,
   .switch c.runMigrations, .text c.jwtSecret, .number c.leewaySecs, .number c.requestsPerSecond,
   .number c.burst, .origins c.allowedOrigins]

/-- The table's variables read one by one, stopping at the first error. -/
def readSettings (vars : List (String × String)) : Except ConfigError (List Setting) :=
  settingReadings.mapM fun w => w.2.result w.1 (vars.lookup w.1)

/-! ### Traversals in `Except` -/

section Traverse

variable {α β ε : Type} {f : α → Except ε β}

theorem bind_eq_ok_iff {x : Except ε α} {g : α → Except ε β} {b : β} :
    x >>= g = .ok b ↔ ∃ a, x = .ok a ∧ g a = .ok b := by
  cases x <;> simp [bind, Except.bind]

theorem bind_eq_error_iff {x : Except ε α} {g : α → Except ε β} {e : ε} :
    x >>= g = .error e ↔ x = .error e ∨ ∃ a, x = .ok a ∧ g a = .error e := by
  cases x <;> simp [bind, Except.bind]

/-- A traversal succeeds exactly when every item does. -/
theorem mapM_eq_ok_iff {l : List α} {bs : List β} :
    l.mapM f = .ok bs ↔ List.Forall₂ (fun a b => f a = .ok b) l bs := by
  induction l generalizing bs with
  | nil => cases bs <;> simp [pure, Except.pure]
  | cons a l ih =>
    simp only [List.mapM_cons, bind_eq_ok_iff]
    cases bs with
    | nil => simp [pure, Except.pure]
    | cons b bs =>
      simp only [List.forall₂_cons, ← ih]
      constructor
      · rintro ⟨b', hb', bs', hbs', hpure⟩
        cases hpure
        exact ⟨hb', hbs'⟩
      · rintro ⟨hb, hbs⟩
        exact ⟨b, hb, bs, hbs, rfl⟩

/-- **A traversal fails with the error of its first failing item.** -/
theorem mapM_eq_error_iff {l : List α} {e : ε} :
    l.mapM f = .error e ↔
      ∃ pre a post, l = pre ++ a :: post ∧ f a = .error e ∧ ∀ x ∈ pre, ∃ b, f x = .ok b := by
  induction l with
  | nil => simp [pure, Except.pure]
  | cons a l ih =>
    simp only [List.mapM_cons, bind_eq_error_iff]
    constructor
    · rintro (ha | ⟨b, hb, hrest | ⟨bs, _, hpure⟩⟩)
      · -- the first item fails
        exact ⟨[], a, l, rfl, ha, by simp⟩
      · -- a later one does
        obtain ⟨pre, x, post, rfl, hx, hpre⟩ := ih.mp hrest
        refine ⟨a :: pre, x, post, rfl, hx, ?_⟩
        rintro y (_ | ⟨_, hy⟩)
        exacts [⟨b, hb⟩, hpre y hy]
      · simp [pure, Except.pure] at hpure
    · rintro ⟨pre, x, post, hl, hx, hpre⟩
      cases pre with
      | nil =>
        obtain ⟨rfl, rfl⟩ := List.cons.inj hl
        exact .inl hx
      | cons y pre =>
        obtain ⟨rfl, rfl⟩ := List.cons.inj hl
        obtain ⟨b, hb⟩ := hpre _ List.mem_cons_self
        exact .inr ⟨b, hb, .inl (ih.mpr ⟨pre, x, post, rfl, hx,
          fun z hz => hpre z (List.mem_cons_of_mem _ hz)⟩)⟩

/-- Items each related to one value by a check and a function: all pass the check, and the values
are their images. -/
theorem forall₂_check_eq_iff {P : α → Prop} {g : α → β} {l : List α} {bs : List β} :
    List.Forall₂ (fun a b => P a ∧ g a = b) l bs ↔ (∀ a ∈ l, P a) ∧ bs = l.map g := by
  induction l generalizing bs with
  | nil => cases bs <;> simp
  | cons a l ih =>
    cases bs with
    | nil => simp
    | cons b bs =>
      simp only [List.forall₂_cons, ih, List.forall_mem_cons, List.map_cons, List.cons.injEq]
      constructor
      · rintro ⟨⟨ha, rfl⟩, hl, rfl⟩
        exact ⟨⟨ha, hl⟩, rfl, rfl⟩
      · rintro ⟨⟨ha, hl⟩, rfl, rfl⟩
        exact ⟨⟨ha, rfl⟩, hl, rfl⟩

end Traverse

/-! ### One variable -/

namespace Reading

variable {name : String} {r : Reading} {v : Option String}

theorem result_eq_ok_iff {s : Setting} :
    r.result name v = .ok s ↔ r.fault name v = none ∧ r.read v = s := by
  unfold result
  cases r.fault name v <;> simp

theorem result_eq_error_iff {e : ConfigError} :
    r.result name v = .error e ↔ r.fault name v = some e := by
  unfold result
  cases r.fault name v <;> simp

end Reading

/-- The switch words are the ones the settings accept. -/
theorem parseSwitch_eq_switchOf (s : String) : parseSwitch s = switchOf? s := by
  unfold parseSwitch switchOf?
  split <;> simp_all [onWords, offWords]

theorem ofName?_eq_find? (n : String) :
    Environment.ofName? n = Environment.all.find? fun e => e.name = n := by
  by_cases h₁ : n = "development"
  · subst h₁; rfl
  by_cases h₂ : n = "staging"
  · subst h₂; rfl
  by_cases h₃ : n = "production"
  · subst h₃; rfl
  -- a text that is no environment's name
  simp [Environment.ofName?, Environment.all, Environment.name, Ne.symm h₁, Ne.symm h₂,
    Ne.symm h₃]

/-- The environment's name is read in any case, and an unknown one means development. -/
theorem parseEnvironment_eq_environmentOf : parseEnvironment = environmentOf := by
  funext s
  rw [parseEnvironment, environmentOf, ofName?_eq_find?]

section Steps

variable {vars : List (String × String)} {name : String}

theorem envNumber_result {bits dflt : Nat} :
    (Reading.number bits dflt).result name (vars.lookup name) =
      envNumber vars name bits dflt >>= fun n => pure (.number n) := by
  unfold envNumber
  cases vars.lookup name with
  | none => rfl
  | some raw =>
    cases h : parseUnsigned bits (Text.trimBlank raw) <;>
      simp [Reading.result, Reading.fault, Reading.read, h, pure, Except.pure, bind, Except.bind]

theorem envSwitch_result {dflt : Bool} :
    (Reading.switch dflt).result name (vars.lookup name) =
      envSwitch vars name dflt >>= fun b => pure (.switch b) := by
  unfold envSwitch
  cases vars.lookup name with
  | none => rfl
  | some raw =>
    cases h : switchOf? raw <;>
      simp [Reading.result, Reading.fault, Reading.read, parseSwitch_eq_switchOf, h, pure,
        Except.pure, bind, Except.bind]

theorem envRequired_result :
    Reading.required.result name (vars.lookup name) =
      envRequired vars name >>= fun s => pure (.text s) := by
  unfold envRequired
  cases vars.lookup name <;> rfl

/-- The variables that cannot fail read to their value or their default. -/
theorem Reading.result_of_total {r : Reading} {v : Option String}
    (hr : r = .environment ∨ r = .origins ∨ ∃ d, r = .text d) :
    r.result name v = pure (r.read v) := by
  rcases hr with rfl | rfl | ⟨d, rfl⟩ <;> cases v <;> rfl

end Steps

/-! ### All the variables -/

/-- **Reading the settings is reading the table's variables one by one.** -/
theorem fromEnv_settings (vars : List (String × String)) :
    AppConfig.settings <$> AppConfig.fromEnv vars = readSettings vars := by
  simp only [readSettings, settingReadings, List.mapM_cons, List.mapM_nil, envNumber_result,
    envSwitch_result, envRequired_result,
    Reading.result_of_total (.inl rfl), Reading.result_of_total (.inr (.inl rfl)),
    Reading.result_of_total (.inr (.inr ⟨_, rfl⟩))]
  -- both sides are now the same chain of reads, once the binds are reassociated
  simp only [AppConfig.fromEnv, AppConfig.settings, Reading.read, parseEnvironment_eq_environmentOf,
    map_bind, map_pure, bind_assoc, pure_bind]

theorem AppConfig.settings_injective : Function.Injective AppConfig.settings := by
  intro c d h
  cases c
  cases d
  simp only [AppConfig.settings, List.cons.injEq, Setting.text.injEq, Setting.number.injEq,
    Setting.switch.injEq, Setting.environment.injEq, Setting.origins.injEq, and_true] at h
  obtain ⟨rfl, rfl, rfl, rfl, rfl, rfl, rfl, rfl, rfl, rfl, rfl, rfl, rfl, rfl⟩ := h
  rfl

theorem fromEnv_eq_error_iff {vars : List (String × String)} {e : ConfigError} :
    AppConfig.fromEnv vars = .error e ↔ readSettings vars = .error e := by
  rw [← fromEnv_settings]
  cases AppConfig.fromEnv vars <;> simp [Functor.map, Except.map]

theorem fromEnv_eq_ok_iff {vars : List (String × String)} {c : AppConfig} :
    AppConfig.fromEnv vars = .ok c ↔ readSettings vars = .ok c.settings := by
  rw [← fromEnv_settings]
  cases AppConfig.fromEnv vars with
  | error e => simp [Functor.map, Except.map]
  | ok d => simp [Functor.map, Except.map, AppConfig.settings_injective.eq_iff]

/-- **Settings from the environment.** Reading the settings from environment variables fails
exactly when one of the variables fails alone, and then with the error of the first one in the
order the fields are read; otherwise it gives the settings whose fields, in that order, are what
the variables read to. -/
theorem settings_read_in_field_order (vars : List (String × String)) :
    (∀ e, AppConfig.fromEnv vars = .error e ↔
      ∃ pre w post, settingReadings = pre ++ w :: post ∧
        w.2.fault w.1 (vars.lookup w.1) = some e ∧
        ∀ u ∈ pre, u.2.fault u.1 (vars.lookup u.1) = none) ∧
    (∀ c, AppConfig.fromEnv vars = .ok c ↔
      (∀ u ∈ settingReadings, u.2.fault u.1 (vars.lookup u.1) = none) ∧
        c.settings = settingReadings.map fun u => u.2.read (vars.lookup u.1)) := by
  refine ⟨fun e => ?_, fun c => ?_⟩
  · rw [fromEnv_eq_error_iff, readSettings, mapM_eq_error_iff]
    -- an item that reads passes, whatever it reads to
    simp only [Reading.result_eq_error_iff, Reading.result_eq_ok_iff, exists_and_left, exists_eq',
      and_true]
  · rw [fromEnv_eq_ok_iff, readSettings, mapM_eq_ok_iff]
    simp only [Reading.result_eq_ok_iff]
    exact forall₂_check_eq_iff

/- The server's port is read before the token leeway and the database URL: a port too large for
16 bits is reported, untrimmed, although the leeway is no number and the URL is missing. -/
example : AppConfig.fromEnv [("JWT_LEEWAY_SECS", "soon"), ("API_PORT", " 65536 ")] =
    .error (.invalidValue "API_PORT" " 65536 ") := by
  decide

end PosixRegistry
