import PosixRegistry.Console.Core
import PosixRegistry.Console.Http
import PosixRegistry.Http.State
/-!
# Service shell commands

The commands that drive the parts around the registry: token checking, application errors,
settings from variables or JSON, logging presets, the debug texts of the server state, and
the HTTP responses of refusals.
-/

namespace PosixRegistry.Console

open Json Http

/-- An application error as answered. -/
def appErrorJson (e : AppError) : Value :=
  .obj [("error", .str e.code), ("status", .int e.status), ("message", .str e.message)]

/-- The application error a command describes by variant name. -/
def appErrorArg (op : Value) : Args AppError := do
  match ← reqStr op "variant" with
  | "InvalidToken" => pure .invalidToken
  | "TokenExpired" => pure .tokenExpired
  | "Database" => return .database (← reqStr op "s")
  | "Internal" => return .internal (← reqStr op "s")
  | "Config" => return .config (← reqStr op "s")
  | v => throw s!"unknown variant {v}"

/-- What a token's claims say, read at a time. -/
def claimsReport (now : Int) (c : Claims) : Value :=
  .obj [("sub", .str c.sub), ("username", .str c.username), ("token_type", .str c.tokenType.name),
    ("lifetime", .int (Number.Int64.wrap (c.exp - c.iat))), ("is_expired", .bool (c.isExpired now)),
    ("is_access_token", .bool c.isAccess),
    ("user_id", match c.userId with
      | .ok i => ok (.int i)
      | .error e => appErrorJson e)]

/-- The answer of a token check. -/
def tokenReport (now : Int) : Except AppError Claims → Value
  | .ok c => ok (claimsReport now c)
  | .error e => appErrorJson e

/-- A name with every leading `env:` removed. -/
def dropEnvPrefixes : List Char → List Char
  | 'e' :: 'n' :: 'v' :: ':' :: rest => dropEnvPrefixes rest
  | cs => cs

/-- A logging preset named by a command: one of the three presets, or the preset of an
environment, named with or without leading `env:`. -/
def presetArg (op : Value) : Args TracingConfig := do
  match ← reqStr op "preset" with
  | "default" => pure .standard
  | "development" => pure .development
  | "production" => pure .production
  | p =>
    let e := String.ofList (dropEnvPrefixes p.toList)
    match Environment.ofName? e with
    | some e => pure (TracingConfig.forEnvironment e)
    | none => throw s!"unknown environment {e}"

/-- The preset a logging installation is asked for: `none` for the standard one, or one of the
three presets by name. -/
def installPresetArg (op : Value) : Args TracingConfig := do
  match ← reqStr op "preset" with
  | "none" | "default" => pure .standard
  | "development" => pure .development
  | "production" => pure .production
  | p => throw s!"unknown preset {p}"

/-- The variables of a command, checked in the order of their names: each a variable the
settings read, with a string value free of NUL; the last of equal names kept. -/
def varsArg (op : Value) : Args (List (String × String)) :=
  match op.get? "env" with
  | none => .error "missing field env"
  | some (.obj fields) =>
    match (Value.obj fields).canonical with
    | .obj fields => fields.mapM fun (n, v) => do
      if !settingVariables.contains n then throw s!"unknown variable {n}"
      match v with
      | .str s =>
        if s.contains (Char.ofNat 0) then throw "env values must not contain NUL" else pure (n, s)
      | _ => throw "env values must be strings"
    | _ => .ok []
  | some _ => .error "env must be an object"

/-- Settings as answered, with the preset of their environment. -/
def configAnswer (c : AppConfig) : Value :=
  ok (c.toJson (TracingConfig.forEnvironment c.env).toJson)

/-- A settings error as answered. -/
def configErrorJson (e : ConfigError) : Value :=
  .obj [("error", .str "ConfigError"), ("variant", .str e.variant), ("message", .str e.message)]

/-! ### Debug texts -/

/-- The debug texts of the state built over the session's registry, policy and settings. -/
def debugState (reg : Registry) (p : RangePolicy) (c : AppConfig) : Value :=
  let state := AppState.new ⟨reg, p⟩ c
  ok (.obj [("app_state", .str state.debugText),
    ("service_context", .str state.serviceContext.debugText),
    ("jwt_service", .str state.tokens.debugText)])

/-! ### Refusals as responses -/

/-- The API refusal a command describes. -/
def apiErrorArg (op : Value) : Args (Option ApiError) := do
  match ← reqStr op "variant" with
  | "MissingAuth" => pure (some .missingAuth)
  | "InvalidPath" => return some (.invalidPath (← reqStr op "s"))
  | "InvalidQuery" => return some (.invalidQuery (← reqStr op "s"))
  | "InvalidBody" => return some (.invalidBody (← reqStr op "s"))
  | "App" => return some (.app (← appErrorArg (← reqObject op "app")))
  | "Service" => return some (.service (.registry (← errorArg (← reqObject op "domain"))))
  | "ServiceValidation" => return some (.service (.invalid (← reqStr op "s")))
  | "Validation" =>
    match NewAccount.shape.ofValue (← reqAny op "request") with
    | .ok (.record slots) =>
      let vs := (NewAccount.ofSlots slots).violations
      pure (if vs.isEmpty then none else some (.validation vs))
    | .ok _ => pure none
    | .error f => throw ("bad request: " ++ f.message)
  | v => throw s!"unknown variant {v}"

/-- Runs a service shell command, if the name is one, with the session's registry, policy and
settings at a time (seconds since the epoch). -/
def shellCommand (reg : Registry) (p : RangePolicy) (config : AppConfig) (now : Int)
    (name : String) (op : Value) : Option (Args Value) :=
  match name with
  | "jwt" => some do
    let token ← match op.get? "token" with
      | some (.str t) => pure t
      | some (.obj spec) => tokenOf config.jwtSecret now (.obj spec)
      | _ => throw "token must be a string or a token spec"
    let secret := (← optStr op "secret").getD config.jwtSecret
    let leeway := ((← optInt op "leeway").getD 0).toNat
    let checker : TokenService := ⟨secret, leeway⟩
    pure (ok (.obj [("decode", tokenReport now (checker.decode hs256 now token)),
      ("validate_access", tokenReport now (checker.validateAccess hs256 now token))]))
  | "app_error" => some do
    pure (ok (appErrorJson (← appErrorArg op)))
  | "tracing_config" => some do
    pure (ok (← presetArg op).toJson)
  | "tracing_init" => some do
    match installTracing true (← installPresetArg op) with
    | .ok () => pure (ok .null)
    | .error e => pure (.obj [("error", .str "TracingError"), ("message", .str e.message)])
  | "config_from_env" => some do
    let vars ← varsArg op
    pure (match AppConfig.fromEnv vars with
      | .ok c => configAnswer c
      | .error e => configErrorJson e)
  | "config_from_json" => some do
    pure (match AppConfig.fromJson (← reqAny op "value") with
      | .ok c => configAnswer c
      | .error f => invalidRequest f.message)
  | "debug_state" => some (pure (debugState reg p config))
  | "domain_error_response" => some do
    let e ← errorArg op
    pure (ok (.obj [("domain", e.toJson),
      ("response", responseJson (ApiError.service (.registry e)).toResponse)]))
  | "service_error_response" => some do
    let e : ServiceError := .invalid (← reqStr op "s")
    pure (ok (.obj [("service", e.toJson), ("response", responseJson (ApiError.service e).toResponse)]))
  | "api_error" => some do
    match ← apiErrorArg op with
    | some e => pure (ok (.obj [("status", .int e.status), ("code", .str e.code),
        ("response", responseJson e.toResponse)]))
    | none => pure (ok .null)
  | _ => none

end PosixRegistry.Console
