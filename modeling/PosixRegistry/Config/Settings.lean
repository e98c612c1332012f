import PosixRegistry.Config.Tracing
import PosixRegistry.Json.Shape
import PosixRegistry.Text.Blank
/-!
# Application settings

The settings of the service: its name and environment, the listening host, port and request
timeout, the database connection, the token secret and clock leeway, the rate limit and the
allowed CORS origins.

Settings are read from environment variables or from a JSON value. From variables, the
database URL and the token secret are required; numbers are trimmed and read as unsigned
integers of their width (a leading `+` is accepted); booleans accept `1`, `true`, `yes`, `on`
and `0`, `false`, `no`, `off` in any ASCII case; the environment name is lowercased and an
unknown one means development; origins are split on commas, trimmed, and empty ones dropped.
From JSON, the six sections are required and missing members take their defaults.
-/

namespace PosixRegistry

open Json

/-- All settings of the service. -/
structure AppConfig where
  name : String := "unixify"
  env : Environment := .development
  host : String := "127.0.0.1"
  port : Nat := 8080
  requestTimeoutSecs : Nat := 30
  databaseUrl : String
  maxConnections : Nat := 20
  minConnections : Nat := 5
  runMigrations : Bool := true
  jwtSecret : String
  leewaySecs : Nat := 60
  requestsPerSecond : Nat := 10
  burst : Nat := 50
  allowedOrigins : List String := []
  deriving DecidableEq, Repr

namespace AppConfig

/-- The listening address, host and port joined by a colon. -/
def address (c : AppConfig) : String := s!"{c.host}:{c.port}"

/-- Whether the environment is production. -/
def isProduction (c : AppConfig) : Bool := c.env == .production

/-- Whether the environment is development. -/
def isDevelopment (c : AppConfig) : Bool := c.env == .development

end AppConfig

/-- Why settings cannot be read from the environment. -/
inductive ConfigError where
  | missingVar (name : String)
  | invalidValue (name raw : String)
  deriving DecidableEq, Repr

namespace ConfigError

/-- The variant name. -/
def variant : ConfigError → String
  | .missingVar _ => "MissingVar"
  | .invalidValue .. => "InvalidValue"

/-- The message. -/
def message : ConfigError → String
  | .missingVar n => s!"Missing required environment variable: {n}"
  | .invalidValue n raw => s!"Invalid value for {n}: {raw}"

end ConfigError

/-! ### From environment variables -/

/-- The value of a run of ASCII digits; `none` if any character is not a digit. -/
def digitsValue (cs : List Char) : Option Nat :=
  cs.foldl (fun acc c => acc.bind fun n =>
    if c.isDigit then some (10 * n + (c.toNat - '0'.toNat)) else none) (some 0)

/-- Reads an unsigned integer of a width: an optional `+`, then at least one digit, and a value
below `2 ^ bits`. -/
def parseUnsigned (bits : Nat) (s : String) : Option Nat :=
  let digits := match s.toList with
    | '+' :: rest => rest
    | cs => cs
  if digits.isEmpty then none
  else (digitsValue digits).bind fun n => if n < Nat.pow 2 bits then some n else none

/-- Reads a switch word. -/
def parseSwitch (s : String) : Option Bool :=
  match String.map Char.toLower (Text.trimBlank s) with
  | "1" | "true" | "yes" | "on" => some true
  | "0" | "false" | "no" | "off" => some false
  | _ => none

/-- The environment named by a variable; unknown names mean development. -/
def parseEnvironment (s : String) : Environment :=
  (Environment.ofName? (String.map Char.toLower s)).getD .development

/-- An optional unsigned variable of a width. -/
def envNumber (vars : List (String × String)) (name : String) (bits : Nat) (dflt : Nat) :
    Except ConfigError Nat :=
  match vars.lookup name with
  | none => .ok dflt
  | some raw =>
    match parseUnsigned bits (Text.trimBlank raw) with
    | some n => .ok n
    | none => .error (.invalidValue name raw)

/-- An optional switch variable. -/
def envSwitch (vars : List (String × String)) (name : String) (dflt : Bool) :
    Except ConfigError Bool :=
  match vars.lookup name with
  | none => .ok dflt
  | some raw =>
    match parseSwitch raw with
    | some b => .ok b
    | none => .error (.invalidValue name raw)

/-- A required variable. -/
def envRequired (vars : List (String × String)) (name : String) : Except ConfigError String :=
  match vars.lookup name with
  | some v => .ok v
  | none => .error (.missingVar name)

/-- The origins listed in a comma-separated variable. -/
def splitOrigins (s : String) : List String :=
  ((s.splitOn ",").map Text.trimBlank).filter (!·.isEmpty)

/-- The environment variables the settings are read from. -/
def settingVariables : List String :=
  ["APP_NAME", "APP_ENV", "API_HOST", "API_PORT", "API_REQUEST_TIMEOUT_SECS", "DATABASE_URL",
   "DATABASE_MAX_CONNECTIONS", "DATABASE_MIN_CONNECTIONS", "DATABASE_RUN_MIGRATIONS", "JWT_SECRET",
   "JWT_LEEWAY_SECS", "RATE_LIMIT_REQUESTS_PER_SECOND", "RATE_LIMIT_BURST", "CORS_ALLOWED_ORIGINS"]

/-- Reads the settings from environment variables, in the order the service reads them. -/
def AppConfig.fromEnv (vars : List (String × String)) : Except ConfigError AppConfig := do
  let name := (vars.lookup "APP_NAME").getD "unixify"
  let env := ((vars.lookup "APP_ENV").map parseEnvironment).getD .development
  let host := (vars.lookup "API_HOST").getD "127.0.0.1"
  let port ← envNumber vars "API_PORT" 16 8080
  let requestTimeoutSecs ← envNumber vars "API_REQUEST_TIMEOUT_SECS" 64 30
  let databaseUrl ← envRequired vars "DATABASE_URL"
  let maxConnections ← envNumber vars "DATABASE_MAX_CONNECTIONS" 32 20
  let minConnections ← envNumber vars "DATABASE_MIN_CONNECTIONS" 32 5
  let runMigrations ← envSwitch vars "DATABASE_RUN_MIGRATIONS" true
  let jwtSecret ← envRequired vars "JWT_SECRET"
  let leewaySecs ← envNumber vars "JWT_LEEWAY_SECS" 64 60
  let requestsPerSecond ← envNumber vars "RATE_LIMIT_REQUESTS_PER_SECOND" 32 10
  let burst ← envNumber vars "RATE_LIMIT_BURST" 32 50
  let allowedOrigins := ((vars.lookup "CORS_ALLOWED_ORIGINS").map splitOrigins).getD []
  pure { name, env, host, port, requestTimeoutSecs, databaseUrl, maxConnections, minConnections,
         runMigrations, jwtSecret, leewaySecs, requestsPerSecond, burst, allowedOrigins }

/-! ### From JSON -/

/-- The JSON shape of the settings. -/
def AppConfig.shape : Shape :=
  .record "AppConfig"
    [("app", .record "AppSettings"
        [("name", .text, .defaulted),
         ("env", .choice (Environment.all.map Environment.name), .defaulted)], .required),
     ("api", .record "ServerConfig"
        [("host", .text, .defaulted), ("port", .word 16, .required),
         ("request_timeout_secs", .word 64, .defaulted)], .required),
     ("database", .record "DatabaseConfig"
        [("url", .text, .required), ("max_connections", .word 32, .defaulted),
         ("min_connections", .word 32, .defaulted), ("run_migrations", .flag, .defaulted)],
        .required),
     ("jwt", .record "JwtConfig"
        [("secret", .text, .required), ("leeway_secs", .word 64, .defaulted)], .required),
     ("rate_limit", .record "RateLimitConfig"
        [("requests_per_second", .word 32, .defaulted), ("burst", .word 32, .defaulted)],
        .required),
     ("cors", .record "CorsConfig" [("allowed_origins", .texts, .defaulted)], .required)]

/-- The members of a decoded record. -/
def Got.slots : Option Got → List (Option Got)
  | some (.record s) => s
  | _ => []

/-- The number in a slot, or a default. -/
def Got.natOr (g : Option Got) (d : Nat) : Nat :=
  match g with
  | some (.int i) => i.toNat
  | _ => d

/-- The text in a slot, or a default. -/
def Got.textOr (g : Option Got) (d : String) : String :=
  match g with
  | some (.text s) => s
  | _ => d

/-- The settings held by a decoded record of their shape. -/
def AppConfig.ofGot (g : Got) : AppConfig :=
  let top := Got.slots (some g)
  let at_ (xs : List (Option Got)) (i : Nat) : Option Got := (xs[i]?).getD none
  let app := Got.slots (at_ top 0)
  let api := Got.slots (at_ top 1)
  let db := Got.slots (at_ top 2)
  let jwt := Got.slots (at_ top 3)
  let rl := Got.slots (at_ top 4)
  let cors := Got.slots (at_ top 5)
  { name := Got.textOr (at_ app 0) "unixify"
    env := match at_ app 1 with
      | some (.choice n) => (Environment.ofName? n).getD .development
      | _ => .development
    host := Got.textOr (at_ api 0) "127.0.0.1"
    port := Got.natOr (at_ api 1) 8080
    requestTimeoutSecs := Got.natOr (at_ api 2) 30
    databaseUrl := Got.textOr (at_ db 0) ""
    maxConnections := Got.natOr (at_ db 1) 20
    minConnections := Got.natOr (at_ db 2) 5
    runMigrations := match at_ db 3 with
      | some (.flag b) => b
      | _ => true
    jwtSecret := Got.textOr (at_ jwt 0) ""
    leewaySecs := Got.natOr (at_ jwt 1) 60
    requestsPerSecond := Got.natOr (at_ rl 0) 10
    burst := Got.natOr (at_ rl 1) 50
    allowedOrigins := match at_ cors 0 with
      | some (.texts xs) => xs
      | _ => [] }

/-- Reads the settings from a JSON value. -/
def AppConfig.fromJson (v : Value) : Except Fault AppConfig :=
  AppConfig.ofGot <$> AppConfig.shape.ofValue v

/-- The settings as answered, with the environment's tracing preset. -/
def AppConfig.toJson (c : AppConfig) (tracing : Value) : Value :=
  .obj [("app", .obj [("name", .str c.name), ("env", .str c.env.name)]),
    ("api", .obj [("host", .str c.host), ("port", .int c.port),
      ("request_timeout_secs", .int c.requestTimeoutSecs), ("address", .str c.address)]),
    ("database", .obj [("url", .str c.databaseUrl), ("max_connections", .int c.maxConnections),
      ("min_connections", .int c.minConnections), ("run_migrations", .bool c.runMigrations)]),
    ("jwt", .obj [("secret", .str c.jwtSecret), ("leeway_secs", .int c.leewaySecs)]),
    ("rate_limit", .obj [("requests_per_second", .int c.requestsPerSecond),
      ("burst", .int c.burst)]),
    ("cors", .obj [("allowed_origins", .arr (c.allowedOrigins.map .str))]),
    ("is_production", .bool c.isProduction), ("is_development", .bool c.isDevelopment),
    ("tracing", tracing)]

/-- A tracing preset as answered. -/
def TracingConfig.toJson (t : TracingConfig) : Value :=
  .obj [("level", .str t.level.name), ("json", .bool t.json), ("span_events", .bool t.spanEvents),
    ("file_line", .bool t.fileLine), ("thread_names", .bool t.threadNames)]

end PosixRegistry
