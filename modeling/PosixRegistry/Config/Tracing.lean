/-!
# Tracing presets

The log level and output switches for each environment: development logs at debug level with
span events and thread names, production writes JSON at info level without source places, and
the default (used for staging) logs at info level with source places. The process installs one
log subscriber at start-up; installing another fails.
-/

namespace PosixRegistry

/-- The deployment environments. -/
inductive Environment where
  | development
  | staging
  | production
  deriving DecidableEq, Repr, Inhabited

namespace Environment

/-- All environments, in declaration order. -/
def all : List Environment := [.development, .staging, .production]

/-- The lowercase name. -/
def name : Environment → String
  | .development => "development"
  | .staging => "staging"
  | .production => "production"

/-- The environment with exactly this name. -/
def ofName? : String → Option Environment
  | "development" => some .development
  | "staging" => some .staging
  | "production" => some .production
  | _ => none

end Environment

/-- Log levels. -/
inductive LogLevel where
  | info
  | debug
  deriving DecidableEq, Repr

/-- The uppercase name of a level. -/
def LogLevel.name : LogLevel → String
  | .info => "INFO"
  | .debug => "DEBUG"

/-- How logs are written. -/
structure TracingConfig where
  level : LogLevel
  json : Bool
  spanEvents : Bool
  fileLine : Bool
  threadNames : Bool
  deriving DecidableEq, Repr

namespace TracingConfig

/-- The default preset. -/
def standard : TracingConfig := ⟨.info, false, false, true, false⟩

/-- The development preset. -/
def development : TracingConfig := ⟨.debug, false, true, true, true⟩

/-- The production preset. -/
def production : TracingConfig := ⟨.info, true, false, false, false⟩

/-- The preset of an environment. -/
def forEnvironment : Environment → TracingConfig
  | .development => development
  | .staging => standard
  | .production => production

end TracingConfig

/-- Why a subscriber cannot be installed. -/
inductive TracingError where
  | alreadyInitialized
  deriving DecidableEq, Repr

/-- The message of the refusal. -/
def TracingError.message : TracingError → String
  | .alreadyInitialized => "Tracing subscriber already initialized"

/-- Installs a subscriber with a preset, given whether one is installed already. -/
def installTracing (installed : Bool) (_ : TracingConfig) : Except TracingError Unit :=
  if installed then .error .alreadyInitialized else .ok ()

end PosixRegistry
