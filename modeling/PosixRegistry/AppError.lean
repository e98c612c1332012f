/-!
# Application errors

The errors of the service shell: a bad or expired token (401), and database, internal and
configuration failures (500). An internal failure hides its cause from the message.
-/

namespace PosixRegistry

/-- The errors of the service shell. -/
inductive AppError where
  | invalidToken
  | tokenExpired
  | database (message : String)
  | internal (cause : String)
  | config (message : String)
  deriving DecidableEq, Repr

namespace AppError

/-- The HTTP status. -/
def status : AppError → Nat
  | .invalidToken | .tokenExpired => 401
  | .database _ | .internal _ | .config _ => 500

/-- The stable code. -/
def code : AppError → String
  | .invalidToken => "INVALID_TOKEN"
  | .tokenExpired => "TOKEN_EXPIRED"
  | .database _ => "DATABASE_ERROR"
  | .internal _ => "INTERNAL_ERROR"
  | .config _ => "CONFIG_ERROR"

/-- The message. -/
def message : AppError → String
  | .invalidToken => "Invalid token"
  | .tokenExpired => "Token expired"
  | .database s => s!"Database error: {s}"
  | .internal _ => "Internal server error"
  | .config s => s!"Configuration error: {s}"

end AppError

end PosixRegistry
