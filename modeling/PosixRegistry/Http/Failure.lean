import PosixRegistry.AppError
import PosixRegistry.Http.Message
import PosixRegistry.Registry.Render
/-!
# Refusals of the API

Everything the API refuses becomes one JSON error body `{"error": {"code", "message"}}` with
its status: a token refused by the token checker (401), a service refusal (its own status), a
request body that breaks field rules (400, with the broken rules as `details`), an unreadable
path parameter, query string or body (400), or a missing bearer token (401).

Broken field rules are written one field per line, `field: message, message`, in field order;
`details` maps each field to its broken rules.
-/

namespace PosixRegistry.Http

open Json

/-- A refusal of the API. -/
inductive ApiError where
  | app (e : AppError)
  | service (e : ServiceError)
  | validation (vs : List Violation)
  | invalidPath (s : String)
  | invalidQuery (s : String)
  | invalidBody (s : String)
  | missingAuth

/-- The fields of broken rules, in order, each once. -/
def violationFields (vs : List Violation) : List String :=
  sortTexts (vs.foldl (fun acc v => if acc.contains v.field then acc else acc ++ [v.field]) [])

/-- The text of one broken rule. -/
def Violation.text (v : Violation) : String := v.message.getD s!"Validation error: {v.code}"

/-- The lines of broken rules: one per field. -/
def violationLines (vs : List Violation) : List String :=
  (violationFields vs).map fun f =>
    f ++ ": " ++ ", ".intercalate ((vs.filter (·.field == f)).map Violation.text)

/-- One broken rule as JSON. -/
def Violation.toJson (v : Violation) : Value :=
  .obj [("code", .str v.code), ("message", Value.ofOptStr v.message), ("params", .obj v.params)]

/-- The broken rules as JSON: each field with its rules. -/
def violationsJson (vs : List Violation) : Value :=
  .obj ((violationFields vs).map fun f => (f, .arr ((vs.filter (·.field == f)).map Violation.toJson)))

namespace ApiError

/-- The HTTP status. -/
def status : ApiError → Nat
  | .app e => e.status
  | .service e => e.status
  | .validation _ | .invalidPath _ | .invalidQuery _ | .invalidBody _ => 400
  | .missingAuth => 401

/-- The stable code. -/
def code : ApiError → String
  | .app e => e.code
  | .service e => e.code
  | .validation _ => "VALIDATION_ERROR"
  | .invalidPath _ => "INVALID_PATH_PARAMETER"
  | .invalidQuery _ => "INVALID_QUERY_PARAMETER"
  | .invalidBody _ => "INVALID_BODY"
  | .missingAuth => "MISSING_AUTHORIZATION"

/-- The message. -/
def message : ApiError → String
  | .app e => e.message
  | .service e => e.message
  | .validation vs => "Validation error: " ++ "\n".intercalate (violationLines vs)
  | .invalidPath s => s!"Invalid path parameter: {s}"
  | .invalidQuery s => s!"Invalid query parameter: {s}"
  | .invalidBody s => s!"Invalid request body: {s}"
  | .missingAuth => "Missing authorization header"

/-- The error body. -/
def body (e : ApiError) : Value :=
  let details := match e with
    | .validation vs => [("details", violationsJson vs)]
    | _ => []
  .obj [("error", .obj ([("code", .str e.code), ("message", .str e.message)] ++ details))]

/-- The response. -/
def toResponse (e : ApiError) : Response := Response.ofJson e.status e.body

end ApiError

end PosixRegistry.Http
