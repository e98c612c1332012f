import PosixRegistry.Clock
import PosixRegistry.Console.Registry
import PosixRegistry.Console.Shell
/-!
# Sessions

A session is one JSON object: an optional range policy, an optional server configuration and
a list of commands. It starts from an empty registry and answers `{"results": [...]}` with one
answer per command, in order; state carries from command to command. A session that is not an
object, or has a malformed policy, no command list or a malformed configuration, is refused
as a whole, for the first of these faults in that order; a line that is not JSON is refused
with the reader's message.

The server is made at the first `http` command, over the session's registry, and kept: its
rate limiter lasts for the session.

Answers never carry clock-dependent members: `created_at`, `updated_at` and `timestamp` are
removed at every depth.
-/

namespace PosixRegistry.Console

open Json

/-- The state of a session. -/
structure Session where
  registry : Registry := {}
  policy : RangePolicy := .standard
  config : AppConfig := standardServerConfig
  server : Option Http.Server := none

/-- A range given as `[min, max]`, both bounds 64-bit integers. -/
def rangeArg : Value → Args IdRange
  | .arr [.int a, .int b] =>
    if isInt64 a && isInt64 b then .ok ⟨a, b⟩ else .error "range must be [min,max]"
  | _ => .error "range must be [min,max]"

/-- A table given as an object from type names to ranges, over the standard table; the names
are taken in their sorted order. -/
def tableArg : Option Value → Args RangeTable
  | none => .ok .standard
  | some (.obj fields) =>
    let step (t : RangeTable) (kv : String × Value) : Args RangeTable := do
      match IdentityType.ofName? kv.1 with
      | some ty => pure (t.set ty (← rangeArg kv.2))
      | none => throw s!"unknown type {kv.1}"
    match (Value.obj fields).canonical with
    | .obj fields => fields.foldlM step RangeTable.standard
    | _ => .ok .standard
  | some _ => .error "range table must be an object"

/-- The range policy of a session. -/
def policyArg : Option Value → Args RangePolicy
  | none | some .null => .ok .standard
  | some (.obj fields) => do
    let v := Value.obj fields
    pure ⟨← tableArg (v.get? "uid"), ← tableArg (v.get? "gid")⟩
  | some _ => .error "policy must be an object"

/-- The keys whose values depend on the clock. -/
def clockKeys : List String := ["created_at", "updated_at", "timestamp"]

/-- The text written for a request id the server makes up. -/
def generatedId : String := "<generated>"

/-- The request id a request sends: the value of its last `x-request-id` header. -/
def sentRequestId (req : Http.Request) : Option String :=
  ((req.headers.filter (·.1 == "x-request-id")).getLast?).map (·.2)

/-- A response's request id as answered: kept when it is the id the request sent, written
`<generated>` otherwise. -/
def maskRequestId (sent : Option String) (r : Http.Response) : Http.Response :=
  { r with headers := r.headers.map fun (n, v) =>
      if n == "x-request-id" && some v != sent then (n, generatedId) else (n, v) }

/-- Sends the request of an `http` command to the session's server, making it first if need be. -/
def httpCommand (s : Session) (op : Value) (now : Instant) : Args (Value × Session) := do
  let req ← requestArg s.config.jwtSecret now.unixSecs op
  let server := s.server.getD (Http.Server.create s.config s.policy hs256 now)
  let (resp, server, registry) := server.serve s.registry now generatedId req
  pure (ok (responseJson (maskRequestId (sentRequestId req) resp)),
    { s with registry, server := some server })

/-- Answers one command, with the registry's clock set to the wall clock first. -/
def command (s : Session) (op : Value) (now : Instant) : Value × Session :=
  let s := { s with registry := { s.registry with clock := now.unixSecs } }
  let refuse (m : String) : Value × Session := (badInput m, s)
  match op with
  | .obj _ =>
    match op.get? "op" with
    | some (.str "http") =>
      match httpCommand s op now with
      | .ok r => r
      | .error m => refuse m
    | some (.str name) =>
      match registryCommand s.policy name op s.registry with
      | some (.ok (v, r)) => (v, { s with registry := r })
      | some (.error m) => refuse m
      | none =>
        match coreCommand s.policy name op with
        | some (.ok v) => (v, s)
        | some (.error m) => refuse m
        | none =>
          match shellCommand s.registry s.policy s.config now.unixSecs name op with
          | some (.ok v) => (v, s)
          | some (.error m) => refuse m
          | none => refuse s!"unknown op {name}"
    | some _ => refuse "field op must be a string"
    | none => refuse "missing field op"
  | _ => refuse "op must be an object"

/-- Answers the commands of a session in order, reading the clocks before each. -/
def runCommands {m : Type → Type} [Monad m] (clock : m Instant) :
    Session → List Value → m (List Value)
  | _, [] => pure []
  | s, op :: ops => do
    let now ← clock
    let (v, s) := command s op now
    let rest ← runCommands clock s ops
    pure (v.eraseKeys clockKeys :: rest)

/-- Answers a session. -/
def runSession {m : Type → Type} [Monad m] (clock : m Instant) (input : Value) : m Value :=
  match input with
  | .obj _ =>
    match policyArg (input.get? "policy"), input.get? "ops", configArg (input.get? "config") with
    | .error msg, _, _ => pure (badInput msg)
    | .ok _, some (.arr _), .error msg => pure (badInput msg)
    | .ok policy, some (.arr ops), .ok config => do
      let results ← runCommands clock { policy, config } ops
      pure (.obj [("results", .arr results)])
    | .ok _, _, _ => pure (badInput "ops must be an array")
  | _ => pure (badInput "input must be an object")

/-- Answers one line of input with one line of output. -/
def runLine {m : Type → Type} [Monad m] (clock : m Instant) (line : String) : m String := do
  match parseText line with
  | .ok v => return (← runSession clock v).write
  | .error f => return (badInput ("input is not JSON: " ++ f.message)).write

end PosixRegistry.Console
