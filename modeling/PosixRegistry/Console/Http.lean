import PosixRegistry.Console.Args
import PosixRegistry.Http.Server
import PosixRegistry.Http.Target
import PosixRegistry.Token.Hs256
/-!
# HTTP commands

The `http` command sends one request to the session's server and answers its response:
`{"status", "headers", "body"}`, the body as JSON, `null` when empty, or `body_text` when it is
not JSON. Header names are lowercase and repeated values are joined with `, `; the headers
that depend on the clock or the transport (`date`, `content-length`, `x-ratelimit-after`,
`retry-after`) are left out. A request id the server made up is written `<generated>`, the
wait of a rate-limit refusal has its digits written `#`, and the lines of a field-rule
refusal's message are sorted.

A request is built from the command: the method (default `GET`), the target as given, the
`Authorization` header (by default a one-hour access token for user 7, `operator`), the given
headers, the body (JSON written compactly with sorted keys, or a raw text, possibly repeated
up to four million bytes), its content type (`application/json` for a JSON body unless
given), and the peer address. A method, target or header the request type refuses makes the
command a bad request; the peer address is read only after the request is put together.

A token is described by a user id, username and lifetime, or by a claims object whose expiry
and issue time may be set relative to now; it is signed with the session's secret unless
another is given.
-/

namespace PosixRegistry.Console

open Json Http

/-- The settings of a session's server. -/
def serverConfig (env : Environment) (secret : String) (leeway rps burst : Nat)
    (origins : List String) : AppConfig :=
  { env, port := 0, databaseUrl := "postgres://unused", jwtSecret := secret, leewaySecs := leeway,
    requestsPerSecond := rps, burst, allowedOrigins := origins }

/-- The settings of a session without a configuration. -/
def standardServerConfig : AppConfig := serverConfig .development "router-test-secret" 0 1000 1000 []

/-- A setting that must be an unsigned 64-bit integer. -/
def wordSetting (name : String) : Value → Args Nat
  | .int i =>
    if 0 ≤ i ∧ i < (Number.wordModulus : Int) then .ok i.toNat
    else .error s!"field {name} must be a u64"
  | _ => .error s!"field {name} must be a u64"

/-- One member of a session's server settings applied to the settings so far. `env` and
`jwt_secret` count only when they are strings. -/
def applySetting (c : AppConfig) : String × Value → Args AppConfig
  | ("allowed_origins", .arr items) => do
    let origins ← items.mapM fun
      | .str s => pure s
      | _ => throw "allowed_origins must be strings"
    pure { c with allowedOrigins := origins }
  | ("allowed_origins", _) => .error "allowed_origins must be an array"
  | ("burst", v) => return { c with burst := Number.HalfWord.ofNat (← wordSetting "burst" v) }
  | ("env", .str e) =>
    match Environment.ofName? e with
    | some e => .ok { c with env := e }
    | none => .error s!"unknown environment {e}"
  | ("jwt_secret", .str s) => .ok { c with jwtSecret := s }
  | ("leeway_secs", v) => return { c with leewaySecs := ← wordSetting "leeway_secs" v }
  | ("requests_per_second", v) =>
    return { c with requestsPerSecond := Number.HalfWord.ofNat (← wordSetting "requests_per_second" v) }
  | _ => .ok c

/-- The members of the server settings, in the order they are applied. -/
def settingNames : List String :=
  ["allowed_origins", "env", "jwt_secret", "leeway_secs", "requests_per_second", "burst"]

/-- The server settings a session gives: its members applied in the order of `settingNames`
over the standard settings. -/
def configArg : Option Value → Args AppConfig
  | none | some .null => .ok standardServerConfig
  | some (.obj fields) =>
    let v := Value.obj fields
    settingNames.foldlM (fun c n => match v.get? n with
      | some x => applySetting c (n, x)
      | none => .ok c) standardServerConfig
  | some _ => .error "config must be an object"

/-! ### Tokens -/

/-- The signing algorithm named by a command. -/
def algorithmArg (op : Value) : Args Algorithm := do
  match ← optStr op "alg" with
  | none => pure .hs256
  | some n => match Algorithm.ofName? n with
    | some a => pure a
    | none => throw s!"unsupported alg {n}"

/-- The token a token description asks for, signed at a time (seconds since the epoch). -/
def tokenOf (secret : String) (now : Int) (spec : Value) : Args String := do
  match spec.get? "claims" with
  | some (.obj claims) =>
    let expOffset ← optInt spec "exp_offset"
    let iatOffset ← optInt spec "iat_offset"
    let secret := (← optStr spec "secret").getD secret
    let alg ← algorithmArg spec
    let set (name : String) (offset : Option Int) (v : Value) : Value :=
      match offset, v with
      | some o, .obj fs => .obj (fs.filter (·.1 != name) ++ [(name, .int (Number.Int64.wrap (now + o)))])
      | _, v => v
    let claims := set "iat" iatOffset (set "exp" expOffset (Value.obj claims).canonical)
    pure (signToken alg secret claims)
  | _ =>
    let secret := (← optStr spec "secret").getD secret
    let userId ← reqInt spec "user_id"
    let username ← reqStr spec "username"
    let ttl := (← optInt spec "ttl").getD 3600
    pure (TokenService.issueAccess ⟨secret, 0⟩ hs256 now userId username ttl)

/-! ### Requests -/

/-- The most bytes a repeated raw body may have. -/
def bodyMaxBytes : Nat := 4000000

/-- The body of a command: its text and whether it is JSON. A raw body wins over a JSON one;
its count of repeats is taken as a 64-bit word, so a negative count is a huge one, which only
an empty text survives. -/
def bodyArg (op : Value) : Args (Option (String × Bool)) := do
  match op.get? "body_raw" with
  | some (.str raw) =>
    let times := Number.Word.ofInt ((← optInt op "body_repeat").getD 1)
    if bodyMaxBytes < raw.utf8ByteSize * times then throw "body_repeat out of range"
    pure (some (if raw.isEmpty then "" else String.join (List.replicate times raw), false))
  | some _ => throw "body_raw must be a string"
  | none =>
    match op.get? "body" with
    | some v => pure (some (v.canonical.write, true))
    | none => pure none

/-- The headers a command adds, in the order of their names. -/
def headersArg (op : Value) : Args Headers :=
  match op.get? "headers" with
  | none => .ok []
  | some (.obj fields) =>
    match (Value.obj fields).canonical with
    | .obj fields => fields.mapM fun
      | (n, .str v) => .ok (String.map Char.toLower n, v)
      | _ => .error "header values must be strings"
    | _ => .ok []
  | some _ => .error "headers must be an object"

/-- The `Authorization` header a command asks for, with the session's token secret, at a time. -/
def authArg (secret : String) (now : Int) (op : Value) : Args Headers :=
  match op.get? "auth" with
  | none =>
    .ok [("authorization", "Bearer " ++ TokenService.issueAccess ⟨secret, 0⟩ hs256 now 7 "operator" 3600)]
  | some (.str "none") => .ok []
  | some (.obj spec) =>
    match (Value.obj spec).get? "raw" with
    | some (.str raw) => .ok [("authorization", raw)]
    | _ => (tokenOf secret now (.obj spec)).map fun t => [("authorization", "Bearer " ++ t)]
  | some _ => .error "auth must be \"none\" or an object"

/-- Checks what the request type checks when a request is put together: the method, the
target and every header, in that order. -/
def buildRequest (method : String) (target : String) (headers : Headers) (body : String) :
    Args Request := do
  if !Method.isName method then throw "bad request: invalid HTTP method"
  let t ← match Target.parse target with
    | .ok t => pure t
    | .error f => throw ("bad request: " ++ f.text)
  for (n, v) in headers do
    if !isHeaderName n then throw "bad request: invalid HTTP header name"
    if !isHeaderValue v then throw "bad request: failed to parse header value"
  pure { method := Method.ofName method, path := t.path, query := t.query, headers, body }

/-- The request a command describes, at a time, with the session's token secret. -/
def requestArg (secret : String) (now : Int) (op : Value) : Args Request := do
  let method := (← optStr op "method").getD "GET"
  let target ← reqStr op "path"
  let auth ← authArg secret now op
  let extra ← headersArg op
  let body ← bodyArg op
  let contentType ← match op.get? "content_type" with
    | some (.str ct) => pure [("content-type", ct)]
    | some .null => pure []
    | some _ => throw "field content_type must be a string"
    | none => pure (match body with
      | some (_, true) => [("content-type", "application/json")]
      | _ => [])
  let req ← buildRequest method target (auth ++ extra ++ contentType) ((body.map (·.1)).getD "")
  let peer ← match ← optStr op "peer" with
    | none => pure none
    | some p => match SocketAddr.parse? p with
      | some a => pure (some a)
      | none => throw "peer must be ip:port"
  pure { req with peer }

/-! ### Responses -/

/-- The headers an answer leaves out. -/
def droppedHeaders : List String := ["date", "content-length", "x-ratelimit-after", "retry-after"]

/-- Response headers as an object: each name once, repeated values joined with `, `. -/
def headersJson (h : Headers) : Value :=
  let h := h.filter fun (n, _) => !droppedHeaders.contains n
  let names := h.foldl (fun acc (n, _) => if acc.contains n then acc else acc ++ [n]) []
  .obj (names.map fun n => (n, .str (", ".intercalate ((h.filter (·.1 == n)).map (·.2)))))

/-- The digits of a text written `#`. -/
def maskDigits (s : String) : String := String.map (fun c => if c.isDigit then '#' else c) s

/-- A field-rule refusal's message with its lines sorted. -/
def sortRuleLines (v : Value) : Value :=
  match v with
  | .obj [("error", .obj fields)] =>
    let isRules := fields.any (·.1 == "details") &&
      match (Value.obj fields).get? "code" with
      | some (.str "VALIDATION_ERROR") => true
      | _ => false
    match isRules, (Value.obj fields).get? "message" with
    | true, some (.str m) =>
      let head := "Validation error: "
      if m.startsWith head then
        let lines := sortTexts ((m.drop head.length).toString.splitOn "\n")
        let m := head ++ "\n".intercalate lines
        .obj [("error", .obj (fields.map fun (k, x) => if k == "message" then (k, .str m) else (k, x)))]
      else v
    | _, _ => v
  | v => v

/-- A response as answered. -/
def responseJson (r : Response) : Value :=
  let body := match r.body with
    | .empty => ("body", .null)
    | .json v => ("body", sortRuleLines v)
    | .text s => ("body_text", .str (if r.status == 429 then maskDigits s else s))
  .obj [("status", .int r.status), ("headers", headersJson r.headers), body]

end PosixRegistry.Console
