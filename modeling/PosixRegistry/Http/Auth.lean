import PosixRegistry.Http.Failure
import PosixRegistry.Http.Mime
import PosixRegistry.Token.Jwt
import PosixRegistry.Text.Blank
/-!
# The caller

Every API endpoint needs a bearer token. The first `Authorization` value must be visible
ASCII, longer than six bytes, and start with `Bearer` in any case followed by a space; the
token is what follows, leading blanks dropped. Without such a value the request is refused as
unauthenticated. The token must be a valid access token whose subject is a user id.

The caller's IP address, recorded in the audit log, is the first hop of `X-Forwarded-For`
when that header is visible ASCII and its first comma-separated part is not blank; otherwise
the address of the connection; otherwise `unknown`.
-/

namespace PosixRegistry.Http

/-- The caller of an endpoint. -/
structure AuthUser where
  userId : Int
  username : String
  ipAddress : String
  deriving DecidableEq, Repr

/-- The caller as the actor of a change. -/
def AuthUser.actor (u : AuthUser) : Actor := ⟨u.userId, u.username, u.ipAddress⟩

/-- The bearer token of an authorization value, if it is one. -/
def bearerToken? (value : String) : Option String :=
  let cs := value.toList
  if isVisibleAscii value && 6 < cs.length && cs[6]? == some ' ' &&
      String.map Char.toLower (String.ofList (cs.take 6)) == "bearer" then
    some (Text.trimBlankStart (String.ofList (cs.drop 7)))
  else none

/-- The caller's IP address. -/
def clientIp (req : Request) : String :=
  let forwarded := (req.headers.get? "x-forwarded-for").bind fun v =>
    if isVisibleAscii v then
      let first := Text.trimBlank ((v.splitOn ",").headD "")
      if first.isEmpty then none else some first
    else none
  match forwarded with
  | some ip => ip
  | none =>
    match req.peer with
    | some a => a.ip.text
    | none => "unknown"

/-- Identifies the caller of a request at a time (seconds since the epoch), checking its token
with a codec. -/
def authenticate (codec : JwtCodec) (tokens : TokenService) (now : Int) (req : Request) :
    Except ApiError AuthUser := do
  let some token := (req.headers.get? "authorization").bind bearerToken? | throw .missingAuth
  match tokens.validateAccess codec now token with
  | .error e => throw (.app e)
  | .ok claims =>
    match claims.userId with
    | .error e => throw (.app e)
    | .ok id => pure ⟨id, claims.username, clientIp req⟩

end PosixRegistry.Http
