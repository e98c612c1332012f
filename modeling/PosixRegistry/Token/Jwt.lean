import PosixRegistry.AppError
import PosixRegistry.Number.Word
import PosixRegistry.Text.Decimal
/-!
# Signed tokens

A token carries claims — the subject (a user id), the username, the issue and expiry times and
the token type — under a signature made with a shared secret.  Signing and checking belong to a
token codec (`JwtCodec`), which the service takes as given: it encodes claims under a secret,
and decodes a token under a secret, with a clock leeway and at a time, to its claims or to a
refusal, expired or invalid.  What the service relies on the codec for is `JwtCodec.Lawful`:
claims whose times are 64-bit come back from their own token while their expiry is not before
now minus the leeway.

The service issues access tokens, maps the codec's refusals to its own errors, requires an
access token, and reads the user id from the subject as a signed 64-bit decimal.
-/

namespace PosixRegistry

/-- The kinds of token. -/
inductive TokenType where
  | access
  | refresh
  deriving DecidableEq, Repr

/-- The name of a token type. -/
def TokenType.name : TokenType → String
  | .access => "access"
  | .refresh => "refresh"

/-- The claims of a token. -/
structure Claims where
  sub : String
  username : String
  iat : Int
  exp : Int
  tokenType : TokenType
  deriving DecidableEq, Repr

namespace Claims

/-- The user id named by the subject. -/
def userId (c : Claims) : Except AppError Int :=
  match Text.readInt64 c.sub with
  | .ok i => .ok i
  | .error _ => .error .invalidToken

/-- Whether the expiry lies before now. -/
def isExpired (c : Claims) (now : Int) : Bool := c.exp < now

/-- Whether this is an access token. -/
def isAccess (c : Claims) : Bool := c.tokenType == .access

end Claims

/-- Why a codec refuses a token: its expiry has passed, or anything else (its form, its
signature, its claims). -/
inductive TokenFault where
  | expired
  | invalid
  deriving DecidableEq, Repr

/-- The service's error for a codec's refusal. -/
def TokenFault.toAppError : TokenFault → AppError
  | .expired => .tokenExpired
  | .invalid => .invalidToken

/-- A token codec: it encodes claims under a secret, and decodes a token under a secret, with a
leeway in seconds and at a time in seconds since the epoch. -/
structure JwtCodec where
  encode : String → Claims → String
  decode : String → Nat → Int → String → Except TokenFault Claims

/-- The laws the service takes a codec to keep. -/
structure JwtCodec.Lawful (j : JwtCodec) : Prop where
  /-- Claims whose times are signed 64-bit integers come back from their own token under the
  same secret, as long as their expiry is not before now minus the leeway. -/
  decode_encode (secret : String) (leeway : Nat) (now : Int) (c : Claims)
    (hiat : Number.Int64.Fits c.iat) (hexp : Number.Int64.Fits c.exp)
    (hlive : now - leeway ≤ c.exp) : j.decode secret leeway now (j.encode secret c) = .ok c

/-- A token checker: the secret and the clock leeway in seconds, a 64-bit word. -/
structure TokenService where
  secret : String
  leewaySecs : Nat
  deriving DecidableEq, Repr

namespace TokenService

variable (t : TokenService) (j : JwtCodec)

/-- Issues an access token for a user, valid for `ttl` seconds from now. -/
def issueAccess (now : Int) (userId : Int) (username : String) (ttl : Int) : String :=
  j.encode t.secret ⟨toString userId, username, now, now + ttl, .access⟩

/-- Checks a token at a time and reads its claims; a refusal for expiry is `tokenExpired`,
any other `invalidToken`. -/
def decode (now : Int) (token : String) : Except AppError Claims :=
  (j.decode t.secret t.leewaySecs now token).mapError TokenFault.toAppError

/-- Checks a token and requires it to be an access token. -/
def validateAccess (now : Int) (token : String) : Except AppError Claims := do
  let c ← t.decode j now token
  if c.isAccess then pure c else throw .invalidToken

end TokenService

end PosixRegistry
