import PosixRegistry.Crypto.Hmac
import PosixRegistry.Json.Buffer
import PosixRegistry.Json.Shape
import PosixRegistry.Number.Word
import PosixRegistry.Text.Base64
import PosixRegistry.Token.Jwt
/-!
# HS256 tokens

The token codec the console runs (`hs256`).  A token is three base64 parts joined by dots: a
header naming the signing algorithm, the claims, and the keyed hash of the first two parts.
Tokens are signed with HMAC-SHA-256, and only that algorithm is accepted.

Checking a token splits it at its last two dots, reads the header (whose key description, if
any, must be readable) and refuses any algorithm but HS256, compares the signature text with
the expected one, reads the claims (subject, username, issue and expiry times, token type) and
then the standard claims: an expiry that is a non-negative number is required, an audience is
refused since none is expected, and a token whose expiry lies before now minus the leeway is
expired. Every refusal but expiry is an invalid token.

Now minus the leeway is computed in 64-bit words, so a leeway larger than the clock wraps and
makes every token expired: there the codec does not keep `JwtCodec.Lawful`, which the service's
proofs assume.

Header and claims are read from their bytes: members that are passed over need not be UTF-8
and may nest without limit. The standard claims are read a second time by a reader that takes
`nbf`, `iss` and `aud` whole and may stop half way in them; see `Json.Buffer`.
-/

namespace PosixRegistry

open Json

namespace Claims

/-- The claims as JSON, in declaration order. -/
def toJson (c : Claims) : Value :=
  .obj [("sub", .str c.sub), ("username", .str c.username), ("iat", .int c.iat),
    ("exp", .int c.exp), ("token_type", .str c.tokenType.name)]

/-- The JSON shape of the claims. -/
def shape : Shape :=
  .record "Claims"
    [("sub", .text, .required), ("username", .text, .required), ("iat", .int, .required),
     ("exp", .int, .required), ("token_type", .choice ["access", "refresh"], .required)]

end Claims

/-- The signing algorithms a token header may name. -/
inductive Algorithm where
  | hs256
  | hs384
  | hs512
  deriving DecidableEq, Repr

namespace Algorithm

/-- The header name. -/
def name : Algorithm → String
  | .hs256 => "HS256"
  | .hs384 => "HS384"
  | .hs512 => "HS512"

/-- The algorithm with this header name. -/
def ofName? : String → Option Algorithm
  | "HS256" => some .hs256
  | "HS384" => some .hs384
  | "HS512" => some .hs512
  | _ => none

/-- The keyed hash. -/
def hash : Algorithm → Crypto.HashFn
  | .hs256 => .sha256
  | .hs384 => .sha384
  | .hs512 => .sha512

end Algorithm

/-- The names of every algorithm a header may carry. -/
def algorithmNames : List String :=
  ["HS256", "HS384", "HS512", "ES256", "ES384", "RS256", "RS384", "RS512", "PS256", "PS384",
   "PS512", "EdDSA"]

/-- The JSON shape of a token header. -/
def headerShape : Shape :=
  .record "Header"
    [("typ", .nullable .text, .optional), ("alg", .choice algorithmNames, .required),
     ("cty", .nullable .text, .optional), ("jku", .nullable .text, .optional),
     ("jwk", .nullable .value, .optional), ("kid", .nullable .text, .optional),
     ("x5u", .nullable .text, .optional),
     ("x5c", .nullable .texts, .optional), ("x5t", .nullable .text, .optional),
     ("x5t#S256", .nullable .text, .optional)]

/-- The bytes of a text. -/
def utf8 (s : String) : List UInt8 := s.toUTF8.toList

/-- The signature text of a message. -/
def signature (alg : Algorithm) (secret message : String) : String :=
  Text.base64Encode (Crypto.hmac alg.hash (utf8 secret) (utf8 message))

/-- Signs a claims object under a header naming the algorithm. -/
def signToken (alg : Algorithm) (secret : String) (claims : Value) : String :=
  let header := Value.obj [("typ", .str "JWT"), ("alg", .str alg.name)]
  let message := Text.base64Encode (utf8 header.write) ++ "." ++ Text.base64Encode (utf8 claims.write)
  message ++ "." ++ signature alg secret message

/-- Splits a text at its last dot. -/
def splitLastDot (s : String) : Option (String × String) :=
  let cs := s.toList
  match cs.reverse.findIdx? (· == '.') with
  | some i =>
    let cut := cs.length - 1 - i
    some (String.ofList (cs.take cut), String.ofList (cs.drop (cut + 1)))
  | none => none

/-! ### Key descriptions -/

/-- The curves a key description may name. -/
def curveNames : List String := ["P-256", "P-384", "P-521", "Ed25519"]

/-- The algorithms a key description may name. -/
def keyAlgorithmNames : List String :=
  algorithmNames ++ ["RSA1_5", "RSA-OAEP", "RSA-OAEP-256"]

/-- Whether a value is a string. -/
def isText : Value → Bool
  | .str _ => true
  | _ => false

/-- Whether a value is an array of strings. -/
def isTexts : Value → Bool
  | .arr items => items.all isText
  | _ => false

/-- Whether a value names one of some variants without data: the name as a string, or an
object whose only member is the name, with `null` as its value. -/
def namesVariant (names : List String) : Value → Bool
  | .str s => names.contains s
  | .obj [(s, .null)] => names.contains s
  | _ => false

/-- Like `namesVariant`, for a member read on its own rather than out of a buffered copy of
the object: there an empty object also stands for the missing data. -/
def namesVariantOwned (names : List String) : Value → Bool
  | .obj [(s, .obj [])] => names.contains s
  | v => namesVariant names v

/-- The common members of a key description, with the test a value other than `null` must
pass: `use`, `kid`, `x5u`, `x5t` and `x5t#S256` are strings, `key_ops` and `x5c` lists of
strings, `alg` a known algorithm. -/
def commonKeyMembers : List (String × (Value → Bool)) :=
  [("use", isText), ("key_ops", isTexts), ("alg", namesVariantOwned keyAlgorithmNames), ("kid", isText),
   ("x5u", isText), ("x5c", isTexts), ("x5t", isText), ("x5t#S256", isText)]

/-- The kinds of key, each with its `kty` name and the members it needs: elliptic curve
(`crv`, `x`, `y`), RSA (`n`, `e`), octet (`k`) and octet pair (`crv`, `x`). -/
def keyKinds : List (String × List (String × (Value → Bool))) :=
  [("EC", [("crv", namesVariant curveNames), ("x", isText), ("y", isText)]),
   ("RSA", [("n", isText), ("e", isText)]),
   ("oct", [("k", isText)]),
   ("OKP", [("crv", namesVariant curveNames), ("x", isText)])]

/-- Whether the members of a key description make a key of one kind: `kty` and each member
the kind needs are given exactly once and pass their tests; other members are ignored. -/
def isKeyOfKind (fields : List (String × Value)) (kind : String)
    (members : List (String × (Value → Bool))) : Bool :=
  (("kty", namesVariant [kind]) :: members).all fun (n, ok) =>
    match fields.filter (·.1 == n) with
    | [(_, v)] => ok v
    | _ => false

/-- Whether a header's key description is readable: an object in which each common member is
given at most once and is `null` or of its type, and whose other members make a key of one of
the kinds. -/
def isKeyDescription : Value → Bool
  | .obj fs =>
    let common := commonKeyMembers.all fun (n, ok) =>
      match fs.filter (·.1 == n) with
      | [] => true
      | [(_, .null)] => true
      | [(_, v)] => ok v
      | _ => false
    let rest := fs.filter fun f => !commonKeyMembers.any (·.1 == f.1)
    common && keyKinds.any fun (kind, members) => isKeyOfKind rest kind members
  | _ => false

/-! ### Standard claims -/

/-- What the standard claims say so far: whether an audience was read, and which of the
watched members were seen. -/
structure StandardScan where
  audience : Bool := false
  seen : List String := []

/-- Reads the members of the claims as the standard check does: `nbf` with a number reader,
`iss` and `aud` whole (an audience is a string or a list of strings), `exp` and `sub` as the
claims already read them, anything else passed over. A watched member given twice, or a
reader left where the object cannot go on, refuses the claims. -/
def standardMembers : Nat → Bool → StandardScan → Cursor → Option (StandardScan × Cursor)
  | 0, _, _, _ => none
  | fuel + 1, first, st, c =>
    match nextKey first c with
    | .error _ => none
    | .ok none => some (st, c.skipBlank)
    | .ok (some (k, c)) =>
      match readColon c with
      | .error _ => none
      | .ok c =>
        let watched := ["exp", "nbf", "sub", "iss", "aud"]
        if watched.contains k && st.seen.contains k then none
        else
          let st := if watched.contains k then { st with seen := k :: st.seen } else st
          let c' := c.skipBlank
          if k = "nbf" then standardMembers fuel false st (numberReaderStop c')
          else if (k = "iss" ∨ k = "aud") ∧ c'.peek ≠ some 0x6E then
            let (v, c'') := bufferValue (2 * c'.budget) 127 c'
            let isAud := match v with
              | some (.str _) => true
              | some (.arr items) => items.all isText
              | _ => false
            let st := if k = "aud" then { st with audience := isAud } else st
            standardMembers fuel false st c''
          else
            match skipValue c' with
            | .ok c'' => standardMembers fuel false st c''
            | .error _ => none

/-- Whether the standard claims of claims bytes name an audience, or none when the standard
check cannot read them. Only an object is read, and after its close only blanks may follow:
a reader that stopped inside a member may take an inner close for the object's own. -/
def audienceOf (bs : List UInt8) : Option Bool :=
  let c := (Cursor.ofBytes bs).skipBlank
  match c.peek with
  | some 0x7B =>
    match standardMembers (c.budget + 1) true {} c.bump with
    | some (st, c) => if c.bump.skipBlank.rest.isEmpty then some st.audience else none
    | none => none
  | _ => none

/-- Reads a record of a shape from whole bytes. -/
def readShapeBytes (shape : Shape) (bs : List UInt8) : Option (List (Option Got)) :=
  match shape with
  | .record n ms => (readRecordBytes n ms true bs).toOption
  | _ => none

/-- Checks an HS256 token under a secret, with a leeway and at a time, and reads its claims. -/
def Hs256.decode (secret : String) (leeway : Nat) (now : Int) (token : String) :
    Except TokenFault Claims := do
  let some (message, sig) := splitLastDot token | throw .invalid
  let some (headerPart, claimsPart) := splitLastDot message | throw .invalid
  let some headerBytes := Text.base64Decode headerPart | throw .invalid
  let some header := readShapeBytes headerShape headerBytes | throw .invalid
  let alg := match slotAt header 1 with
    | some (.choice n) => Algorithm.ofName? n
    | _ => none
  let keyOk := match slotAt header 4 with
    | some (.value v) => isKeyDescription v
    | _ => true
  if !keyOk then throw .invalid
  if alg != some .hs256 then throw .invalid
  if signature .hs256 secret message != sig then throw .invalid
  let some claimsBytes := Text.base64Decode claimsPart | throw .invalid
  let some cs := readShapeBytes Claims.shape claimsBytes | throw .invalid
  let claims : Claims :=
    { sub := (Got.text? (slotAt cs 0)).getD ""
      username := (Got.text? (slotAt cs 1)).getD ""
      iat := (Got.int? (slotAt cs 2)).getD 0
      exp := (Got.int? (slotAt cs 3)).getD 0
      tokenType := match slotAt cs 4 with
        | some (.choice "refresh") => .refresh
        | _ => .access }
  let some audience := audienceOf claimsBytes | throw .invalid
  if claims.exp < 0 then throw .invalid
  if claims.exp.toNat < Number.Word.sub now.toNat leeway then throw .expired
  if audience then throw .invalid
  pure claims

/-- The HS256 codec: claims are signed as JSON under a header naming HS256. -/
def hs256 : JwtCodec where
  encode secret c := signToken .hs256 secret c.toJson
  decode := Hs256.decode

end PosixRegistry
