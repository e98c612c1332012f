import Mathlib
import PosixRegistry.Proofs.Text.Decimal
import PosixRegistry.Token.Jwt

/-!
# Tokens — an issued access token checks back to its claims

The service issues an access token by handing its claims to the token codec, and checks one by
asking the codec back, requiring an access token, and reading the subject as a user id.  Under
the codec's laws (`JwtCodec.Lawful`), a token checked no later than its lifetime plus the leeway
after issue checks back to its user, its name and its type (`access_token_checks_back`), for
every user id of the 64-bit range: the subject is the user id printed in decimal, and it reads
back as that id (`Text.readInt64_toString`).

The laws are not empty: a codec that writes the claims in the clear keeps them
(`JwtCodec.clear_lawful`).
-/

namespace PosixRegistry

theorem Number.Int64.fits_iff {i : Int} : Number.Int64.Fits i ↔ -2 ^ 63 ≤ i ∧ i < 2 ^ 63 := by
  norm_num [Number.Int64.Fits]

/-- A subject that is a 64-bit user id printed in decimal names that user. -/
theorem Claims.userId_eq {c : Claims} {u : Int} (hsub : c.sub = toString u)
    (hu : -2 ^ 63 ≤ u ∧ u < 2 ^ 63) : c.userId = .ok u := by
  simp only [Claims.userId, hsub, Text.readInt64_toString hu.1 hu.2]

namespace TokenService

variable (t : TokenService) {j : JwtCodec} (hj : j.Lawful)
include hj

/-- A token the service issued decodes to the claims it was issued with, while its expiry is
not before the time of checking minus the leeway. -/
theorem decode_issueAccess {now v u : Int} (n : String) {ttl : Int}
    (hnow : -2 ^ 63 ≤ now ∧ now < 2 ^ 63) (hend : -2 ^ 63 ≤ now + ttl ∧ now + ttl < 2 ^ 63)
    (hlate : v ≤ now + ttl + t.leewaySecs) :
    t.decode j v (t.issueAccess j now u n ttl) = .ok ⟨toString u, n, now, now + ttl, .access⟩ := by
  have hlive : v - t.leewaySecs ≤ now + ttl := by omega
  have hback := hj.decode_encode t.secret t.leewaySecs v ⟨toString u, n, now, now + ttl, .access⟩
    (Number.Int64.fits_iff.mpr hnow) (Number.Int64.fits_iff.mpr hend) hlive
  simp only [decode, issueAccess, hback]
  rfl

end TokenService

/-- **An issued access token checks back.**  For every lawful codec, every token checker, user
id of the 64-bit range and username, an access token issued at `now` for `ttl` seconds, with
issue and expiry times of the 64-bit range, is accepted at any time `v` no later than `ttl`
plus the leeway after issue, with claims that name the user, carry the username and are of an
access token. -/
theorem access_token_checks_back (j : JwtCodec) (hj : j.Lawful) (t : TokenService)
    {now v u : Int} (n : String) {ttl : Int} (hu : -2 ^ 63 ≤ u ∧ u < 2 ^ 63)
    (hnow : -2 ^ 63 ≤ now ∧ now < 2 ^ 63) (hend : -2 ^ 63 ≤ now + ttl ∧ now + ttl < 2 ^ 63)
    (hlate : v ≤ now + ttl + t.leewaySecs) :
    ∃ c, t.validateAccess j v (t.issueAccess j now u n ttl) = .ok c ∧ c.userId = .ok u ∧
      c.username = n ∧ c.tokenType = .access := by
  refine ⟨⟨toString u, n, now, now + ttl, .access⟩, ?_, Claims.userId_eq rfl hu, rfl, rfl⟩
  simp only [TokenService.validateAccess, t.decode_issueAccess hj n hnow hend hlate]
  rfl

/-! ### A codec that keeps the laws

Claims written in the clear: each text as its characters, every one after a `+`, closed by a
`.`; the times as decimal texts; the secret is not used.  Reading the texts back off the front
of the token gives the claims again, so the codec keeps `JwtCodec.Lawful`, which asks nothing
about forged tokens. -/

namespace JwtCodec

/-- A text written as a field: each character after a `+`, then a `.`. -/
def field (cs : List Char) : List Char := cs.flatMap (fun ch => ['+', ch]) ++ ['.']

/-- Reads a field off the front of characters: its characters, and what follows it. -/
def readField : List Char → Option (List Char × List Char)
  | '.' :: rest => some ([], rest)
  | '+' :: ch :: rest => (readField rest).map fun (cs, r) => (ch :: cs, r)
  | _ => none

@[simp]
theorem readField_field (cs rest : List Char) : readField (field cs ++ rest) = some (cs, rest) := by
  induction cs with
  | nil => rfl
  | cons ch cs ih =>
    simp only [field, List.flatMap_cons, List.cons_append, List.nil_append, List.append_assoc] at ih ⊢
    simp [readField, ih]

@[simp]
theorem readField_field_nil (cs : List Char) : readField (field cs) = some (cs, []) := by
  simpa using readField_field cs []

/-- The token type a name stands for. -/
def tokenTypeOf? (s : String) : Option TokenType :=
  if s = TokenType.access.name then some .access
  else if s = TokenType.refresh.name then some .refresh
  else none

@[simp]
theorem tokenTypeOf?_name (k : TokenType) : tokenTypeOf? k.name = some k := by
  cases k <;> decide

/-- Reads claims written in the clear, refusing them as expired when their expiry lies before
now minus the leeway. -/
def readClear (leeway : Nat) (now : Int) (token : String) : Except TokenFault Claims := do
  let some (sub, r) := readField token.toList | throw .invalid
  let some (username, r) := readField r | throw .invalid
  let some (iat, r) := readField r | throw .invalid
  let some (exp, r) := readField r | throw .invalid
  let some (kind, _) := readField r | throw .invalid
  let .ok iat := Text.readInt64 (String.ofList iat) | throw .invalid
  let .ok exp := Text.readInt64 (String.ofList exp) | throw .invalid
  let some tokenType := tokenTypeOf? (String.ofList kind) | throw .invalid
  if exp < now - leeway then throw .expired
  pure ⟨String.ofList sub, String.ofList username, iat, exp, tokenType⟩

/-- The codec that writes claims in the clear. -/
def clear : JwtCodec where
  encode _ c := String.ofList (field c.sub.toList ++ field c.username.toList ++
    field (toString c.iat).toList ++ field (toString c.exp).toList ++ field c.tokenType.name.toList)
  decode _ := readClear

/-- Claims written in the clear read back. -/
theorem clear_lawful : clear.Lawful where
  decode_encode secret leeway now c hiat hexp hlive := by
    have hlive' : ¬ c.exp < now - leeway := by omega
    rw [Number.Int64.fits_iff] at hiat hexp
    simp only [clear, readClear, String.toList_ofList, List.append_assoc, readField_field,
      readField_field_nil, String.ofList_toList, Text.readInt64_toString hiat.1 hiat.2,
      Text.readInt64_toString hexp.1 hexp.2, tokenTypeOf?_name, hlive', if_false]
    rfl

end JwtCodec

/-- The least user id of the 64-bit range, checked back with the clear codec a minute of leeway
past its expiry. -/
theorem access_token_checks_back_least_id :
    JwtCodec.clear.Lawful ∧
      ∃ c, (⟨"secret", 60⟩ : TokenService).validateAccess JwtCodec.clear 1700003660
        ((⟨"secret", 60⟩ : TokenService).issueAccess JwtCodec.clear 1700000000 (-2 ^ 63) "alice"
          3600) = .ok c ∧ c.userId = .ok (-2 ^ 63) ∧ c.username = "alice" ∧
        c.tokenType = .access :=
  ⟨JwtCodec.clear_lawful, access_token_checks_back JwtCodec.clear JwtCodec.clear_lawful
    ⟨"secret", 60⟩ "alice" (by decide) (by decide) (by decide) (by decide)⟩

end PosixRegistry
