/-!
# Binary64 numbers: reading a decimal and writing the shortest one

A finite double is a sign, a significand `mant < 2^53` and a binary exponent `exp ≥ -1074`,
standing for `± mant · 2^exp`. Reading a decimal `d · 10^e` rounds it to the nearest double,
a tie going to the even significand; a decimal too large for any finite double is refused.

Writing goes the other way: the shortest decimal that reads back to the same double. The
doubles that read back to `mant · 2^exp` form an interval around it, halfway to each
neighbour, with its ends included when `mant` is even. For one digit, then two, up to
seventeen, the two points of the decimal grid on either side of the value are tested against
that interval; the first grid with a point inside wins, and of two points the nearer one.

All arithmetic is exact, on natural numbers.
-/

namespace PosixRegistry.Number

/-- A finite double `± mant · 2^exp`. -/
structure Binary64 where
  /-- Whether the sign is negative (also for zero). -/
  neg : Bool
  /-- The significand, below `2^53`. -/
  mant : Nat
  /-- The binary exponent, at least `-1074`. -/
  exp : Int
  deriving DecidableEq

/-- The nearest natural number to `num / den`, a tie going to the even one. -/
def roundHalfEven (num den : Nat) : Nat :=
  let q := num / den
  let r := num % den
  if 2 * r < den then q
  else if den < 2 * r then q + 1
  else if q % 2 = 0 then q else q + 1

/-- `⌊log₂ (num / den)⌋` for positive `num` and `den`. -/
def floorLog2 (num den : Nat) : Int :=
  let a : Int := (num.log2 : Int) - (den.log2 : Int)
  let atLeast : Bool :=
    if 0 ≤ a then den * Nat.pow 2 a.toNat ≤ num else den ≤ num * Nat.pow 2 (-a).toNat
  if atLeast then a else a - 1

/-- The double nearest to `± num / den · 2^shift`, a tie going to the even significand, or
`none` when it lies beyond the largest double. -/
def Binary64.round (neg : Bool) (num den : Nat) (shift : Int) : Option Binary64 :=
  if num = 0 ∨ den = 0 then some ⟨neg, 0, 0⟩ else
  let q : Int := max (floorLog2 num den + shift - 52) (-1074)
  let s := shift - q
  let m := roundHalfEven (num * Nat.pow 2 s.toNat) (den * Nat.pow 2 (-s).toNat)
  let (m, q) := if m = Nat.pow 2 53 then (Nat.pow 2 52, q + 1) else (m, q)
  if 971 < q then none else some ⟨neg, m, q⟩

/-- The double nearest to a natural number. -/
def Binary64.ofNat (neg : Bool) (n : Nat) : Binary64 :=
  (Binary64.round neg n 1 0).getD ⟨neg, 0, 0⟩

/-- Whether the double is zero, of either sign. -/
def Binary64.isZero (x : Binary64) : Bool := x.mant == 0

/-- The double with the other sign. -/
def Binary64.negate (x : Binary64) : Binary64 := { x with neg := !x.neg }

/-- The product of two doubles, rounded; `none` when it overflows. -/
def Binary64.mul (x y : Binary64) : Option Binary64 :=
  Binary64.round (x.neg != y.neg) (x.mant * y.mant) 1 (x.exp + y.exp)

/-- The quotient of two doubles, rounded; the divisor is not zero. -/
def Binary64.div (x y : Binary64) : Option Binary64 :=
  Binary64.round (x.neg != y.neg) x.mant y.mant (x.exp - y.exp)

/-- The number of decimal digits of a positive natural number. -/
def decimalLength (n : Nat) : Nat :=
  (toString n).length

/-- The point of the grid `c · 10^k` nearest the value among the two around it that lie in the
interval of the double, if any: `v4`, `lo4`, `hi4` are the value and the interval's ends in
units of `2^a`, and `inclusive` says whether the ends belong to it. -/
def gridHit (v4 lo4 hi4 : Nat) (a k : Int) (inclusive : Bool) : Option Nat :=
  let p := Nat.pow 10 k.toNat * Nat.pow 2 (-a).toNat
  let q := Nat.pow 2 a.toNat * Nat.pow 10 (-k).toNat
  let inside (c : Nat) : Bool :=
    if inclusive then lo4 * q ≤ c * p ∧ c * p ≤ hi4 * q
    else lo4 * q < c * p ∧ c * p < hi4 * q
  let below := v4 * q / p
  let above := below + 1
  match inside below, inside above with
  | true, true =>
    let dBelow := v4 * q - below * p
    let dAbove := above * p - v4 * q
    if dBelow < dAbove then some below
    else if dAbove < dBelow then some above
    else if below % 2 = 0 then some below else some above
  | true, false => some below
  | false, true => some above
  | false, false => none

/-- Removes trailing zero digits from `c · 10^k`. -/
def stripZeros (c : Nat) (k : Int) (fuel : Nat) : Nat × Int :=
  match fuel with
  | 0 => (c, k)
  | fuel + 1 => if c ≠ 0 ∧ c % 10 = 0 then stripZeros (c / 10) (k + 1) fuel else (c, k)

/-- The shortest decimal `c · 10^k` that reads back to this double's magnitude, with no
trailing zero in `c`; zero is `(0, 0)`. -/
def Binary64.shortest (x : Binary64) : Nat × Int :=
  if x.mant = 0 then (0, 0) else
  let m := x.mant
  let a := x.exp - 2
  let v4 := 4 * m
  let lo4 := if m = Nat.pow 2 52 ∧ -1074 < x.exp then 4 * m - 1 else 4 * m - 2
  let hi4 := 4 * m + 2
  -- the decimal exponent of the leading digit
  let top : Int :=
    if 0 ≤ a then (decimalLength (v4 * Nat.pow 2 a.toNat) : Int) - 1
    else (decimalLength (v4 * Nat.pow 5 (-a).toNat) : Int) - 1 + a
  let inclusive := m % 2 = 0
  let found := (List.range 17).findSome? fun n =>
    let k := top - Int.ofNat n
    (gridHit v4 lo4 hi4 a k inclusive).map fun c => (c, k)
  match found with
  | some (c, k) => stripZeros c k (decimalLength c)
  | none =>
    let k := top - 16
    let p := Nat.pow 10 k.toNat * Nat.pow 2 (-a).toNat
    let q := Nat.pow 2 a.toNat * Nat.pow 10 (-k).toNat
    stripZeros (roundHalfEven (v4 * q) p) k 17

/-- `n` zero digits. -/
def zeros (n : Nat) : String :=
  String.ofList (List.replicate n '0')

/-- The digits of `c · 10^k` written out without an exponent. -/
def positional (c : Nat) (k : Int) : String :=
  let ds := toString c
  let p : Int := ds.length + k
  if 0 ≤ k then ds ++ zeros k.toNat
  else if 0 < p then
    String.ofList (ds.toList.take p.toNat) ++ "." ++ String.ofList (ds.toList.drop p.toNat)
  else "0." ++ zeros (-p).toNat ++ ds

/-- The shortest text of a double, positional while its point stands within sixteen digits of
the first one (and no more than five places after the point), otherwise as a mantissa and a
signed power of ten: `1000.0`, `1e+21`, `1.5e-7`, `-0.0`. -/
def Binary64.text (x : Binary64) : String :=
  let (c, k) := x.shortest
  let ds := toString c
  let len : Int := ds.length
  let point := len + k
  let sign := if x.neg then "-" else ""
  let body :=
    if 0 ≤ k ∧ point ≤ 16 then ds ++ zeros k.toNat ++ ".0"
    else if 0 < point ∧ point ≤ 16 then positional c k
    else if -5 < point ∧ point ≤ 0 then positional c k
    else
      let e := if point - 1 < 0 then toString (point - 1) else "+" ++ toString (point - 1)
      if ds.length = 1 then ds ++ "e" ++ e
      else String.ofList (ds.toList.take 1) ++ "." ++ String.ofList (ds.toList.drop 1) ++ "e" ++ e
  sign ++ body

end PosixRegistry.Number
