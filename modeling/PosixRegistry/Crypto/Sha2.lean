/-!
# SHA-2 hashes

SHA-256, SHA-384 and SHA-512 over byte lists. A message is padded with a one bit, zeros and
its bit length to a whole number of blocks (64 bytes for SHA-256, 128 for the others); each
block is compressed into an eight-word state in turn; the digest is the final state written
big-endian, SHA-384 keeping the first six words.
-/

namespace PosixRegistry.Crypto

/-- A byte string. -/
abbrev Bytes := List UInt8

/-- The bytes of a natural number in big-endian order, as many as asked. -/
def bigEndian (width n : Nat) : Bytes :=
  (List.range width).reverse.map fun i => UInt8.ofNat (n / Nat.pow 2 (8 * i) % 256)

/-- A big-endian number from bytes. -/
def ofBigEndian (bs : Bytes) : Nat := bs.foldl (fun acc b => acc * 256 + b.toNat) 0

/-- The padded message: a one bit, zeros, and the bit length in `lenBytes` bytes, so that the
whole is a multiple of `block` bytes. -/
def pad (block lenBytes : Nat) (m : Bytes) : Bytes :=
  let used := (m.length + 1 + lenBytes) % block
  let zeros := if used = 0 then 0 else block - used
  m ++ [0x80] ++ List.replicate zeros 0 ++ bigEndian lenBytes (8 * m.length)

/-- Applies a block step to each whole block of the input in turn. -/
def eachBlock {σ : Type} (block : Nat) (step : σ → Bytes → σ) : Nat → Bytes → σ → σ
  | 0, _, s => s
  | n + 1, input, s => eachBlock block step n (input.drop block) (step s (input.take block))

/-! ### SHA-256 -/

/-- The SHA-256 round constants. -/
def roundConstants256 : Array UInt32 :=
  #[0x428a2f98, 0x71374491, 0xb5c0fbcf, 0xe9b5dba5, 0x3956c25b, 0x59f111f1,
  0x923f82a4, 0xab1c5ed5, 0xd807aa98, 0x12835b01, 0x243185be, 0x550c7dc3,
  0x72be5d74, 0x80deb1fe, 0x9bdc06a7, 0xc19bf174, 0xe49b69c1, 0xefbe4786,
  0x0fc19dc6, 0x240ca1cc, 0x2de92c6f, 0x4a7484aa, 0x5cb0a9dc, 0x76f988da,
  0x983e5152, 0xa831c66d, 0xb00327c8, 0xbf597fc7, 0xc6e00bf3, 0xd5a79147,
  0x06ca6351, 0x14292967, 0x27b70a85, 0x2e1b2138, 0x4d2c6dfc, 0x53380d13,
  0x650a7354, 0x766a0abb, 0x81c2c92e, 0x92722c85, 0xa2bfe8a1, 0xa81a664b,
  0xc24b8b70, 0xc76c51a3, 0xd192e819, 0xd6990624, 0xf40e3585, 0x106aa070,
  0x19a4c116, 0x1e376c08, 0x2748774c, 0x34b0bcb5, 0x391c0cb3, 0x4ed8aa4a,
  0x5b9cca4f, 0x682e6ff3, 0x748f82ee, 0x78a5636f, 0x84c87814, 0x8cc70208,
  0x90befffa, 0xa4506ceb, 0xbef9a3f7, 0xc67178f2]

/-- The SHA-256 initial state. -/
def initial256 : Array UInt32 :=
  #[0x6a09e667, 0xbb67ae85, 0x3c6ef372, 0xa54ff53a, 0x510e527f, 0x9b05688c,
  0x1f83d9ab, 0x5be0cd19]

/-- Rotation right of a 32-bit word. -/
def rotr32 (x : UInt32) (n : UInt32) : UInt32 := (x >>> n) ||| (x <<< (32 - n))

/-- The 64-word message schedule of a block. -/
def schedule256 (block : Bytes) : Array UInt32 :=
  let first : Array UInt32 := ((List.range 16).map fun i =>
    UInt32.ofNat (ofBigEndian ((block.drop (4 * i)).take 4))).toArray
  (List.range 48).foldl (fun (w : Array UInt32) i =>
    let t := i + 16
    let w15 := w.getD (t - 15) 0
    let w2 := w.getD (t - 2) 0
    let s0 := rotr32 w15 7 ^^^ rotr32 w15 18 ^^^ (w15 >>> 3)
    let s1 := rotr32 w2 17 ^^^ rotr32 w2 19 ^^^ (w2 >>> 10)
    w.push (w.getD (t - 16) 0 + s0 + w.getD (t - 7) 0 + s1)) first

/-- Compresses one 64-byte block into the state. -/
def compress256 (h : Array UInt32) (block : Bytes) : Array UInt32 :=
  let w := schedule256 block
  let g (i : Nat) : UInt32 := h.getD i 0
  let init := (g 0, g 1, g 2, g 3, g 4, g 5, g 6, g 7)
  let (a, b, c, d, e, f, gg, hh) := (List.range 64).foldl (fun st i =>
    let (a, b, c, d, e, f, gg, hh) := st
    let s1 := rotr32 e 6 ^^^ rotr32 e 11 ^^^ rotr32 e 25
    let ch := (e &&& f) ^^^ ((~~~ e) &&& gg)
    let t1 := hh + s1 + ch + roundConstants256.getD i 0 + w.getD i 0
    let s0 := rotr32 a 2 ^^^ rotr32 a 13 ^^^ rotr32 a 22
    let maj := (a &&& b) ^^^ (a &&& c) ^^^ (b &&& c)
    let t2 := s0 + maj
    (t1 + t2, a, b, c, d + t1, e, f, gg)) init
  #[g 0 + a, g 1 + b, g 2 + c, g 3 + d, g 4 + e, g 5 + f, g 6 + gg, g 7 + hh]

/-- The SHA-256 digest of a message. -/
def sha256 (m : Bytes) : Bytes :=
  let padded := pad 64 8 m
  let h := eachBlock 64 compress256 (padded.length / 64) padded initial256
  h.toList.flatMap fun x => bigEndian 4 x.toNat

/-! ### SHA-512 and SHA-384 -/

/-- The SHA-512 round constants. -/
def roundConstants512 : Array UInt64 :=
  #[0x428a2f98d728ae22, 0x7137449123ef65cd, 0xb5c0fbcfec4d3b2f, 0xe9b5dba58189dbbc,
  0x3956c25bf348b538, 0x59f111f1b605d019, 0x923f82a4af194f9b, 0xab1c5ed5da6d8118,
  0xd807aa98a3030242, 0x12835b0145706fbe, 0x243185be4ee4b28c, 0x550c7dc3d5ffb4e2,
  0x72be5d74f27b896f, 0x80deb1fe3b1696b1, 0x9bdc06a725c71235, 0xc19bf174cf692694,
  0xe49b69c19ef14ad2, 0xefbe4786384f25e3, 0x0fc19dc68b8cd5b5, 0x240ca1cc77ac9c65,
  0x2de92c6f592b0275, 0x4a7484aa6ea6e483, 0x5cb0a9dcbd41fbd4, 0x76f988da831153b5,
  0x983e5152ee66dfab, 0xa831c66d2db43210, 0xb00327c898fb213f, 0xbf597fc7beef0ee4,
  0xc6e00bf33da88fc2, 0xd5a79147930aa725, 0x06ca6351e003826f, 0x142929670a0e6e70,
  0x27b70a8546d22ffc, 0x2e1b21385c26c926, 0x4d2c6dfc5ac42aed, 0x53380d139d95b3df,
  0x650a73548baf63de, 0x766a0abb3c77b2a8, 0x81c2c92e47edaee6, 0x92722c851482353b,
  0xa2bfe8a14cf10364, 0xa81a664bbc423001, 0xc24b8b70d0f89791, 0xc76c51a30654be30,
  0xd192e819d6ef5218, 0xd69906245565a910, 0xf40e35855771202a, 0x106aa07032bbd1b8,
  0x19a4c116b8d2d0c8, 0x1e376c085141ab53, 0x2748774cdf8eeb99, 0x34b0bcb5e19b48a8,
  0x391c0cb3c5c95a63, 0x4ed8aa4ae3418acb, 0x5b9cca4f7763e373, 0x682e6ff3d6b2b8a3,
  0x748f82ee5defb2fc, 0x78a5636f43172f60, 0x84c87814a1f0ab72, 0x8cc702081a6439ec,
  0x90befffa23631e28, 0xa4506cebde82bde9, 0xbef9a3f7b2c67915, 0xc67178f2e372532b,
  0xca273eceea26619c, 0xd186b8c721c0c207, 0xeada7dd6cde0eb1e, 0xf57d4f7fee6ed178,
  0x06f067aa72176fba, 0x0a637dc5a2c898a6, 0x113f9804bef90dae, 0x1b710b35131c471b,
  0x28db77f523047d84, 0x32caab7b40c72493, 0x3c9ebe0a15c9bebc, 0x431d67c49c100d4c,
  0x4cc5d4becb3e42b6, 0x597f299cfc657e2a, 0x5fcb6fab3ad6faec, 0x6c44198c4a475817]

/-- The SHA-512 initial state. -/
def initial512 : Array UInt64 :=
  #[0x6a09e667f3bcc908, 0xbb67ae8584caa73b, 0x3c6ef372fe94f82b, 0xa54ff53a5f1d36f1,
  0x510e527fade682d1, 0x9b05688c2b3e6c1f, 0x1f83d9abfb41bd6b, 0x5be0cd19137e2179]

/-- The SHA-384 initial state. -/
def initial384 : Array UInt64 :=
  #[0xcbbb9d5dc1059ed8, 0x629a292a367cd507, 0x9159015a3070dd17, 0x152fecd8f70e5939,
  0x67332667ffc00b31, 0x8eb44a8768581511, 0xdb0c2e0d64f98fa7, 0x47b5481dbefa4fa4]

/-- Rotation right of a 64-bit word. -/
def rotr64 (x : UInt64) (n : UInt64) : UInt64 := (x >>> n) ||| (x <<< (64 - n))

/-- The 80-word message schedule of a block. -/
def schedule512 (block : Bytes) : Array UInt64 :=
  let first : Array UInt64 := ((List.range 16).map fun i =>
    UInt64.ofNat (ofBigEndian ((block.drop (8 * i)).take 8))).toArray
  (List.range 64).foldl (fun (w : Array UInt64) i =>
    let t := i + 16
    let w15 := w.getD (t - 15) 0
    let w2 := w.getD (t - 2) 0
    let s0 := rotr64 w15 1 ^^^ rotr64 w15 8 ^^^ (w15 >>> 7)
    let s1 := rotr64 w2 19 ^^^ rotr64 w2 61 ^^^ (w2 >>> 6)
    w.push (w.getD (t - 16) 0 + s0 + w.getD (t - 7) 0 + s1)) first

/-- Compresses one 128-byte block into the state. -/
def compress512 (h : Array UInt64) (block : Bytes) : Array UInt64 :=
  let w := schedule512 block
  let g (i : Nat) : UInt64 := h.getD i 0
  let init := (g 0, g 1, g 2, g 3, g 4, g 5, g 6, g 7)
  let (a, b, c, d, e, f, gg, hh) := (List.range 80).foldl (fun st i =>
    let (a, b, c, d, e, f, gg, hh) := st
    let s1 := rotr64 e 14 ^^^ rotr64 e 18 ^^^ rotr64 e 41
    let ch := (e &&& f) ^^^ ((~~~ e) &&& gg)
    let t1 := hh + s1 + ch + roundConstants512.getD i 0 + w.getD i 0
    let s0 := rotr64 a 28 ^^^ rotr64 a 34 ^^^ rotr64 a 39
    let maj := (a &&& b) ^^^ (a &&& c) ^^^ (b &&& c)
    let t2 := s0 + maj
    (t1 + t2, a, b, c, d + t1, e, f, gg)) init
  #[g 0 + a, g 1 + b, g 2 + c, g 3 + d, g 4 + e, g 5 + f, g 6 + gg, g 7 + hh]

/-- The final SHA-512 family state of a message from an initial state. -/
def state512 (iv : Array UInt64) (m : Bytes) : Array UInt64 :=
  let padded := pad 128 16 m
  eachBlock 128 compress512 (padded.length / 128) padded iv

/-- The SHA-512 digest of a message. -/
def sha512 (m : Bytes) : Bytes := (state512 initial512 m).toList.flatMap fun x => bigEndian 8 x.toNat

/-- The SHA-384 digest of a message: the first six words of its state. -/
def sha384 (m : Bytes) : Bytes :=
  ((state512 initial384 m).toList.take 6).flatMap fun x => bigEndian 8 x.toNat

end PosixRegistry.Crypto
