import PosixRegistry.Crypto.Sha2
/-!
# HMAC

The keyed hash of a message under a hash with a block size: a key longer than a block is hashed
first; the key, padded with zeros to a block, is mixed with the inner and outer pads.
-/

namespace PosixRegistry.Crypto

/-- A hash with its block size in bytes. -/
structure HashFn where
  digest : Bytes → Bytes
  block : Nat

/-- SHA-256 with its 64-byte block. -/
def HashFn.sha256 : HashFn := ⟨Crypto.sha256, 64⟩

/-- SHA-384 with its 128-byte block. -/
def HashFn.sha384 : HashFn := ⟨Crypto.sha384, 128⟩

/-- SHA-512 with its 128-byte block. -/
def HashFn.sha512 : HashFn := ⟨Crypto.sha512, 128⟩

/-- The keyed hash of a message. -/
def hmac (h : HashFn) (key msg : Bytes) : Bytes :=
  let k := if h.block < key.length then h.digest key else key
  let k := k ++ List.replicate (h.block - k.length) 0
  let inner := h.digest (k.map (· ^^^ 0x36) ++ msg)
  h.digest (k.map (· ^^^ 0x5c) ++ inner)

end PosixRegistry.Crypto
