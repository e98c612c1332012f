/-!
# Instants

What the program reads from the clocks: wall-clock seconds since the Unix epoch, for token
times, and a monotonic count of nanoseconds, for the rate limiter.
-/

namespace PosixRegistry

/-- A reading of both clocks. -/
structure Instant where
  unixSecs : Int
  monoNanos : Nat
  deriving DecidableEq, Repr, Inhabited

end PosixRegistry
