import PosixRegistry.Http.Message
import PosixRegistry.Number.Word
/-!
# The rate limiter

One limiter guards every API endpoint, whoever calls. It follows the generic cell rate
algorithm: one request is allowed every `T` nanoseconds on average, and up to `burst`
requests at once. The limiter keeps a theoretical arrival time `tat`, which starts one
interval after the first request. A request at time `t` is allowed when `t` is not before
`tat - burst·T`; then `tat` moves to `max(tat, t) + T`. A refused request changes nothing and
is told how many whole seconds remain until `tat - burst·T`.

The configured rate counts seconds per request: `requests_per_second = n` means one request
every `n` seconds. A rate or burst of zero turns the limiter off.

Times are nanoseconds since the limiter was made, held in 64-bit words: `burst·T` keeps its low
64 bits and the sums that move `tat` wrap around, so a rate near the top of its range lets
`tat` fall back to a small time instead of growing past the word.
-/

namespace PosixRegistry.Http

open PosixRegistry.Number

/-- The settings of the limiter: nanoseconds per request, and the burst. -/
structure Quota where
  interval : Nat
  burst : Nat
  deriving DecidableEq, Repr

/-- The quota of a configuration, or none when the limiter is off. -/
def Quota.ofConfig (requestsPerSecond burst : Nat) : Option Quota :=
  if requestsPerSecond = 0 ∨ burst = 0 then none
  else some ⟨requestsPerSecond * 1000000000, burst⟩

/-- The state of the limiter: its quota, when it was made, and the theoretical arrival time
once a request has been allowed. -/
structure Limiter where
  quota : Quota
  start : Nat
  tat : Option Nat := none
  deriving DecidableEq, Repr

namespace Limiter

/-- Checks a request at a time (nanoseconds on the monotonic clock): allowed with the new
state, or refused with the whole seconds to wait. -/
def check (l : Limiter) (now : Nat) : Except Nat Limiter :=
  let t := now - l.start
  let tau := Word.mul l.quota.interval l.quota.burst
  let tat := l.tat.getD (Word.add t l.quota.interval)
  let earliest := tat - tau
  if t < earliest then .error ((earliest - t) / 1000000000)
  else .ok { l with tat := some (Word.add (max tat t) l.quota.interval) }

end Limiter

/-- The response to a refused request. -/
def tooManyRequests (waitSecs : Nat) : Response :=
  ⟨429, [], .text s!"Too Many Requests! Wait for {waitSecs}s"⟩

end PosixRegistry.Http
