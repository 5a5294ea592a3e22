/-
Readings of a clock that never goes back. Only their differences mean anything.
-/

import CachingGateway.Time.Duration

namespace CachingGateway

/-- A reading of the monotonic clock, in nanoseconds. -/
structure Instant where
  nanoseconds : Nat
  deriving DecidableEq, Repr, Inhabited

namespace Instant

def start : Instant := ⟨0⟩

def advance (instant : Instant) (length : Duration) : Instant :=
  ⟨instant.nanoseconds + length.nanoseconds⟩

def elapsedSince (instant earlier : Instant) : Duration :=
  ⟨instant.nanoseconds - earlier.nanoseconds⟩

end Instant

end CachingGateway
