/-
Lengths of time in whole nanoseconds. Seconds of a length that fits the wire formats stay below
two to the sixty-four.
-/

import CachingGateway.Number.Binary64
import CachingGateway.Number.Word

namespace CachingGateway

structure Duration where
  nanoseconds : Nat
  deriving DecidableEq, Repr, Inhabited

namespace Duration

def zero : Duration := ⟨0⟩

def nanosecondsPerSecond : Nat := 1000000000

def ofParts (seconds nanoseconds : Nat) : Duration :=
  ⟨seconds * nanosecondsPerSecond + nanoseconds⟩

def ofSeconds (seconds : Nat) : Duration :=
  ofParts seconds 0

def seconds (duration : Duration) : Nat :=
  duration.nanoseconds / nanosecondsPerSecond

def subsecond (duration : Duration) : Nat :=
  duration.nanoseconds % nanosecondsPerSecond

def milliseconds (duration : Duration) : Nat :=
  duration.nanoseconds / 1000000

/-- The least length in nanoseconds whose seconds no longer fit in sixty-four bits. -/
def bound : Nat := (Word.greatest64 + 1) * nanosecondsPerSecond

/-- Seconds as a double: whole seconds and fraction are each rounded, then added. -/
def toBinary64 (duration : Duration) : Binary64 :=
  Binary64.ofNat duration.seconds +
    Binary64.ofNat duration.subsecond / Binary64.ofNat nanosecondsPerSecond

def toRat (duration : Duration) : Rat :=
  mkRat duration.nanoseconds nanosecondsPerSecond

/-- The length nearest to a number of seconds, a half nanosecond going to the even neighbour.
Negative and oversized numbers have none. -/
def ofRat? (seconds : Rat) : Option Duration :=
  if seconds < 0 then none
  else
    let nanoseconds := (nearestEven (seconds * (nanosecondsPerSecond : Rat))).toNat
    if nanoseconds < bound then some ⟨nanoseconds⟩ else none

def ofBinary64? (seconds : Binary64) : Option Duration :=
  seconds.toRat?.bind ofRat?

end Duration

end CachingGateway
