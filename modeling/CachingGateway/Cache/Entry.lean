/-
Stored responses. An entry counts its body and all names and values of its headers, and expires at a
millisecond of the wall clock.
-/

import CachingGateway.Http.Message
import CachingGateway.Number.Word
import CachingGateway.Time.Duration

namespace CachingGateway

/-- The wall clock in nanoseconds since the start of 1970, negative before it. -/
structure WallClock where
  nanoseconds : Int
  deriving DecidableEq, Repr, Inhabited

namespace WallClock

def greatestMillisecond : Nat := Word.greatest64

/-- Whole milliseconds since the start of 1970, zero before it. Past the greatest count they start
again from zero. -/
def milliseconds (clock : WallClock) : Nat :=
  clock.nanoseconds.toNat / 1000000 % (greatestMillisecond + 1)

def advance (clock : WallClock) (length : Duration) : WallClock :=
  ⟨clock.nanoseconds + length.nanoseconds⟩

end WallClock

/-- A stored response. Times are milliseconds of the wall clock. -/
structure Entry where
  status : Status
  headers : Headers
  body : Octets
  etag : String
  createdAt : Nat
  expiresAt : Nat
  size : UInt64
  deriving DecidableEq, Repr

namespace Entry

def sizeOf (headers : Headers) (body : Octets) : UInt64 :=
  UInt64.ofNat body.length + UInt64.ofNat headers.size

def expiry (now : WallClock) (lifetime : Duration) : Nat :=
  min WallClock.greatestMillisecond
    (now.milliseconds + min WallClock.greatestMillisecond lifetime.milliseconds)

def create (now : WallClock) (response : Response) (etag : String) (lifetime : Duration) : Entry :=
  { status := response.status
    headers := response.headers
    body := response.body
    etag := etag
    createdAt := now.milliseconds
    expiresAt := expiry now lifetime
    size := sizeOf response.headers response.body }

def isExpired (entry : Entry) (now : WallClock) : Bool :=
  entry.expiresAt ≤ now.milliseconds

end Entry

end CachingGateway
