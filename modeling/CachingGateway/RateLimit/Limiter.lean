/-
Token buckets by key. A bucket is refilled when it is asked, never in between; a key without a
bucket counts as full. Admission takes one token, a forecast takes none.
-/

import CachingGateway.Data.Table
import CachingGateway.RateLimit.TokenNumber
import CachingGateway.Time.Instant

namespace CachingGateway

structure Bucket (number : Type) where
  tokens : number
  lastRefill : Instant
  deriving DecidableEq, Repr

/-- Tokens gained each second, and the most that a bucket holds. -/
structure RateLimit (number : Type) where
  rate : number
  burst : Nat
  deriving DecidableEq, Repr

section

variable {number : Type} [TokenNumber number]

def RateLimit.capacity (limit : RateLimit number) : number :=
  TokenNumber.ofNat limit.burst

namespace Bucket

def full (limit : RateLimit number) (now : Instant) : Bucket number :=
  ⟨limit.capacity, now⟩

/-- The tokens at a time, the bucket left as it is. -/
def projected (bucket : Bucket number) (limit : RateLimit number) (now : Instant) : number :=
  TokenNumber.minimum
    (bucket.tokens + TokenNumber.ofDuration (now.elapsedSince bucket.lastRefill) * limit.rate)
    limit.capacity

def isIdle (bucket : Bucket number) (now : Instant) (idle : Duration) : Bool :=
  idle.nanoseconds < (now.elapsedSince bucket.lastRefill).nanoseconds

end Bucket

end

structure Limiter (number : Type) where
  limit : RateLimit number
  buckets : Table String (Bucket number)

namespace Limiter

variable {number : Type} [TokenNumber number]

def start (limit : RateLimit number) : Limiter number :=
  ⟨limit, Table.empty⟩

def count (limiter : Limiter number) : Nat :=
  limiter.buckets.size

/-- The bucket of a key, a full one if it has none. -/
def bucket (limiter : Limiter number) (now : Instant) (key : String) : Bucket number :=
  (limiter.buckets.find? key).getD (Bucket.full limiter.limit now)

def hasToken (tokens : number) : Bool :=
  TokenNumber.atMost (TokenNumber.ofNat 1 : number) tokens

def allow (limiter : Limiter number) (now : Instant) (key : String) : Bool × Limiter number :=
  let tokens := (limiter.bucket now key).projected limiter.limit now
  let admitted := hasToken tokens
  let left := if admitted then tokens - TokenNumber.ofNat 1 else tokens
  (admitted, { limiter with buckets := limiter.buckets.insert key ⟨left, now⟩ })

/-- The time until a key has a whole token. There is none when the seconds to wait are no length of
time. -/
def wait? (limiter : Limiter number) (now : Instant) (key : String) : Option Duration :=
  match limiter.buckets.find? key with
  | none => some Duration.zero
  | some bucket =>
    let tokens := bucket.projected limiter.limit now
    if hasToken tokens then some Duration.zero
    else TokenNumber.toDuration? ((TokenNumber.ofNat 1 - tokens) / limiter.limit.rate)

def reclaim (limiter : Limiter number) (now : Instant) (idle : Duration) : Limiter number :=
  { limiter with buckets := limiter.buckets.filterValues fun bucket => !bucket.isIdle now idle }

end Limiter

end CachingGateway
