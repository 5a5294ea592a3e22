/-
What the gateway holds between requests: its store, its limiter, its counts and its clocks. The
service behind it is a function from requests to replies.
-/

import CachingGateway.Cache.Key
import CachingGateway.Cache.Store
import CachingGateway.Gateway.Error
import CachingGateway.Metrics.Registry
import CachingGateway.RateLimit.ClientKey
import CachingGateway.RateLimit.Limiter
import CachingGateway.Settings.Basic

namespace CachingGateway

inductive OriginAnswer where
  | response (response : Response)
  | failure (error : GatewayError)
  | silence
  deriving DecidableEq, Repr

structure OriginReply where
  delay : Duration
  answer : OriginAnswer
  deriving DecidableEq, Repr

abbrev Origin := Request → OriginReply

/-- The wall clock and the monotonic clock, which move together. -/
structure Clock where
  wall : WallClock
  monotonic : Instant
  deriving DecidableEq, Repr

def Clock.advance (clock : Clock) (length : Duration) : Clock :=
  ⟨clock.wall.advance length, clock.monotonic.advance length⟩

structure CacheLayer where
  store : Store String
  defaultLifetime : Duration
  varyHeaders : List String

def CacheLayer.ofSettings (settings : CacheSettings) : CacheLayer :=
  ⟨Store.empty (UInt64.ofNat settings.maxSize), settings.lifetime, settings.varyHeaders⟩

structure Admission where
  limiter : Limiter Binary64
  rule : KeyRule

def Admission.ofSettings (settings : RateLimitSettings) : Admission :=
  ⟨Limiter.start ⟨settings.requestsPerSecond, settings.burst⟩,
    settings.keyStrategy.rule settings.credentialHeader⟩

structure Gateway where
  cache : Option CacheLayer
  admission : Option Admission
  reports : Bool
  metrics : Metrics
  clock : Clock

namespace Gateway

def ofSettings (settings : Settings) (clock : Clock) : Gateway :=
  { cache := if settings.cache.enabled then some (.ofSettings settings.cache) else none
    admission := if settings.rateLimit.enabled then some (.ofSettings settings.rateLimit) else none
    reports := settings.metrics.enabled
    metrics := Metrics.empty
    clock := clock }

def record (gateway : Gateway) (change : Metrics → Metrics) : Gateway :=
  if gateway.reports then { gateway with metrics := change gateway.metrics } else gateway

def advance (gateway : Gateway) (length : Duration) : Gateway :=
  { gateway with clock := gateway.clock.advance length }

def reclaim (gateway : Gateway) (idle : Duration) : Gateway :=
  { gateway with
    admission := gateway.admission.map fun admission =>
      { admission with limiter := admission.limiter.reclaim gateway.clock.monotonic idle } }

end Gateway

/-- What has become of a request: an answer, none yet, or a failure of the gateway itself. -/
inductive Outcome where
  | answered (response : Response)
  | pending
  | broken
  deriving DecidableEq, Repr

/-- A request carried through the gateway: the state after it, its outcome, and the request as the
service behind the gateway saw it, if it was asked. -/
structure Exchange where
  gateway : Gateway
  outcome : Outcome
  asked : Option Request

end CachingGateway
