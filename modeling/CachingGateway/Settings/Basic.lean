/-
The settings of the gateway and their defaults.
-/

import CachingGateway.Number.Binary64
import CachingGateway.RateLimit.ClientKey
import CachingGateway.Settings.LogFormat
import CachingGateway.Time.Duration

namespace CachingGateway

/-- Where the gateway listens, and how long it drains when it stops, in seconds. -/
structure ServerSettings where
  address : String
  portNumber : Nat
  shutdownTimeout : Nat
  deriving DecidableEq, Repr

/-- The service behind the gateway, the seconds it may take, and the request headers kept from it.
-/
structure OriginSettings where
  url : String
  timeout : Nat
  forbiddenHeaders : List String
  deriving DecidableEq, Repr

/-- The store of responses: its size in bytes, the default lifetime in seconds, and the request
headers that tell responses apart. -/
structure CacheSettings where
  enabled : Bool
  maxSize : Nat
  defaultLifetime : Nat
  varyHeaders : List String
  deriving DecidableEq, Repr

structure RateLimitSettings where
  enabled : Bool
  requestsPerSecond : Binary64
  burst : Nat
  keyStrategy : KeyStrategy
  credentialHeader : String
  deriving DecidableEq, Repr

structure LoggingSettings where
  level : String
  format : LogFormat
  deriving DecidableEq, Repr

structure MetricsSettings where
  enabled : Bool
  portNumber : Nat
  path : String
  deriving DecidableEq, Repr

structure Settings where
  server : ServerSettings
  origin : OriginSettings
  cache : CacheSettings
  rateLimit : RateLimitSettings
  logging : LoggingSettings
  metrics : MetricsSettings
  deriving DecidableEq, Repr

def ServerSettings.default : ServerSettings :=
  ⟨"0.0.0.0", 8080, 30⟩

def OriginSettings.default : OriginSettings :=
  ⟨"http://localhost:8081", 30, ["Authorization", "Cookie", "Set-Cookie"]⟩

def CacheSettings.default : CacheSettings :=
  ⟨true, 104857600, 300, []⟩

def RateLimitSettings.default : RateLimitSettings :=
  ⟨true, .finite 100, 200, .ip, "X-API-Key"⟩

def LoggingSettings.default : LoggingSettings :=
  ⟨"info", .json⟩

def MetricsSettings.default : MetricsSettings :=
  ⟨true, 9090, "/metrics"⟩

def Settings.default : Settings :=
  ⟨.default, .default, .default, .default, .default, .default⟩

def CacheSettings.lifetime (settings : CacheSettings) : Duration :=
  Duration.ofSeconds settings.defaultLifetime

end CachingGateway
