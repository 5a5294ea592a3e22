/-
Settings that the gateway can run with. The first fault in a fixed order is reported.
-/

import CachingGateway.Settings.Basic
import CachingGateway.Url.Basic

namespace CachingGateway

inductive SettingsFault where
  | serverPortZero
  | originMissing
  | originInvalid (url : String) (error : UrlError)
  | cacheSizeZero
  | rateNotPositive
  | burstZero
  | metricsPortZero
  deriving DecidableEq, Repr

def SettingsFault.message : SettingsFault → String
  | serverPortZero => "server port must be non-zero"
  | originMissing => "upstream URL is required"
  | originInvalid url error => "invalid upstream URL " ++ url ++ ": " ++ error.message
  | cacheSizeZero => "cache max size must be positive"
  | rateNotPositive => "rate limit requests per second must be positive"
  | burstZero => "rate limit burst must be at least 1"
  | metricsPortZero => "metrics port must be non-zero"

namespace Settings

def originFault? (url : String) : Option SettingsFault :=
  if url.isEmpty then some .originMissing
  else match Url.parse url with
    | .ok _ => none
    | .error error => some (.originInvalid url error)

def isPositiveRate (rate : Binary64) : Bool :=
  rate.isFinite && Binary64.less (.finite 0) rate

def fault? (settings : Settings) : Option SettingsFault :=
  if settings.server.portNumber = 0 then some .serverPortZero
  else match originFault? settings.origin.url with
    | some fault => some fault
    | none =>
      if settings.cache.enabled && settings.cache.maxSize = 0 then some .cacheSizeZero
      else if settings.rateLimit.enabled && !isPositiveRate settings.rateLimit.requestsPerSecond then
        some .rateNotPositive
      else if settings.rateLimit.enabled && settings.rateLimit.burst = 0 then some .burstZero
      else if settings.metrics.enabled && settings.metrics.portNumber = 0 then some .metricsPortZero
      else none

def validate (settings : Settings) : Except SettingsFault Unit :=
  match settings.fault? with
  | some fault => .error fault
  | none => .ok ()

end Settings

end CachingGateway
