/-
Settings from environment variables. An empty variable counts as unset. Numbers and choices are read
without the blanks around them and a malformed one changes nothing; a switch is on for two texts and
off for any other.
-/

import CachingGateway.Number.Decimal
import CachingGateway.Number.Word
import CachingGateway.Settings.Basic

namespace CachingGateway

abbrev Environment := String → Option String

namespace Environment

def names : List String :=
  ["PROXY_CONFIG_FILE", "PROXY_SERVER_ADDRESS", "PROXY_SERVER_PORT", "PROXY_UPSTREAM_URL",
    "PROXY_UPSTREAM_TIMEOUT", "PROXY_CACHE_ENABLED", "PROXY_CACHE_MAX_SIZE",
    "PROXY_CACHE_DEFAULT_TTL", "PROXY_CACHE_VARY_HEADERS", "PROXY_RATELIMIT_ENABLED",
    "PROXY_RATELIMIT_RPS", "PROXY_RATELIMIT_BURST", "PROXY_RATELIMIT_KEY",
    "PROXY_RATELIMIT_API_KEY_HEADER", "PROXY_LOG_LEVEL", "PROXY_LOG_FORMAT",
    "PROXY_METRICS_ENABLED", "PROXY_METRICS_PORT"]

def ofList (values : List (String × String)) : Environment := fun name =>
  values.lookup name

def text? (environment : Environment) (name : String) : Option String :=
  (environment name).filter fun value => !value.isEmpty

def flag? (environment : Environment) (name : String) : Option Bool :=
  (environment.text? name).map fun value => value = "true" || value = "1"

def parsed? {value : Type} (environment : Environment) (name : String)
    (read : List Char → Option value) : Option value :=
  (environment.text? name).bind fun text => read (Blank.trim text.toList)

def natural? (environment : Environment) (name : String) (limit : Nat) : Option Nat :=
  environment.parsed? name (Ascii.unsigned? limit)

def list? (environment : Environment) (name : String) : Option (List String) :=
  (environment.text? name).map fun text =>
    (((Ascii.splitAt ',' text.toList).map Blank.trim).filter fun element => !element.isEmpty).map
      String.ofList

end Environment

def ServerSettings.override (settings : ServerSettings) (environment : Environment) :
    ServerSettings :=
  { settings with
    address := (environment.text? "PROXY_SERVER_ADDRESS").getD settings.address
    portNumber :=
      (environment.natural? "PROXY_SERVER_PORT" Word.greatest16).getD settings.portNumber }

def OriginSettings.override (settings : OriginSettings) (environment : Environment) :
    OriginSettings :=
  { settings with
    url := (environment.text? "PROXY_UPSTREAM_URL").getD settings.url
    timeout :=
      (environment.natural? "PROXY_UPSTREAM_TIMEOUT" Word.greatest64).getD settings.timeout }

def CacheSettings.override (settings : CacheSettings) (environment : Environment) :
    CacheSettings :=
  { enabled := (environment.flag? "PROXY_CACHE_ENABLED").getD settings.enabled
    maxSize := (environment.natural? "PROXY_CACHE_MAX_SIZE" Word.greatest64).getD settings.maxSize
    defaultLifetime :=
      (environment.natural? "PROXY_CACHE_DEFAULT_TTL" Word.greatest64).getD
        settings.defaultLifetime
    varyHeaders := (environment.list? "PROXY_CACHE_VARY_HEADERS").getD settings.varyHeaders }

def RateLimitSettings.override (settings : RateLimitSettings) (environment : Environment) :
    RateLimitSettings :=
  { enabled := (environment.flag? "PROXY_RATELIMIT_ENABLED").getD settings.enabled
    requestsPerSecond :=
      (environment.parsed? "PROXY_RATELIMIT_RPS" Decimal.binary64?).getD settings.requestsPerSecond
    burst := (environment.natural? "PROXY_RATELIMIT_BURST" Word.greatest32).getD settings.burst
    keyStrategy :=
      (environment.parsed? "PROXY_RATELIMIT_KEY" fun text =>
        (KeyStrategy.parse (String.ofList text)).toOption).getD settings.keyStrategy
    credentialHeader :=
      (environment.text? "PROXY_RATELIMIT_API_KEY_HEADER").getD settings.credentialHeader }

def LoggingSettings.override (settings : LoggingSettings) (environment : Environment) :
    LoggingSettings :=
  { level := (environment.text? "PROXY_LOG_LEVEL").getD settings.level
    format :=
      (environment.parsed? "PROXY_LOG_FORMAT" fun text =>
        (LogFormat.parse (String.ofList text)).toOption).getD settings.format }

def MetricsSettings.override (settings : MetricsSettings) (environment : Environment) :
    MetricsSettings :=
  { settings with
    enabled := (environment.flag? "PROXY_METRICS_ENABLED").getD settings.enabled
    portNumber :=
      (environment.natural? "PROXY_METRICS_PORT" Word.greatest16).getD settings.portNumber }

/-- Applies every variable that is set well. -/
def Settings.override (settings : Settings) (environment : Environment) : Settings :=
  { server := settings.server.override environment
    origin := settings.origin.override environment
    cache := settings.cache.override environment
    rateLimit := settings.rateLimit.override environment
    logging := settings.logging.override environment
    metrics := settings.metrics.override environment }

end CachingGateway
