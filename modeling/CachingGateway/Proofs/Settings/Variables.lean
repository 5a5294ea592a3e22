/-
The settings that environment variables override. Each of them has a variable of its own, read by its
kind of value, and overriding replaces it by what its variable reads as and leaves it alone if that
is nothing. All other settings stay as they are.
-/

import CachingGateway.Settings.Override
import Mathlib.Logic.Function.Basic

namespace CachingGateway

/-! ### Settings and their variables -/

inductive Setting where
  | serverAddress
  | serverPortNumber
  | originUrl
  | originTimeout
  | cacheEnabled
  | cacheMaxSize
  | cacheDefaultLifetime
  | cacheVaryHeaders
  | rateLimitEnabled
  | rateLimitRate
  | rateLimitBurst
  | rateLimitKeyStrategy
  | rateLimitCredentialHeader
  | loggingLevel
  | loggingFormat
  | metricsEnabled
  | metricsPortNumber
  deriving DecidableEq, Repr

inductive SettingKind where
  | text
  | switch
  | list
  | number (limit : Nat)
  | amount
  | keyStrategy
  | logFormat
  deriving DecidableEq, Repr

namespace SettingKind

abbrev Value : SettingKind → Type
  | text => String
  | switch => Bool
  | list => List String
  | number _ => Nat
  | amount => Binary64
  | keyStrategy => KeyStrategy
  | logFormat => LogFormat

def read (kind : SettingKind) (text : String) : Option kind.Value :=
  let trimmed := Blank.trim text.toList
  match kind with
  | .text => some text
  | .switch => some (text = "true" || text = "1")
  | .list =>
    some ((((Ascii.splitAt ',' text.toList).map Blank.trim).filter fun element =>
      !element.isEmpty).map String.ofList)
  | .number limit => Ascii.unsigned? limit trimmed
  | .amount => Decimal.binary64? trimmed
  | .keyStrategy => (KeyStrategy.parse (String.ofList trimmed)).toOption
  | .logFormat => (LogFormat.parse (String.ofList trimmed)).toOption

end SettingKind

namespace Setting

def variableName : Setting → String
  | serverAddress => "PROXY_SERVER_ADDRESS"
  | serverPortNumber => "PROXY_SERVER_PORT"
  | originUrl => "PROXY_UPSTREAM_URL"
  | originTimeout => "PROXY_UPSTREAM_TIMEOUT"
  | cacheEnabled => "PROXY_CACHE_ENABLED"
  | cacheMaxSize => "PROXY_CACHE_MAX_SIZE"
  | cacheDefaultLifetime => "PROXY_CACHE_DEFAULT_TTL"
  | cacheVaryHeaders => "PROXY_CACHE_VARY_HEADERS"
  | rateLimitEnabled => "PROXY_RATELIMIT_ENABLED"
  | rateLimitRate => "PROXY_RATELIMIT_RPS"
  | rateLimitBurst => "PROXY_RATELIMIT_BURST"
  | rateLimitKeyStrategy => "PROXY_RATELIMIT_KEY"
  | rateLimitCredentialHeader => "PROXY_RATELIMIT_API_KEY_HEADER"
  | loggingLevel => "PROXY_LOG_LEVEL"
  | loggingFormat => "PROXY_LOG_FORMAT"
  | metricsEnabled => "PROXY_METRICS_ENABLED"
  | metricsPortNumber => "PROXY_METRICS_PORT"

def kind : Setting → SettingKind
  | serverAddress => .text
  | serverPortNumber => .number Word.greatest16
  | originUrl => .text
  | originTimeout => .number Word.greatest64
  | cacheEnabled => .switch
  | cacheMaxSize => .number Word.greatest64
  | cacheDefaultLifetime => .number Word.greatest64
  | cacheVaryHeaders => .list
  | rateLimitEnabled => .switch
  | rateLimitRate => .amount
  | rateLimitBurst => .number Word.greatest32
  | rateLimitKeyStrategy => .keyStrategy
  | rateLimitCredentialHeader => .text
  | loggingLevel => .text
  | loggingFormat => .logFormat
  | metricsEnabled => .switch
  | metricsPortNumber => .number Word.greatest16

abbrev Value (setting : Setting) : Type :=
  setting.kind.Value

def all : List Setting :=
  [serverAddress, serverPortNumber, originUrl, originTimeout, cacheEnabled, cacheMaxSize,
    cacheDefaultLifetime, cacheVaryHeaders, rateLimitEnabled, rateLimitRate, rateLimitBurst,
    rateLimitKeyStrategy, rateLimitCredentialHeader, loggingLevel, loggingFormat, metricsEnabled,
    metricsPortNumber]

def ofVariable? (name : String) : Option Setting :=
  all.find? fun setting => setting.variableName = name

theorem ofVariable?_variableName (setting : Setting) :
    ofVariable? setting.variableName = some setting := by
  cases setting <;> rfl

theorem variableName_injective : Function.Injective variableName := by
  intro setting other same
  have found := congrArg ofVariable? same
  rw [ofVariable?_variableName, ofVariable?_variableName] at found
  exact Option.some.inj found

def read (setting : Setting) (value : Option String) : Option setting.Value :=
  (value.filter fun text => !text.isEmpty).bind setting.kind.read

def told (setting : Setting) (environment : Environment) : Option setting.Value :=
  setting.read (environment setting.variableName)

end Setting

/-! ### Settings as a record of fields -/

namespace Settings

def get (settings : Settings) : (setting : Setting) → setting.Value
  | .serverAddress => settings.server.address
  | .serverPortNumber => settings.server.portNumber
  | .originUrl => settings.origin.url
  | .originTimeout => settings.origin.timeout
  | .cacheEnabled => settings.cache.enabled
  | .cacheMaxSize => settings.cache.maxSize
  | .cacheDefaultLifetime => settings.cache.defaultLifetime
  | .cacheVaryHeaders => settings.cache.varyHeaders
  | .rateLimitEnabled => settings.rateLimit.enabled
  | .rateLimitRate => settings.rateLimit.requestsPerSecond
  | .rateLimitBurst => settings.rateLimit.burst
  | .rateLimitKeyStrategy => settings.rateLimit.keyStrategy
  | .rateLimitCredentialHeader => settings.rateLimit.credentialHeader
  | .loggingLevel => settings.logging.level
  | .loggingFormat => settings.logging.format
  | .metricsEnabled => settings.metrics.enabled
  | .metricsPortNumber => settings.metrics.portNumber

def put (settings : Settings) : (setting : Setting) → setting.Value → Settings
  | .serverAddress, address => { settings with server.address := address }
  | .serverPortNumber, number => { settings with server.portNumber := number }
  | .originUrl, url => { settings with origin.url := url }
  | .originTimeout, timeout => { settings with origin.timeout := timeout }
  | .cacheEnabled, enabled => { settings with cache.enabled := enabled }
  | .cacheMaxSize, size => { settings with cache.maxSize := size }
  | .cacheDefaultLifetime, lifetime => { settings with cache.defaultLifetime := lifetime }
  | .cacheVaryHeaders, names => { settings with cache.varyHeaders := names }
  | .rateLimitEnabled, enabled => { settings with rateLimit.enabled := enabled }
  | .rateLimitRate, rate => { settings with rateLimit.requestsPerSecond := rate }
  | .rateLimitBurst, burst => { settings with rateLimit.burst := burst }
  | .rateLimitKeyStrategy, strategy => { settings with rateLimit.keyStrategy := strategy }
  | .rateLimitCredentialHeader, name => { settings with rateLimit.credentialHeader := name }
  | .loggingLevel, level => { settings with logging.level := level }
  | .loggingFormat, format => { settings with logging.format := format }
  | .metricsEnabled, enabled => { settings with metrics.enabled := enabled }
  | .metricsPortNumber, number => { settings with metrics.portNumber := number }

/-- The settings that have no variable: how long the server drains, the headers kept from the service
and the path of the counts. -/
def unnamed (settings : Settings) : Nat × List String × String :=
  (settings.server.shutdownTimeout, settings.origin.forbiddenHeaders, settings.metrics.path)

attribute [ext] ServerSettings OriginSettings CacheSettings RateLimitSettings LoggingSettings
  MetricsSettings Settings

variable {settings left right : Settings}

theorem ext_get (fields : ∀ setting, left.get setting = right.get setting)
    (rest : left.unnamed = right.unnamed) : left = right := by
  obtain ⟨shutdown, others⟩ := Prod.mk.inj rest
  obtain ⟨forbidden, path⟩ := Prod.mk.inj others
  apply Settings.ext
  · exact ServerSettings.ext (fields .serverAddress) (fields .serverPortNumber) shutdown
  · exact OriginSettings.ext (fields .originUrl) (fields .originTimeout) forbidden
  · exact CacheSettings.ext (fields .cacheEnabled) (fields .cacheMaxSize)
      (fields .cacheDefaultLifetime) (fields .cacheVaryHeaders)
  · exact RateLimitSettings.ext (fields .rateLimitEnabled) (fields .rateLimitRate)
      (fields .rateLimitBurst) (fields .rateLimitKeyStrategy) (fields .rateLimitCredentialHeader)
  · exact LoggingSettings.ext (fields .loggingLevel) (fields .loggingFormat)
  · exact MetricsSettings.ext (fields .metricsEnabled) (fields .metricsPortNumber) path

theorem get_put_self (settings : Settings) (setting : Setting) (value : setting.Value) :
    (settings.put setting value).get setting = value := by
  cases setting <;> rfl

theorem get_put_of_ne (settings : Settings) {setting other : Setting} (apart : other ≠ setting)
    (value : setting.Value) : (settings.put setting value).get other = settings.get other := by
  -- Two settings are different fields, so one is read past a change of the other.
  cases setting <;> cases other <;> first | rfl | exact absurd rfl apart

theorem unnamed_put (settings : Settings) (setting : Setting) (value : setting.Value) :
    (settings.put setting value).unnamed = settings.unnamed := by
  cases setting <;> rfl

end Settings

/-! ### Overriding, field by field -/

namespace Environment

theorem text?_eq_bind (environment : Environment) (name : String) :
    environment.text? name = (environment.text? name).bind SettingKind.text.read :=
  (Option.bind_fun_some _).symm

theorem flag?_eq_bind (environment : Environment) (name : String) :
    environment.flag? name = (environment.text? name).bind SettingKind.switch.read := by
  rw [flag?]
  cases environment.text? name <;> rfl

theorem list?_eq_bind (environment : Environment) (name : String) :
    environment.list? name = (environment.text? name).bind SettingKind.list.read := by
  rw [list?]
  cases environment.text? name <;> rfl

end Environment

namespace Settings

/-- A setting is overridden by what the environment says of it, if that is anything. -/
theorem get_override (settings : Settings) (environment : Environment) (setting : Setting) :
    (settings.override environment).get setting =
      (setting.told environment).getD (settings.get setting) := by
  cases setting
  case serverAddress | originUrl | rateLimitCredentialHeader | loggingLevel =>
    exact congrArg (Option.getD · _) (environment.text?_eq_bind _)
  case cacheEnabled | rateLimitEnabled | metricsEnabled =>
    exact congrArg (Option.getD · _) (environment.flag?_eq_bind _)
  case cacheVaryHeaders => exact congrArg (Option.getD · _) (environment.list?_eq_bind _)
  -- Numbers and choices are read by one function, in the model and by their kind.
  all_goals rfl

theorem unnamed_override (settings : Settings) (environment : Environment) :
    (settings.override environment).unnamed = settings.unnamed :=
  rfl

end Settings

end CachingGateway
