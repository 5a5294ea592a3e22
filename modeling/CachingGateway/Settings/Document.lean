/-
Settings from documents. A document format gives readings of its nodes; a section is then a
structure of named fields, each of which may be left out. Unknown names are passed over, a name
given twice is refused, and a format may allow a section to be given by position.
-/

import CachingGateway.Number.Word
import CachingGateway.Settings.Basic

namespace CachingGateway

inductive FieldGroup (node : Type) where
  | named (members : List (String × node))
  | listed (elements : List node)

structure DocumentFormat (node : Type) where
  group? : node → Option (FieldGroup node)
  text? : node → Option String
  flag? : node → Option Bool
  natural? : Nat → node → Option Nat
  number? : node → Option Binary64
  texts? : node → Option (List String)
  choice? : node → Option String

namespace FieldGroup

variable {node : Type}

/-- The value of a field with its names: absent, given once, or refused. -/
def member? (members : List (String × node)) (names : List String) : Option (Option node) :=
  match members.filter fun member => names.contains member.1 with
  | [] => some none
  | [member] => some (some member.2)
  | _ => none

/-- The values of fields in order. A list may stop early but not go on. -/
def arrange? (fields : List (List String)) : FieldGroup node → Option (List (Option node))
  | .named members => fields.mapM (member? members)
  | .listed elements =>
    if fields.length < elements.length then none
    else some (elements.map some ++ List.replicate (fields.length - elements.length) none)

end FieldGroup

namespace DocumentFormat

variable {node : Type}

def field {value : Type} (read : node → Option value) (default : value) (given : Option node) :
    Option value :=
  match given with
  | none => some default
  | some found => read found

def fields? (format : DocumentFormat node) (names : List (List String)) (found : node) :
    Option (List (Option node)) :=
  (format.group? found).bind (FieldGroup.arrange? names)

def server? (format : DocumentFormat node) (found : node) : Option ServerSettings := do
  let default := ServerSettings.default
  match ← format.fields? [["address"], ["port"], ["shutdown_timeout"]] found with
  | [address, portNumber, shutdownTimeout] =>
    pure
      { address := ← field format.text? default.address address
        portNumber := ← field (format.natural? Word.greatest16) default.portNumber portNumber
        shutdownTimeout :=
          ← field (format.natural? Word.greatest64) default.shutdownTimeout shutdownTimeout }
  | _ => none

def origin? (format : DocumentFormat node) (found : node) : Option OriginSettings := do
  let default := OriginSettings.default
  match ← format.fields? [["url"], ["timeout"], ["forbidden_headers"]] found with
  | [url, timeout, forbiddenHeaders] =>
    pure
      { url := ← field format.text? default.url url
        timeout := ← field (format.natural? Word.greatest64) default.timeout timeout
        forbiddenHeaders := ← field format.texts? default.forbiddenHeaders forbiddenHeaders }
  | _ => none

def cache? (format : DocumentFormat node) (found : node) : Option CacheSettings := do
  let default := CacheSettings.default
  match ← format.fields? [["enabled"], ["max_size"], ["default_ttl"], ["vary_headers"]] found with
  | [enabled, maxSize, defaultLifetime, varyHeaders] =>
    pure
      { enabled := ← field format.flag? default.enabled enabled
        maxSize := ← field (format.natural? Word.greatest64) default.maxSize maxSize
        defaultLifetime :=
          ← field (format.natural? Word.greatest64) default.defaultLifetime defaultLifetime
        varyHeaders := ← field format.texts? default.varyHeaders varyHeaders }
  | _ => none

/-- A choice among strategies by its own name alone. -/
def strategy? (format : DocumentFormat node) (found : node) : Option KeyStrategy :=
  (format.choice? found).bind fun name =>
    [KeyStrategy.ip, .apiKey, .composite].find? fun strategy => strategy.name = name

def rateLimit? (format : DocumentFormat node) (found : node) : Option RateLimitSettings := do
  let default := RateLimitSettings.default
  let names :=
    [["enabled"], ["requests_per_second"], ["burst"], ["key_strategy"], ["api_key_header"]]
  match ← format.fields? names found with
  | [enabled, requestsPerSecond, burst, keyStrategy, credentialHeader] =>
    pure
      { enabled := ← field format.flag? default.enabled enabled
        requestsPerSecond :=
          ← field format.number? default.requestsPerSecond requestsPerSecond
        burst := ← field (format.natural? Word.greatest32) default.burst burst
        keyStrategy := ← field format.strategy? default.keyStrategy keyStrategy
        credentialHeader := ← field format.text? default.credentialHeader credentialHeader }
  | _ => none

def logFormat? (format : DocumentFormat node) (found : node) : Option LogFormat :=
  (format.choice? found).bind fun name =>
    [LogFormat.json, .console].find? fun layout => layout.name = name

def logging? (format : DocumentFormat node) (found : node) : Option LoggingSettings := do
  let default := LoggingSettings.default
  match ← format.fields? [["level"], ["format"]] found with
  | [level, layout] =>
    pure
      { level := ← field format.text? default.level level
        format := ← field format.logFormat? default.format layout }
  | _ => none

def metrics? (format : DocumentFormat node) (found : node) : Option MetricsSettings := do
  let default := MetricsSettings.default
  match ← format.fields? [["enabled"], ["port"], ["path"]] found with
  | [enabled, portNumber, path] =>
    pure
      { enabled := ← field format.flag? default.enabled enabled
        portNumber := ← field (format.natural? Word.greatest16) default.portNumber portNumber
        path := ← field format.text? default.path path }
  | _ => none

def settings? (format : DocumentFormat node) (found : node) : Option Settings := do
  let names :=
    [["server"], ["upstream"], ["cache"], ["rate_limit", "ratelimit"], ["logging"], ["metrics"]]
  match ← format.fields? names found with
  | [server, origin, cache, rateLimit, logging, metrics] =>
    pure
      { server := ← field format.server? .default server
        origin := ← field format.origin? .default origin
        cache := ← field format.cache? .default cache
        rateLimit := ← field format.rateLimit? .default rateLimit
        logging := ← field format.logging? .default logging
        metrics := ← field format.metrics? .default metrics }
  | _ => none

end DocumentFormat

end CachingGateway
