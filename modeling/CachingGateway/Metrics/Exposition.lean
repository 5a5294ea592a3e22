/-
The text exposition of the counts. Families come in the order of their names, each with a line of
help and one of type; a family without series is left out. Numbers are written as the shortest
decimals that read back, never with an exponent.
-/

import CachingGateway.Metrics.Registry

namespace CachingGateway.Exposition

def escape (value : List Char) : List Char :=
  value.flatMap fun character =>
    if character = '\\' then ['\\', '\\']
    else if character = '\n' then ['\\', 'n']
    else if character = '"' then ['\\', '"']
    else [character]

def label (pair : String × String) : List Char :=
  pair.1.toList ++ '=' :: '"' :: (escape pair.2.toList ++ ['"'])

def labels (pairs : List (String × String)) : List Char :=
  if pairs.isEmpty then []
  else '{' :: (Ascii.joinWith [','] (pairs.map label) ++ ['}'])

def sample (name : String) (pairs : List (String × String)) (value : Binary64) : String :=
  String.ofList (name.toList ++ labels pairs ++ ' ' :: Decimal.text value)

def heading (name help kind : String) : List String :=
  ["# HELP " ++ name ++ " " ++ help, "# TYPE " ++ name ++ " " ++ kind]

def single (name help kind : String) (value : Binary64) : List String :=
  heading name help kind ++ [sample name [] value]

def counters (name help : String) (labelNames : List String) (family : Family Nat) : List String :=
  if family.sorted.isEmpty then []
  else heading name help "counter" ++ family.sorted.map fun (values, count) =>
    sample name (labelNames.zip values) (Binary64.ofNat count)

def distribution (name : String) (pairs : List (String × String)) (histogram : Histogram) :
    List String :=
  let bucket (bound : String) (count : Nat) : String :=
    sample (name ++ "_bucket") (pairs ++ [("le", bound)]) (Binary64.ofNat count)
  (histogram.cumulative.map fun (bound, count) =>
    bucket (String.ofList (Decimal.text bound)) count) ++
    [bucket "+Inf" histogram.count,
      sample (name ++ "_sum") pairs histogram.sum,
      sample (name ++ "_count") pairs (Binary64.ofNat histogram.count)]

def distributions (name help : String) (labelNames : List String) (family : Family Histogram) :
    List String :=
  if family.sorted.isEmpty then []
  else heading name help "histogram" ++ family.sorted.flatMap fun (values, histogram) =>
    distribution name (labelNames.zip values) histogram

def byPath : List String := ["method", "path"]
def byStatus : List String := ["method", "path", "status"]

def lines (metrics : Metrics) : List String :=
  single "active_connections" "Number of active connections" "gauge"
      (Binary64.ofInt metrics.active) ++
    single "cache_entries"
      "Entries held by the response cache, including expired ones not yet read" "gauge"
      (Binary64.ofNat metrics.entries) ++
    counters "cache_hits_total" "Total number of cache hits" byPath metrics.hits ++
    counters "cache_misses_total" "Total number of cache misses" byPath metrics.misses ++
    single "cache_size_bytes" "Accounted size of the response cache in bytes" "gauge"
      (Binary64.ofNat metrics.bytes) ++
    distributions "http_request_duration_seconds" "HTTP request latency in seconds" byStatus
      metrics.durations ++
    distributions "http_request_size_bytes" "HTTP request size in bytes" byPath
      metrics.requestSizes ++
    counters "http_requests_total" "Total number of HTTP requests" byStatus metrics.requests ++
    distributions "http_response_size_bytes" "HTTP response size in bytes" byPath
      metrics.responseSizes ++
    single "rate_limit_dropped_total" "Total number of requests dropped by rate limiter" "counter"
      (Binary64.ofNat metrics.drops)

def text (metrics : Metrics) : String :=
  String.join ((lines metrics).map (· ++ "\n"))

end CachingGateway.Exposition
