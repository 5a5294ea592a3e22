/-
What the gateway counts. A series of a family is found by its label values written one after the
other, and is labelled as it was when it first came.
-/

import CachingGateway.Data.Table
import CachingGateway.Http.Message
import CachingGateway.Metrics.Histogram
import CachingGateway.Number.Word
import CachingGateway.Time.Duration

namespace CachingGateway

structure Family (value : Type) where
  series : Table String (List String × value)

namespace Family

variable {value : Type}

def empty : Family value := ⟨Table.empty⟩

def update (family : Family value) (labels : List String) (start : value) (change : value → value) :
    Family value :=
  ⟨family.series.alter (String.join labels) fun found =>
    match found with
    | some (first, current) => (first, change current)
    | none => (labels, change start)⟩

def find? (family : Family value) (labels : List String) : Option value :=
  (family.series.find? (String.join labels)).map Prod.snd

def labelsAtMost : List String → List String → Bool
  | [], _ => true
  | _ :: _, [] => false
  | left :: lefts, right :: rights =>
    if left = right then labelsAtMost lefts rights else left < right

def sorted (family : Family value) : List (List String × value) :=
  family.series.values.mergeSort fun left right => labelsAtMost left.1 right.1

end Family

structure Metrics where
  requests : Family Nat
  durations : Family Histogram
  requestSizes : Family Histogram
  responseSizes : Family Histogram
  hits : Family Nat
  misses : Family Nat
  drops : Nat
  active : Int
  entries : Nat
  bytes : Nat

structure AnsweredRequest where
  method : Method
  path : String
  status : Status
  duration : Duration
  requestSize : Nat
  responseSize : Nat
  deriving DecidableEq, Repr

namespace Metrics

def empty : Metrics :=
  { requests := .empty, durations := .empty, requestSizes := .empty, responseSizes := .empty
    hits := .empty, misses := .empty, drops := 0, active := 0, entries := 0, bytes := 0 }

def gaugeLimit : Nat := Word.greatestSigned64

def countRequest (metrics : Metrics) (answered : AnsweredRequest) : Metrics :=
  let byPath := [answered.method.name, answered.path]
  let byStatus := byPath ++ [answered.status.text]
  { metrics with
    requests := metrics.requests.update byStatus 0 (· + 1)
    durations := metrics.durations.update byStatus (.empty Histogram.latencyBounds)
      (·.observe answered.duration.toBinary64)
    requestSizes := metrics.requestSizes.update byPath (.empty Histogram.sizeBounds)
      (·.observe (Binary64.ofNat answered.requestSize))
    responseSizes := metrics.responseSizes.update byPath (.empty Histogram.sizeBounds)
      (·.observe (Binary64.ofNat answered.responseSize)) }

def countHit (metrics : Metrics) (method : Method) (path : String) : Metrics :=
  { metrics with hits := metrics.hits.update [method.name, path] 0 (· + 1) }

def countMiss (metrics : Metrics) (method : Method) (path : String) : Metrics :=
  { metrics with misses := metrics.misses.update [method.name, path] 0 (· + 1) }

def countDrop (metrics : Metrics) : Metrics :=
  { metrics with drops := metrics.drops + 1 }

def enter (metrics : Metrics) : Metrics :=
  { metrics with active := metrics.active + 1 }

def leave (metrics : Metrics) : Metrics :=
  { metrics with active := metrics.active - 1 }

def observeStore (metrics : Metrics) (entries bytes : Nat) : Metrics :=
  { metrics with entries := min gaugeLimit entries, bytes := min gaugeLimit bytes }

end Metrics

end CachingGateway
