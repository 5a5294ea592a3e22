/-
Distributions of observed values over buckets with upper bounds, with the sum and the number of all
observations.
-/

import CachingGateway.Number.Decimal

namespace CachingGateway

/-- Observations by bucket; a bucket counts what is at most its bound and above the bound before. -/
structure Histogram where
  bounds : List Binary64
  counts : List Nat
  sum : Binary64
  count : Nat
  deriving DecidableEq, Repr

namespace Histogram

def empty (bounds : List Binary64) : Histogram :=
  ⟨bounds, bounds.map fun _ => 0, .finite 0, 0⟩

def countIn (value : Binary64) : List Binary64 → List Nat → List Nat
  | bound :: bounds, count :: counts =>
    if value.atMost bound then (count + 1) :: counts else count :: countIn value bounds counts
  | _, counts => counts

def observe (histogram : Histogram) (value : Binary64) : Histogram :=
  { histogram with
    counts := countIn value histogram.bounds histogram.counts
    sum := histogram.sum + value
    count := histogram.count + 1 }

def totals (before : Nat) : List Nat → List Nat
  | [] => []
  | count :: rest => (before + count) :: totals (before + count) rest

def cumulative (histogram : Histogram) : List (Binary64 × Nat) :=
  histogram.bounds.zip (totals 0 histogram.counts)

/-- The bounds of latencies, in seconds. -/
def latencyBounds : List Binary64 :=
  ["0.001", "0.005", "0.01", "0.025", "0.05", "0.1", "0.25", "0.5", "1", "2.5", "5", "10"].filterMap
    fun numeral => Decimal.binary64? numeral.toList

def sizeBounds : List Binary64 :=
  (List.range 8).map fun place => Binary64.ofNat (100 * Nat.pow 10 place)

end Histogram

end CachingGateway
