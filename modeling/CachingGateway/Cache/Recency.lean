/-
Recency of use. Each use of a key stamps it with the next tick. One index leads from a key to its
tick and one, ascending, from ticks to keys, so that the least recently used key stands in front.
-/

import CachingGateway.Data.Table

namespace CachingGateway

/-- The order in which keys were last used. -/
structure Recency (key : Type) where
  /-- Ticks with their keys, the least tick first. -/
  order : List (Nat × key)
  ticks : Table key Nat
  /-- The tick of the next use. -/
  clock : Nat
  deriving Repr

namespace Recency

variable {key : Type}

def empty : Recency key := ⟨[], Table.empty, 0⟩

instance : Inhabited (Recency key) := ⟨empty⟩

def place (tick : Nat) (used : key) : List (Nat × key) → List (Nat × key)
  | [] => [(tick, used)]
  | head :: rest =>
    if tick < head.1 then (tick, used) :: head :: rest else head :: place tick used rest

def dropTick (tick : Nat) (order : List (Nat × key)) : List (Nat × key) :=
  order.filter fun row => row.1 ≠ tick

variable [DecidableEq key]

def touch (recency : Recency key) (used : key) : Recency key :=
  let tick := recency.clock
  let others := match recency.ticks.find? used with
    | some before => dropTick before recency.order
    | none => recency.order
  { order := place tick used others
    ticks := recency.ticks.insert used tick
    clock := tick + 1 }

def remove (recency : Recency key) (gone : key) : Recency key :=
  match recency.ticks.find? gone with
  | some tick =>
    { recency with order := dropTick tick recency.order, ticks := recency.ticks.erase gone }
  | none => recency

def evictOldest (recency : Recency key) : Option (key × Recency key) :=
  match recency.order with
  | [] => none
  | oldest :: rest =>
    some (oldest.2, { recency with order := rest, ticks := recency.ticks.erase oldest.2 })

/-- Forgets every key; ticks go on from where they were. -/
def clear (recency : Recency key) : Recency key :=
  { recency with order := [], ticks := Table.empty }

omit [DecidableEq key] in
/-- The keys from the least to the most recently used. -/
def toList (recency : Recency key) : List key :=
  recency.order.map Prod.snd

theorem evictOldest_length {recency rest : Recency key} {oldest : key}
    (evicted : recency.evictOldest = some (oldest, rest)) :
    rest.order.length < recency.order.length := by
  unfold evictOldest at evicted
  split at evicted
  · cases evicted
  · rename_i head tail found
    cases evicted
    rw [found]
    exact Nat.lt_succ_self tail.length

end Recency

end CachingGateway
