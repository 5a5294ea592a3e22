/-
The size-bounded store of responses. A read of an expired entry removes it; any other read and every
write make their key the most recently used. After a write the least recently used entries leave
until the accounted sizes fit. Sizes are sixty-four bit words.
-/

import CachingGateway.Cache.Entry
import CachingGateway.Cache.Recency

namespace CachingGateway

/-- Entries by key with their recency and accounted size. -/
structure Store (key : Type) where
  maxSize : UInt64
  entries : Table key Entry
  recency : Recency key
  size : UInt64

namespace Store

variable {key : Type}

def empty (maxSize : UInt64) : Store key :=
  ⟨maxSize, Table.empty, Recency.empty, 0⟩

/-- The number of entries held, expired ones included. -/
def length (store : Store key) : Nat :=
  store.entries.size

def isEmpty (store : Store key) : Bool :=
  store.length == 0

variable [DecidableEq key]

def delete (store : Store key) (gone : key) : Store key :=
  match store.entries.find? gone with
  | some entry =>
    { store with
      entries := store.entries.erase gone
      recency := store.recency.remove gone
      size := store.size - entry.size }
  | none => store

def get (store : Store key) (now : WallClock) (sought : key) : Option Entry × Store key :=
  match store.entries.find? sought with
  | none => (none, store)
  | some entry =>
    if entry.isExpired now then (none, store.delete sought)
    else (some entry, { store with recency := store.recency.touch sought })

/-- Takes a key that has left the recency order out of the entries. -/
def forget (store : Store key) (evicted : key) (recency : Recency key) : Store key :=
  match store.entries.find? evicted with
  | some entry =>
    { store with
      entries := store.entries.erase evicted
      recency := recency
      size := store.size - entry.size }
  | none => { store with recency := recency }

theorem forget_recency (store : Store key) (evicted : key) (recency : Recency key) :
    (store.forget evicted recency).recency = recency := by
  unfold forget
  split <;> rfl

def shrink (store : Store key) : Store key :=
  if store.maxSize < store.size then
    match _evicted : store.recency.evictOldest with
    | none => store
    | some (oldest, rest) => (store.forget oldest rest).shrink
  else store
  termination_by store.recency.order.length
  decreasing_by
    rw [forget_recency]
    exact Recency.evictOldest_length _evicted

def insert (store : Store key) (stored : key) (entry : Entry) : Store key :=
  let before : UInt64 := match store.entries.find? stored with
    | some old => old.size
    | none => 0
  { store with
    entries := store.entries.insert stored entry
    recency := store.recency.touch stored
    size := store.size - before + entry.size }

/-- Stores an entry. One that is larger than the whole store leaves the store empty. -/
def set (store : Store key) (stored : key) (entry : Entry) : Store key :=
  (store.insert stored entry).shrink

def clear (store : Store key) : Store key :=
  { store with entries := Table.empty, recency := store.recency.clear, size := 0 }

end Store

end CachingGateway
