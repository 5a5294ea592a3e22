/-
Runs of the store: operations with the reading of the wall clock at each, what a step answers, and
what a caller sees of the store after it. The readings are in no order, so the clock may go back.
-/

import CachingGateway.Cache.Store

namespace CachingGateway.Store

variable {key : Type}

inductive Operation (key : Type) where
  | set (stored : key) (entry : Entry)
  | get (sought : key)
  | delete (gone : key)
  | clear

structure Step (key : Type) where
  now : WallClock
  operation : Operation key

/-- An entry that is put in leaves room in a word for the sizes of a full store beside its own. -/
def Operation.Fits (maxSize : UInt64) : Operation key → Prop
  | .set _ entry => maxSize.toNat + entry.size.toNat < UInt64.size
  | _ => True

instance (operation : Operation key) (maxSize : UInt64) : Decidable (operation.Fits maxSize) :=
  match operation with
  | .set _ entry => inferInstanceAs (Decidable (maxSize.toNat + entry.size.toNat < UInt64.size))
  | .get _ | .delete _ | .clear => inferInstanceAs (Decidable True)

structure Observation where
  found : Option Entry
  length : Nat
  size : Nat
  isEmpty : Bool
  deriving DecidableEq, Repr

def observe (store : Store key) (found : Option Entry) : Observation :=
  ⟨found, store.length, store.size.toNat, store.isEmpty⟩

variable [DecidableEq key]

def apply (store : Store key) (step : Step key) : Option Entry × Store key :=
  match step.operation with
  | .set stored entry => (none, store.set stored entry)
  | .get sought => store.get step.now sought
  | .delete gone => (none, store.delete gone)
  | .clear => (none, store.clear)

def run (store : Store key) (steps : List (Step key)) : Store key :=
  steps.foldl (fun held step => (held.apply step).2) store

def observations (store : Store key) : List (Step key) → List Observation
  | [] => []
  | step :: rest =>
    let (found, next) := store.apply step
    next.observe found :: next.observations rest

theorem run_append (store : Store key) (earlier later : List (Step key)) :
    store.run (earlier ++ later) = (store.run earlier).run later :=
  List.foldl_append

def bareEntry (size : UInt64) (expiresAt : Nat) : Entry :=
  { status := .ok
    headers := Headers.empty
    body := []
    etag := ""
    createdAt := 0
    expiresAt := expiresAt
    size := size }

/-- A run that replaces, evicts, expires, deletes and clears, with the wall clock going back. -/
def crowdedRun : List (Step String) :=
  let moment (milliseconds : Int) (operation : Operation String) : Step String :=
    ⟨⟨milliseconds * 1000000⟩, operation⟩
  [moment 0 (.set "a" (bareEntry 10 50)), moment 0 (.set "b" (bareEntry 15 50)), moment 10 (.get "a"),
    moment 20 (.set "c" (bareEntry 12 90)), moment 60 (.get "a"), moment 5 (.set "a" (bareEntry 7 8)),
    moment 7 (.get "a"), moment (-3) (.delete "c"), moment 4 (.set "d" (bareEntry 31 90)), moment 4 .clear]

end CachingGateway.Store
