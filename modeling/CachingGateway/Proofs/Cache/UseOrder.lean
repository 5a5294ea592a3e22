/-
The store as a list: keys with their entries, from the least to the most recently used. There are no
ticks, no second index and no count of sizes; the list says when an entry is found and which entries
make room. What stays after a write is the longest end of the list that fits.
-/

import CachingGateway.Proofs.Cache.StoreRun
import Mathlib.Data.List.Infix

namespace CachingGateway

/-- Keys with their entries, from the least to the most recently used. -/
abbrev UseOrder (key : Type) := List (key × Entry)

namespace UseOrder

variable {key : Type}

def total : UseOrder key → Nat
  | [] => 0
  | row :: rest => row.2.size.toNat + total rest

def fit (capacity : Nat) : UseOrder key → UseOrder key
  | [] => []
  | oldest :: rest =>
    if total (oldest :: rest) ≤ capacity then oldest :: rest else fit capacity rest

def observe (rows : UseOrder key) (found : Option Entry) : Store.Observation :=
  ⟨found, rows.length, total rows, rows.isEmpty⟩

structure LongestFit (capacity : Nat) (rows kept : UseOrder key) : Prop where
  suffix : kept <:+ rows
  fits : total kept ≤ capacity
  longest : ∀ other, other <:+ rows → total other ≤ capacity → other <:+ kept

theorem total_nil : total ([] : UseOrder key) = 0 := rfl

theorem total_cons (name : key) (entry : Entry) (rest : UseOrder key) :
    total ((name, entry) :: rest) = entry.size.toNat + total rest := rfl

theorem total_perm {left right : UseOrder key} (same : left.Perm right) :
    total left = total right := by
  induction same with
  | nil => rfl
  | cons row _ ih => rw [total, total, ih]
  | swap first second rest =>
      simp only [total]
      omega
  | trans _ _ earlier later => exact earlier.trans later

theorem fit_longest (capacity : Nat) (rows : UseOrder key) :
    LongestFit capacity rows (fit capacity rows) := by
  induction rows with
  | nil =>
      exact
        { suffix := List.suffix_refl []
          fits := Nat.zero_le capacity
          longest := fun other suffix _ => suffix }
  | cons oldest rest ih =>
      rw [fit]
      by_cases fitting : total (oldest :: rest) ≤ capacity
      · rw [if_pos fitting]
        exact
          { suffix := List.suffix_refl _
            fits := fitting
            longest := fun other suffix _ => suffix }
      · rw [if_neg fitting]
        refine
          { suffix := ih.suffix.trans (List.suffix_cons oldest rest)
            fits := ih.fits
            longest := ?_ }
        intro other suffix small
        rcases List.suffix_cons_iff.mp suffix with whole | part
        · exact absurd (whole ▸ small) fitting
        · exact ih.longest other part small

variable [DecidableEq key]

def find? (rows : UseOrder key) (sought : key) : Option Entry :=
  (List.find? (fun row => row.1 = sought) rows).map Prod.snd

def without (rows : UseOrder key) (gone : key) : UseOrder key :=
  rows.filter fun row => row.1 ≠ gone

def use (rows : UseOrder key) (used : key) (entry : Entry) : UseOrder key :=
  rows.without used ++ [(used, entry)]

def get (rows : UseOrder key) (now : WallClock) (sought : key) : Option Entry × UseOrder key :=
  match rows.find? sought with
  | none => (none, rows)
  | some entry =>
    if now.milliseconds < entry.expiresAt then (some entry, rows.use sought entry)
    else (none, rows.without sought)

def apply (capacity : Nat) (rows : UseOrder key) (step : Store.Step key) :
    Option Entry × UseOrder key :=
  match step.operation with
  | .set stored entry => (none, fit capacity (rows.use stored entry))
  | .get sought => rows.get step.now sought
  | .delete gone => (none, rows.without gone)
  | .clear => (none, [])

def run (capacity : Nat) (rows : UseOrder key) (steps : List (Store.Step key)) : UseOrder key :=
  steps.foldl (fun held step => (held.apply capacity step).2) rows

def observations (capacity : Nat) (rows : UseOrder key) :
    List (Store.Step key) → List Store.Observation
  | [] => []
  | step :: rest =>
    let (found, next) := rows.apply capacity step
    next.observe found :: next.observations capacity rest

end UseOrder

end CachingGateway
