/-
What keeps an entry in the store. Above a key in the order of use stand only keys that were used after
it, each with an entry of one of its uses. So while the sizes of what is used after a key fit beside
its own entry, room is made below it, and its entry stays.
-/

import CachingGateway.Proofs.Cache.StoreRefinement
import Mathlib.Algebra.Order.BigOperators.Group.Finset

namespace CachingGateway

variable {key : Type}

namespace Store

def Step.use? (step : Step key) (found : Option Entry) : Option (key × Entry) :=
  match step.operation with
  | .set stored entry => some (stored, entry)
  | .get sought => found.map fun entry => (sought, entry)
  | .delete _ => none
  | .clear => none

def Step.Spares (kept : key) (step : Step key) : Prop :=
  match step.operation with
  | .set stored _ => stored ≠ kept
  | .get _ => True
  | .delete gone => gone ≠ kept
  | .clear => False

variable [DecidableEq key]

instance (kept : key) (step : Step key) : Decidable (step.Spares kept) :=
  match step with
  | ⟨_, .set stored _⟩ => inferInstanceAs (Decidable (stored ≠ kept))
  | ⟨_, .get _⟩ => inferInstanceAs (Decidable True)
  | ⟨_, .delete gone⟩ => inferInstanceAs (Decidable (gone ≠ kept))
  | ⟨_, .clear⟩ => inferInstanceAs (Decidable False)

def uses (store : Store key) : List (Step key) → List (key × Entry)
  | [] => []
  | step :: rest => (step.use? (store.apply step).1).toList ++ (store.apply step).2.uses rest

theorem uses_append (store : Store key) (earlier later : List (Step key)) :
    store.uses (earlier ++ later) = store.uses earlier ++ (store.run earlier).uses later := by
  induction earlier generalizing store with
  | nil => rfl
  | cons step rest ih =>
      rw [List.cons_append, uses, uses, ih, List.append_assoc]
      rfl

theorem uses_eq_seen (store : Store key) (steps : List (Step key)) :
    store.uses steps =
      (List.zipWith (fun step seen => step.use? seen.found) steps
        (store.observations steps)).reduceOption := by
  induction steps generalizing store with
  | nil => rfl
  | cons step rest ih =>
      rw [uses, ih]
      change _ = (step.use? (store.apply step).1 ::
        List.zipWith _ rest ((store.apply step).2.observations rest)).reduceOption
      cases step.use? (store.apply step).1 <;> rfl

/-! ### Sizes of what is used -/

def largestUse (used : List (key × Entry)) (name : key) : Nat :=
  (used.filter fun use => use.1 = name).foldr (fun use size => max use.2.size.toNat size) 0

/-- The largest sizes of all keys but one that are used, each key once. -/
def workingSet (used : List (key × Entry)) (kept : key) : Nat :=
  ∑ name ∈ (used.map Prod.fst).toFinset.erase kept, largestUse used name

variable {used later : List (key × Entry)} {kept : key} {entry : Entry}

theorem largestUse_le_iff {name : key} {bound : Nat} :
    largestUse used name ≤ bound ↔
      ∀ use ∈ used, use.1 = name → use.2.size.toNat ≤ bound := by
  unfold largestUse
  induction used with
  | nil => simp
  | cons use rest ih =>
      by_cases same : use.1 = name
      · rw [List.filter_cons_of_pos (by simp [same]), List.foldr_cons, Nat.max_le, ih,
          List.forall_mem_cons]
        simp [same]
      · rw [List.filter_cons_of_neg (by simp [same]), ih, List.forall_mem_cons]
        simp [same]

theorem size_le_largestUse {use : key × Entry} (member : use ∈ used) :
    use.2.size.toNat ≤ largestUse used use.1 :=
  largestUse_le_iff.mp (Nat.le_refl _) use member rfl

theorem workingSet_mono (more : used ⊆ later) (kept : key) :
    workingSet used kept ≤ workingSet later kept := by
  have larger : ∀ name, largestUse used name ≤ largestUse later name := by
    intro name
    refine largestUse_le_iff.mpr fun use member same => ?_
    subst same
    exact size_le_largestUse (more member)
  have names : (used.map Prod.fst).toFinset.erase kept ⊆ (later.map Prod.fst).toFinset.erase kept := by
    refine Finset.erase_subset_erase kept fun name member => ?_
    rw [List.mem_toFinset] at member ⊢
    exact List.map_subset Prod.fst more member
  calc workingSet used kept
      ≤ ∑ name ∈ (used.map Prod.fst).toFinset.erase kept, largestUse later name :=
        Finset.sum_le_sum fun name _ => larger name
    _ ≤ workingSet later kept := Finset.sum_le_sum_of_subset names

/-- Rows of different keys, each from a use, take no more than the working set. -/
theorem total_le_workingSet {rows : UseOrder key} (distinct : (rows.map Prod.fst).Nodup)
    (others : kept ∉ rows.map Prod.fst) (fromUses : rows ⊆ used) :
    UseOrder.total rows ≤ workingSet used kept := by
  have names : (rows.map Prod.fst).toFinset ⊆ (used.map Prod.fst).toFinset.erase kept := by
    intro name member
    rw [List.mem_toFinset] at member
    rw [Finset.mem_erase, List.mem_toFinset]
    exact ⟨fun same => others (same ▸ member), List.map_subset Prod.fst fromUses member⟩
  have counted : UseOrder.total rows ≤ ((rows.map Prod.fst).map (largestUse used)).sum := by
    -- Row by row; that the keys differ is needed only to sum over the set of them.
    clear distinct others names
    induction rows with
    | nil => exact Nat.le_refl 0
    | cons row rest ih =>
        have first := size_le_largestUse (fromUses List.mem_cons_self)
        have others := ih fun other member => fromUses (List.mem_cons_of_mem row member)
        rw [UseOrder.total, List.map_cons, List.map_cons, List.sum_cons]
        omega
  calc UseOrder.total rows ≤ ((rows.map Prod.fst).map (largestUse used)).sum := counted
    _ = ∑ name ∈ (rows.map Prod.fst).toFinset, largestUse used name :=
        (List.sum_toFinset _ distinct).symm
    _ ≤ workingSet used kept := Finset.sum_le_sum_of_subset names

end Store

/-! ### A row with its later uses above it -/

namespace UseOrder

open Store

/-- A key stands in the list with its entry, and above it only rows from some uses. -/
def Sheltered (rows : UseOrder key) (kept : key) (entry : Entry) (used : List (key × Entry)) :
    Prop :=
  ∃ below above, rows = below ++ (kept, entry) :: above ∧ above ⊆ used

variable {rows : UseOrder key} {kept : key} {entry : Entry} {used later : List (key × Entry)}
  {capacity : Nat}

theorem fit_append (front : UseOrder key) {back : UseOrder key} (fits : total back ≤ capacity) :
    ∃ left, fit capacity (front ++ back) = left ++ back := by
  obtain ⟨left, same⟩ := (fit_longest capacity (front ++ back)).longest back
    (List.suffix_append front back) fits
  exact ⟨left, same.symm⟩

theorem Sheltered.mono (sheltered : Sheltered rows kept entry used) (more : used ⊆ later) :
    Sheltered rows kept entry later := by
  obtain ⟨below, above, same, fromUses⟩ := sheltered
  exact ⟨below, above, same, fun row member => more (fromUses member)⟩

variable [DecidableEq key]

theorem nodup_keys_use (distinct : (rows.map Prod.fst).Nodup) (name : key) (entry : Entry) :
    ((rows.use name entry).map Prod.fst).Nodup := by
  have others : (rows.without name).map Prod.fst = (rows.map Prod.fst).filter (· ≠ name) := by
    rw [List.filter_map]
    rfl
  rw [use, List.map_append, others]
  refine List.nodup_append.mpr ⟨distinct.filter _, List.nodup_singleton name, ?_⟩
  intro left member right single
  rw [List.mem_singleton.mp single]
  exact of_decide_eq_true (List.mem_filter.mp member).2

theorem sheltered_use (rows : UseOrder key) (kept : key) (entry : Entry) :
    Sheltered (rows.use kept entry) kept entry [] :=
  ⟨rows.without kept, [], rfl, List.Subset.refl []⟩

namespace Sheltered

theorem without (sheltered : Sheltered rows kept entry used) {gone : key} (other : gone ≠ kept) :
    Sheltered (rows.without gone) kept entry used := by
  obtain ⟨below, above, rfl, fromUses⟩ := sheltered
  refine ⟨UseOrder.without below gone, UseOrder.without above gone, ?_, fun row member =>
    fromUses (List.mem_filter.mp member).1⟩
  rw [UseOrder.without, List.filter_append,
    List.filter_cons_of_pos (by simpa using Ne.symm other)]
  rfl

theorem use (sheltered : Sheltered rows kept entry used) {name : key} (other : name ≠ kept)
    (found : Entry) : Sheltered (rows.use name found) kept entry (used ++ [(name, found)]) := by
  obtain ⟨below, above, same, fromUses⟩ := sheltered.without other
  refine ⟨below, above ++ [(name, found)], ?_, ?_⟩
  · rw [UseOrder.use, same, List.append_assoc, List.cons_append]
  · exact List.append_subset.mpr ⟨fun row member => List.mem_append_left _ (fromUses member),
      List.subset_append_right _ _⟩

theorem fit (sheltered : Sheltered rows kept entry used) (distinct : (rows.map Prod.fst).Nodup)
    (fits : entry.size.toNat + workingSet used kept ≤ capacity) :
    Sheltered (UseOrder.fit capacity rows) kept entry used := by
  obtain ⟨below, above, rfl, fromUses⟩ := sheltered
  rw [List.map_append, List.map_cons] at distinct
  have upper := List.nodup_cons.mp (List.nodup_append.mp distinct).2.1
  have small : total above ≤ workingSet used kept :=
    total_le_workingSet upper.2 upper.1 fromUses
  have fitting : total ((kept, entry) :: above) ≤ capacity := by
    rw [total_cons]
    omega
  obtain ⟨left, same⟩ := fit_append below fitting
  exact ⟨left, above, same, fromUses⟩

theorem find? (sheltered : Sheltered rows kept entry used)
    (distinct : (rows.map Prod.fst).Nodup) : rows.find? kept = some entry := by
  obtain ⟨below, above, rfl, _⟩ := sheltered
  rw [List.map_append, List.map_cons] at distinct
  have absent : List.find? (fun row => row.1 = kept) below = none := by
    refine List.find?_eq_none.mpr fun row member same => ?_
    have apart := (List.nodup_append.mp distinct).2.2 row.1 (List.mem_map_of_mem member) kept
      List.mem_cons_self
    exact apart (of_decide_eq_true same)
  rw [UseOrder.find?, List.find?_append, absent, Option.none_or,
    List.find?_cons_of_pos (by simp)]
  rfl

/-- A step that spares a key keeps it above all that is not used after it. -/
theorem apply (sheltered : Sheltered rows kept entry used)
    (distinct : (rows.map Prod.fst).Nodup) {step : Step key} (spared : step.Spares kept)
    (fresh : step.operation = .get kept → step.now.milliseconds < entry.expiresAt)
    (fits : entry.size.toNat +
      workingSet (used ++ (step.use? (rows.apply capacity step).1).toList) kept ≤ capacity) :
    Sheltered (rows.apply capacity step).2 kept entry
      (used ++ (step.use? (rows.apply capacity step).1).toList) := by
  obtain ⟨now, operation⟩ := step
  cases operation with
  | set stored written => exact (sheltered.use spared written).fit (nodup_keys_use distinct _ _) fits
  | get sought =>
      have held := sheltered.find? distinct
      change Sheltered (rows.get now sought).2 kept entry
        (used ++ ((rows.get now sought).1.map fun found => (sought, found)).toList)
      unfold UseOrder.get
      cases found : rows.find? sought with
      | none => exact sheltered.mono (List.subset_append_left _ _)
      | some other =>
          by_cases living : now.milliseconds < other.expiresAt
          · simp only [if_pos living]
            by_cases same : sought = kept
            · subst same
              rw [held] at found
              cases found
              exact (sheltered_use rows sought entry).mono (List.nil_subset _)
            · exact sheltered.use same other
          · -- The key itself is not found expired, so another one leaves.
            have apart : sought ≠ kept := by
              rintro rfl
              rw [held] at found
              cases found
              exact living (fresh rfl)
            simp only [if_neg living]
            exact (sheltered.without apart).mono (List.subset_append_left _ _)
  | delete gone => exact (sheltered.without spared).mono (List.subset_append_left _ _)
  | clear => exact spared.elim

end Sheltered

theorem sheltered_of_use {step : Step key}
    (uses : step.use? (rows.apply capacity step).1 = some (kept, entry))
    (small : entry.size.toNat ≤ capacity) :
    Sheltered (rows.apply capacity step).2 kept entry [] := by
  obtain ⟨now, operation⟩ := step
  cases operation with
  | set stored written =>
      cases Option.some.inj uses
      have fitting : total [(kept, entry)] ≤ capacity := by
        rw [total_cons, total_nil]
        omega
      obtain ⟨left, same⟩ := fit_append (rows.without kept) fitting
      exact ⟨left, [], same, List.Subset.refl []⟩
  | get sought =>
      obtain ⟨found, answered, named⟩ := Option.map_eq_some_iff.mp uses
      cases named
      change (rows.get now kept).1 = some entry at answered
      change Sheltered (rows.get now kept).2 kept entry []
      unfold UseOrder.get at answered ⊢
      cases held : rows.find? kept with
      | none =>
          rw [held] at answered
          cases answered
      | some other =>
          simp only [held] at answered ⊢
          by_cases living : now.milliseconds < other.expiresAt
          · simp only [if_pos living, Option.some.injEq] at answered ⊢
            rw [answered]
            exact sheltered_use rows kept entry
          · simp only [if_neg living] at answered
            cases answered
  | delete gone => cases uses
  | clear => cases uses

end UseOrder

/-! ### Runs -/

namespace Store

variable [DecidableEq key] {maxSize : UInt64} {store : Store key} {kept : key} {entry : Entry}
  {used : List (key × Entry)}

open UseOrder

theorem Settled.sheltered_run (settled : Settled maxSize store)
    (sheltered : Sheltered store.contents kept entry used) (steps : List (Step key))
    (room : ∀ step ∈ steps, step.operation.Fits maxSize)
    (spared : ∀ step ∈ steps, step.Spares kept)
    (fresh : ∀ step ∈ steps, step.operation = .get kept → step.now.milliseconds < entry.expiresAt)
    (fits : entry.size.toNat + workingSet (used ++ store.uses steps) kept ≤ maxSize.toNat) :
    Sheltered (store.run steps).contents kept entry (used ++ store.uses steps) := by
  induction steps generalizing store used with
  | nil => exact sheltered.mono (List.subset_append_left _ _)
  | cons step rest ih =>
      have first := room step List.mem_cons_self
      obtain ⟨answered, left⟩ := settled.apply_eq step first
      -- What the step uses passes from the uses ahead to those that may stand above the key.
      rw [uses, ← List.append_assoc] at fits ⊢
      have next : Sheltered (store.apply step).2.contents kept entry
          (used ++ (step.use? (store.apply step).1).toList) := by
        rw [answered, left]
        refine sheltered.apply settled.consistent.contents_keys_nodup (spared step List.mem_cons_self)
          (fresh step List.mem_cons_self) ?_
        rw [← answered]
        refine Nat.le_trans (Nat.add_le_add_left ?_ _) fits
        exact workingSet_mono (List.subset_append_left _ _) kept
      have member : ∀ {other}, other ∈ rest → other ∈ step :: rest :=
        List.mem_cons_of_mem step
      exact ih (settled.apply step first) next (fun other later => room other (member later))
        (fun other later => spared other (member later))
        (fun other later => fresh other (member later)) fits

/-- What a step uses is held after the steps that follow, when its working set among them fits. -/
theorem Settled.find?_after_use (settled : Settled maxSize store) {first : Step key}
    {steps : List (Step key)} (room : ∀ step ∈ first :: steps, step.operation.Fits maxSize)
    (used : first.use? (store.apply first).1 = some (kept, entry))
    (spared : ∀ step ∈ steps, step.Spares kept)
    (fresh : ∀ step ∈ steps, step.operation = .get kept → step.now.milliseconds < entry.expiresAt)
    (fits : entry.size.toNat + workingSet ((store.apply first).2.uses steps) kept ≤
      maxSize.toNat) :
    (store.run (first :: steps)).entries.find? kept = some entry := by
  have firstRoom := room first List.mem_cons_self
  have laterRoom : ∀ step ∈ steps, step.operation.Fits maxSize :=
    fun step member => room step (List.mem_cons_of_mem first member)
  obtain ⟨answered, left⟩ := settled.apply_eq first firstRoom
  have start : Sheltered (store.apply first).2.contents kept entry [] := by
    rw [left]
    rw [answered] at used
    exact sheltered_of_use used (by omega)
  have next := settled.apply first firstRoom
  have sheltered := next.sheltered_run start steps laterRoom spared fresh fits
  have consistent := (next.run steps laterRoom).consistent
  change ((store.apply first).2.run steps).entries.find? kept = some entry
  rw [← consistent.find?_contents]
  exact sheltered.find? consistent.contents_keys_nodup

/-- A key that is written or found stays with its entry while it is neither written again nor deleted
nor cleared, as long as the largest sizes of all keys used since fit beside it and it is not read
after it expired. A read in that time finds that very entry. -/
theorem kept_within_working_set (maxSize : UInt64) (earlier stretch : List (Step key))
    (first : Step key) (kept : key) (entry : Entry)
    (room : ∀ step ∈ earlier ++ first :: stretch, step.operation.Fits maxSize)
    (used : first.use? (((empty maxSize : Store key).run earlier).apply first).1 =
      some (kept, entry))
    (spared : ∀ step ∈ stretch, step.Spares kept)
    (fits : entry.size.toNat +
      workingSet (((empty maxSize : Store key).run (earlier ++ [first])).uses stretch) kept ≤
        maxSize.toNat) :
    ∀ before after, stretch = before ++ after →
      (∀ step ∈ before, step.operation = .get kept → step.now.milliseconds < entry.expiresAt) →
        let store := (empty maxSize : Store key).run (earlier ++ first :: before)
        store.entries.find? kept = some entry ∧
          ∀ now : WallClock, now.milliseconds < entry.expiresAt →
            (store.get now kept).1 = some entry := by
  rintro before after rfl fresh store
  rw [run_append, uses_append] at fits
  have settled := (settled_empty maxSize).run earlier fun step member =>
    room step (List.mem_append_left _ member)
  have held : store.entries.find? kept = some entry := by
    rw [show store = ((empty maxSize : Store key).run earlier).run (first :: before) from
      run_append _ _ _]
    refine settled.find?_after_use ?_ used (fun step member => ?_) fresh ?_
    · intro step member
      refine room step (List.mem_append_right _ ?_)
      rw [← List.cons_append]
      exact List.mem_append_left _ member
    · exact spared step (List.mem_append_left _ member)
    · -- What is used up to here is part of what is used in the whole stretch.
      refine Nat.le_trans (Nat.add_le_add_left ?_ _) fits
      exact workingSet_mono (List.subset_append_left _ _) kept
  exact ⟨held, fun now living => get_eq_some_iff.mpr ⟨held, living⟩⟩

def busyStretch : List (Step String) :=
  let moment (milliseconds : Int) (operation : Operation String) : Step String :=
    ⟨⟨milliseconds * 1000000⟩, operation⟩
  [moment 1 (.set "b" (bareEntry 12 90)), moment 2 (.get "b"), moment 3 (.set "b" (bareEntry 9 90)),
    moment 4 (.set "c" (bareEntry 8 5)), moment 6 (.get "c"), moment 7 (.get "a"), moment 8 (.delete "b"),
    moment 9 (.set "c" (bareEntry 6 90))]

/-- An entry of ten stays in a store of thirty that was full before it, while twelve and eight are
used after it. -/
theorem kept_within_working_set_busy :
    let earlier : List (Step String) := [⟨⟨0⟩, .set "x" (bareEntry 25 90)⟩]
    let first : Step String := ⟨⟨0⟩, .set "a" (bareEntry 10 50)⟩
    (∀ step ∈ earlier ++ first :: busyStretch, step.operation.Fits 30) ∧
      workingSet (((empty 30 : Store String).run (earlier ++ [first])).uses busyStretch) "a" = 20 ∧
      let store := (empty 30 : Store String).run (earlier ++ first :: busyStretch)
      store.entries.find? "a" = some (bareEntry 10 50) ∧
        ∀ now : WallClock, now.milliseconds < 50 →
          (store.get now "a").1 = some (bareEntry 10 50) := by
  intro earlier first
  have room : ∀ step ∈ earlier ++ first :: busyStretch, step.operation.Fits 30 := by decide
  have settled : Settled 30 ((empty 30 : Store String).run (earlier ++ [first])) :=
    (settled_empty 30).run _ (by decide)
  have twenty : workingSet (((empty 30 : Store String).run (earlier ++ [first])).uses busyStretch)
      "a" = 20 := by
    rw [uses_eq_seen, settled.observations_eq busyStretch (by decide),
      (settled_empty 30).contents_run _ (by decide)]
    decide
  have early : ∀ step ∈ busyStretch, step.now.milliseconds < 50 := by decide
  exact ⟨room, twenty, kept_within_working_set 30 earlier busyStretch first "a" (bareEntry 10 50) room
    rfl (by decide) (by rw [twenty]; decide) busyStretch [] (List.append_nil _).symm
    fun step member _ => early step member⟩

end Store

end CachingGateway
