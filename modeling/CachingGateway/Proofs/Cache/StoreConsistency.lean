/-
The entries, the order of use and the accounted size of a store agree. Each operation keeps the
agreement, and so does each pass of the loop that makes room after a write; from it follow that no
size is taken off that was not counted, and that the loop ends because the rest fits and never because
nothing is left to evict.
-/

import CachingGateway.Proofs.Cache.RecencyOrder
import CachingGateway.Proofs.Cache.StoreLookup
import CachingGateway.Proofs.Cache.UseOrder
import Mathlib.Logic.Relation

namespace CachingGateway.Store

variable {key : Type} [DecidableEq key]

/-- The three structures of a store hold the same keys, and its size is the sum of the sizes held. -/
structure Consistent (store : Store key) : Prop where
  aligned : store.recency.Aligned
  entriesDistinct : store.entries.keys.Nodup
  tracked : ∀ name, name ∈ store.recency.toList ↔ name ∈ store.entries.keys
  accounted : store.size.toNat = UseOrder.total store.entries.rows

def Pass (before after : Store key) : Prop :=
  before.maxSize < before.size ∧ ∃ oldest rest,
    before.recency.evictOldest = some (oldest, rest) ∧ after = before.forget oldest rest

theorem consistent_empty (maxSize : UInt64) : (empty maxSize : Store key).Consistent where
  aligned := Recency.aligned_empty
  entriesDistinct := List.nodup_nil
  tracked := fun _ => Iff.rfl
  accounted := rfl

theorem consistent_clear (store : Store key) : store.clear.Consistent where
  aligned := Recency.aligned_clear store.recency
  entriesDistinct := List.nodup_nil
  tracked := fun _ => Iff.rfl
  accounted := rfl

namespace Consistent

variable {store : Store key}

theorem accounted_of_find? (consistent : store.Consistent) {name : key} {entry : Entry}
    (found : store.entries.find? name = some entry) :
    store.size.toNat = entry.size.toNat + UseOrder.total (store.entries.erase name).rows := by
  have moved := Table.rows_perm_of_find? consistent.entriesDistinct found
  rw [consistent.accounted, UseOrder.total_perm moved, UseOrder.total_cons]

theorem size_le_of_find? (consistent : store.Consistent) {name : key} {entry : Entry}
    (found : store.entries.find? name = some entry) : entry.size ≤ store.size := by
  have counted := consistent.accounted_of_find? found
  rw [UInt64.le_iff_toNat_le]
  omega

theorem mem_toList_iff (consistent : store.Consistent) (name : key) :
    name ∈ store.recency.toList ↔ ∃ entry, store.entries.find? name = some entry := by
  rw [consistent.tracked, Table.mem_keys_iff]

private theorem leave (consistent : store.Consistent) {gone : key} {entry : Entry}
    (found : store.entries.find? gone = some entry) {recency : Recency key}
    (aligned : recency.Aligned)
    (others : ∀ name, name ∈ recency.toList ↔ name ≠ gone ∧ name ∈ store.recency.toList) :
    ({ store with
        entries := store.entries.erase gone
        recency := recency
        size := store.size - entry.size } : Store key).Consistent where
  aligned := aligned
  entriesDistinct := Table.nodup_keys_erase consistent.entriesDistinct gone
  tracked := by
    intro name
    change name ∈ recency.toList ↔ name ∈ (store.entries.erase gone).keys
    rw [others, consistent.tracked, Table.keys_erase, List.mem_filter, decide_eq_true_iff,
      and_comm]
  accounted := by
    have counted := consistent.accounted_of_find? found
    change (store.size - entry.size).toNat = _
    rw [UInt64.toNat_sub_of_le _ _ (consistent.size_le_of_find? found), counted]
    exact Nat.add_sub_cancel_left _ _

theorem delete (consistent : store.Consistent) (gone : key) : (store.delete gone).Consistent := by
  unfold Store.delete
  cases found : store.entries.find? gone with
  | none => exact consistent
  | some entry =>
      refine consistent.leave found (consistent.aligned.remove gone) fun name => ?_
      rw [consistent.aligned.toList_remove, List.mem_filter, decide_eq_true_iff, and_comm]

theorem touch (consistent : store.Consistent) {used : key} {entry : Entry}
    (found : store.entries.find? used = some entry) :
    ({ store with recency := store.recency.touch used } : Store key).Consistent :=
  { consistent with
    aligned := consistent.aligned.touch used
    tracked := by
      intro name
      change name ∈ (store.recency.touch used).toList ↔ name ∈ store.entries.keys
      rw [consistent.aligned.toList_touch, List.mem_append, List.mem_singleton, List.mem_filter,
        decide_eq_true_iff, consistent.tracked]
      have held := (Table.mem_keys_iff store.entries used).mpr ⟨entry, found⟩
      constructor
      · rintro (⟨member, _⟩ | rfl)
        · exact member
        · exact held
      · intro member
        by_cases same : name = used
        · exact Or.inr same
        · exact Or.inl ⟨member, same⟩ }

theorem get (consistent : store.Consistent) (now : WallClock) (sought : key) :
    (store.get now sought).2.Consistent := by
  unfold Store.get
  cases found : store.entries.find? sought with
  | none => exact consistent
  | some entry =>
      by_cases expired : entry.isExpired now = true
      · simp only [if_pos expired]
        exact consistent.delete sought
      · simp only [if_neg expired]
        exact consistent.touch found

/-- Before room is made, the size may pass the capacity, but it stays a word. -/
theorem insert (consistent : store.Consistent) (stored : key) (entry : Entry)
    (room : store.size.toNat + entry.size.toNat < UInt64.size) :
    (store.insert stored entry).Consistent where
  aligned := consistent.aligned.touch stored
  entriesDistinct := Table.nodup_keys_insert consistent.entriesDistinct stored entry
  tracked := by
    intro name
    change name ∈ (store.recency.touch stored).toList ↔
      name ∈ (store.entries.insert stored entry).keys
    rw [consistent.aligned.toList_touch, List.mem_append, List.mem_singleton, List.mem_filter,
      decide_eq_true_iff, consistent.mem_toList_iff, Table.mem_keys_iff, Table.find?_insert]
    by_cases same : name = stored
    · simp only [same, ne_eq, not_true_eq_false, and_false, or_true, if_true, Option.some.injEq,
        exists_eq']
    · simp only [same, ne_eq, not_false_eq_true, and_true, or_false, if_false]
  accounted := by
    have moved := Table.insert_rows_perm consistent.entriesDistinct stored entry
    have sum := UseOrder.total_perm moved
    rw [UseOrder.total_cons] at sum
    unfold Store.insert
    cases found : store.entries.find? stored with
    | none =>
        change (store.size - 0 + entry.size).toNat = _
        have counted := consistent.accounted
        rw [Table.erase_of_find?_none found] at sum
        rw [UInt64.sub_zero, UInt64.toNat_add, Nat.mod_eq_of_lt room, sum]
        omega
    | some old =>
        change (store.size - old.size + entry.size).toNat = _
        have counted := consistent.accounted_of_find? found
        have less : store.size.toNat - old.size.toNat + entry.size.toNat < UInt64.size := by
          omega
        rw [UInt64.toNat_add, UInt64.toNat_sub_of_le _ _ (consistent.size_le_of_find? found),
          Nat.mod_eq_of_lt less, sum]
        omega

/-- While the size is too large there is an oldest key, it is held, and its size was counted. -/
theorem evictable (consistent : store.Consistent) (tooLarge : store.maxSize < store.size) :
    ∃ oldest rest entry, store.recency.evictOldest = some (oldest, rest) ∧
      store.entries.find? oldest = some entry ∧ entry.size ≤ store.size := by
  cases evicted : store.recency.evictOldest with
  | none =>
      -- Nothing is tracked, so nothing is held, and the size is zero.
      have untracked := (Recency.evictOldest_eq_none_iff store.recency).mp evicted
      have unheld : store.entries.keys = [] := by
        refine List.eq_nil_iff_forall_not_mem.mpr fun name member => ?_
        have tracked := (consistent.tracked name).mpr member
        rw [untracked] at tracked
        cases tracked
      have counted := consistent.accounted
      rw [List.map_eq_nil_iff.mp unheld, UseOrder.total_nil] at counted
      rw [UInt64.lt_iff_toNat_lt, counted] at tooLarge
      exact absurd tooLarge (Nat.not_lt_zero _)
  | some pair =>
      obtain ⟨oldest, rest⟩ := pair
      have listed := Recency.toList_of_evictOldest evicted
      obtain ⟨entry, found⟩ := (consistent.mem_toList_iff oldest).mp
        (listed ▸ List.mem_cons_self)
      exact ⟨oldest, rest, entry, rfl, found, consistent.size_le_of_find? found⟩

theorem forget (consistent : store.Consistent) {oldest : key} {rest : Recency key}
    (evicted : store.recency.evictOldest = some (oldest, rest)) :
    (store.forget oldest rest).Consistent := by
  have listed := Recency.toList_of_evictOldest evicted
  obtain ⟨entry, found⟩ := (consistent.mem_toList_iff oldest).mp (listed ▸ List.mem_cons_self)
  have split := List.nodup_cons.mp (listed ▸ consistent.aligned.distinct)
  simp only [Store.forget, found]
  refine consistent.leave found (consistent.aligned.evictOldest evicted) fun name => ?_
  rw [listed, List.mem_cons]
  constructor
  · intro member
    exact ⟨fun same => split.1 (same ▸ member), Or.inr member⟩
  · rintro ⟨other, same | member⟩
    · exact absurd same other
    · exact member

theorem passes (consistent : store.Consistent) {between : Store key}
    (reached : Relation.ReflTransGen Pass store between) : between.Consistent := by
  induction reached with
  | refl => exact consistent
  | tail _ pass ih =>
      obtain ⟨_, oldest, rest, evicted, rfl⟩ := pass
      exact ih.forget evicted

end Consistent

/-! ### Making room -/

theorem forget_maxSize (store : Store key) (evicted : key) (recency : Recency key) :
    (store.forget evicted recency).maxSize = store.maxSize := by
  unfold forget
  split <;> rfl

/-- The loop is a run of passes, and it stops where the rest fits. -/
theorem shrink_spec {store : Store key} (consistent : store.Consistent) :
    Relation.ReflTransGen Pass store store.shrink ∧ store.shrink.size ≤ store.maxSize := by
  induction store using shrink.induct with
  | case1 store tooLarge none =>
      obtain ⟨oldest, rest, _, evicted, _⟩ := consistent.evictable tooLarge
      rw [none] at evicted
      cases evicted
  | case2 store tooLarge oldest rest evicted ih =>
      have later := ih (consistent.forget evicted)
      rw [shrink_of_evicted tooLarge evicted]
      rw [forget_maxSize] at later
      exact ⟨later.1.head ⟨tooLarge, oldest, rest, evicted, rfl⟩, later.2⟩
  | case3 store fitting =>
      rw [shrink_of_fitting fitting]
      exact ⟨Relation.ReflTransGen.refl, UInt64.not_lt.mp fitting⟩

theorem shrink_maxSize (store : Store key) : store.shrink.maxSize = store.maxSize := by
  induction store using shrink.induct with
  | case1 store tooLarge none => rw [shrink_of_stuck none]
  | case2 store tooLarge oldest rest evicted ih =>
      rw [shrink_of_evicted tooLarge evicted, ih, forget_maxSize]
  | case3 store fitting => rw [shrink_of_fitting fitting]

/-! ### Runs -/

/-- What holds between any two operations. -/
structure Settled (maxSize : UInt64) (store : Store key) : Prop where
  consistent : store.Consistent
  capacity : store.maxSize = maxSize
  within : store.size ≤ maxSize

theorem settled_empty (maxSize : UInt64) : Settled maxSize (empty maxSize : Store key) where
  consistent := consistent_empty maxSize
  capacity := rfl
  within := UInt64.zero_le

namespace Settled

variable {maxSize : UInt64} {store : Store key}

theorem delete (settled : Settled maxSize store) (gone : key) :
    Settled maxSize (store.delete gone) where
  consistent := settled.consistent.delete gone
  capacity := by
    rw [← settled.capacity]
    unfold Store.delete
    cases store.entries.find? gone <;> rfl
  within := by
    unfold Store.delete
    cases found : store.entries.find? gone with
    | none => exact settled.within
    | some entry =>
        have counted := settled.consistent.size_le_of_find? found
        have within := settled.within
        rw [UInt64.le_iff_toNat_le] at within ⊢
        rw [UInt64.toNat_sub_of_le _ _ counted]
        omega

theorem get (settled : Settled maxSize store) (now : WallClock) (sought : key) :
    Settled maxSize (store.get now sought).2 := by
  have consistent := settled.consistent.get now sought
  unfold Store.get at consistent ⊢
  cases found : store.entries.find? sought with
  | none => exact settled
  | some entry =>
      simp only [found] at consistent ⊢
      by_cases expired : entry.isExpired now = true
      · simp only [if_pos expired]
        exact settled.delete sought
      · simp only [if_neg expired] at consistent ⊢
        exact ⟨consistent, settled.capacity, settled.within⟩

theorem insert (settled : Settled maxSize store) {stored : key} {entry : Entry}
    (room : (Operation.set stored entry).Fits maxSize) :
    (store.insert stored entry).Consistent := by
  refine settled.consistent.insert stored entry (Nat.lt_of_le_of_lt ?_ room)
  have within := UInt64.le_iff_toNat_le.mp settled.within
  omega

theorem set (settled : Settled maxSize store) {stored : key} {entry : Entry}
    (room : (Operation.set stored entry).Fits maxSize) :
    Settled maxSize (store.set stored entry) := by
  have shrunk := shrink_spec (settled.insert room)
  exact
    { consistent := (settled.insert room).passes shrunk.1
      capacity := (shrink_maxSize _).trans settled.capacity
      within := Eq.subst (motive := fun bound => (store.set stored entry).size ≤ bound)
        settled.capacity shrunk.2 }

theorem apply (settled : Settled maxSize store) (step : Step key)
    (room : step.operation.Fits maxSize) : Settled maxSize (store.apply step).2 := by
  obtain ⟨now, operation⟩ := step
  cases operation with
  | set stored entry => exact settled.set room
  | get sought => exact settled.get now sought
  | delete gone => exact settled.delete gone
  | clear => exact ⟨consistent_clear store, settled.capacity, UInt64.zero_le⟩

theorem run (settled : Settled maxSize store) (steps : List (Step key))
    (room : ∀ step ∈ steps, step.operation.Fits maxSize) : Settled maxSize (store.run steps) := by
  induction steps generalizing store with
  | nil => exact settled
  | cons step rest ih =>
      exact ih (settled.apply step (room step List.mem_cons_self))
        fun other member => room other (List.mem_cons_of_mem step member)

end Settled

/-- After every run the structures of the store agree and its size is within its capacity, so that
taking off the size of an entry that leaves or is replaced never goes below zero. A further write
makes room by finitely many passes and then needs none; they agree as well, and while the size is too
large each finds an entry to evict whose size was counted. -/
theorem consistent_after_run (maxSize : UInt64) (steps : List (Step key))
    (room : ∀ step ∈ steps, step.operation.Fits maxSize) :
    let store := (empty maxSize : Store key).run steps
    store.Consistent ∧
      (∀ name, name ∈ store.recency.ticks.keys ↔ name ∈ store.entries.keys) ∧
      store.size ≤ maxSize ∧
      (∀ name entry, store.entries.find? name = some entry → entry.size ≤ store.size) ∧
      ∀ stored entry, (Operation.set stored entry).Fits maxSize →
        Relation.ReflTransGen Pass (store.insert stored entry) (store.set stored entry) ∧
          (store.set stored entry).size ≤ maxSize ∧
          (∀ after, ¬Pass (store.set stored entry) after) ∧
          ∀ between, Relation.ReflTransGen Pass (store.insert stored entry) between →
            between.Consistent ∧
              (between.maxSize < between.size → ∃ oldest rest evicted,
                between.recency.evictOldest = some (oldest, rest) ∧
                  between.entries.find? oldest = some evicted ∧ evicted.size ≤ between.size) := by
  intro store
  have settled : Settled maxSize store := (settled_empty maxSize).run steps room
  have consistent := settled.consistent
  refine ⟨consistent, ?_, settled.within, ?_, ?_⟩
  · intro name
    rw [consistent.aligned.mem_ticks_keys_iff, consistent.tracked]
  · intro name entry found
    exact consistent.size_le_of_find? found
  · intro stored entry fits
    have written := settled.set fits
    refine ⟨(shrink_spec (settled.insert fits)).1, written.within, ?_, ?_⟩
    · rintro after ⟨tooLarge, _⟩
      rw [written.capacity] at tooLarge
      exact UInt64.not_lt.mpr written.within tooLarge
    · intro between reached
      have agreeing := (settled.insert fits).passes reached
      exact ⟨agreeing, agreeing.evictable⟩

theorem consistent_after_crowdedRun :
    (∀ step ∈ crowdedRun, step.operation.Fits 30) ∧
      ((empty 30 : Store String).run crowdedRun).Consistent ∧
      ((empty 30 : Store String).run crowdedRun).size ≤ 30 := by
  have room : ∀ step ∈ crowdedRun, step.operation.Fits 30 := by decide
  obtain ⟨consistent, _, within, _⟩ := consistent_after_run 30 crowdedRun room
  exact ⟨room, consistent, within⟩

end CachingGateway.Store
