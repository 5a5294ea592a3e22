/-
The order of use as a list of keys. Under an invariant that ties the two indexes of `Recency` to each
other, a use moves a key to the end of the list, a removal takes it out, and an eviction takes the
head. No operation looks at the list: each reaches its row through a tick.
-/

import CachingGateway.Cache.Recency
import CachingGateway.Proofs.Data.TableLaws

namespace CachingGateway.Recency

variable {key : Type} [DecidableEq key]

/-- The two indexes are inverse to each other, and all ticks handed out lie before the clock. -/
structure Aligned (recency : Recency key) : Prop where
  /-- Ticks rise from the least to the most recently used key, so none occurs twice. -/
  ascending : recency.order.Pairwise fun earlier later => earlier.1 < later.1
  past : ∀ row ∈ recency.order, row.1 < recency.clock
  distinct : recency.toList.Nodup
  ticksDistinct : recency.ticks.keys.Nodup
  inverse : ∀ tick name, recency.ticks.find? name = some tick ↔ (tick, name) ∈ recency.order

theorem aligned_empty : (empty : Recency key).Aligned where
  ascending := List.Pairwise.nil
  past := by intro row impossible; cases impossible
  distinct := List.nodup_nil
  ticksDistinct := List.nodup_nil
  inverse := by
    intro tick name
    constructor <;> intro impossible <;> cases impossible

omit [DecidableEq key] in
theorem place_of_past (tick : Nat) (used : key) (order : List (Nat × key))
    (past : ∀ row ∈ order, row.1 < tick) : place tick used order = order ++ [(tick, used)] := by
  induction order with
  | nil => rfl
  | cons head rest ih =>
      have before := past head List.mem_cons_self
      rw [place, if_neg (Nat.lt_asymm before),
        ih fun row member => past row (List.mem_cons_of_mem head member), List.cons_append]

namespace Aligned

variable {recency : Recency key}

theorem mem_toList_iff (aligned : recency.Aligned) (name : key) :
    name ∈ recency.toList ↔ ∃ tick, recency.ticks.find? name = some tick := by
  constructor
  · intro member
    obtain ⟨⟨tick, used⟩, inOrder, rfl⟩ := List.mem_map.mp member
    exact ⟨tick, (aligned.inverse tick used).mpr inOrder⟩
  · rintro ⟨tick, found⟩
    exact List.mem_map.mpr ⟨(tick, name), (aligned.inverse tick name).mp found, rfl⟩

theorem mem_ticks_keys_iff (aligned : recency.Aligned) (name : key) :
    name ∈ recency.ticks.keys ↔ name ∈ recency.toList := by
  rw [Table.mem_keys_iff, aligned.mem_toList_iff]

theorem key_unique (aligned : recency.Aligned) {tick : Nat} {left right : key}
    (atLeft : (tick, left) ∈ recency.order) (atRight : (tick, right) ∈ recency.order) :
    left = right := by
  have distinct : (recency.order.map Prod.fst).Nodup :=
    List.Pairwise.map Prod.fst (fun _ _ before => Nat.ne_of_lt before) aligned.ascending
  exact congrArg Prod.snd (List.inj_on_of_nodup_map distinct atLeft atRight rfl)

theorem dropTick_order (aligned : recency.Aligned) {used : key} {tick : Nat}
    (found : recency.ticks.find? used = some tick) :
    dropTick tick recency.order = recency.order.filter fun row => row.2 ≠ used := by
  refine List.filter_congr fun row member => decide_eq_decide.mpr (not_congr ?_)
  obtain ⟨time, name⟩ := row
  constructor
  · rintro rfl
    exact aligned.key_unique member ((aligned.inverse time used).mp found)
  · rintro rfl
    have same := ((aligned.inverse time name).mpr member).symm.trans found
    exact Option.some.inj same

theorem filter_order_of_absent (aligned : recency.Aligned) {used : key}
    (absent : recency.ticks.find? used = none) :
    recency.order.filter (fun row => row.2 ≠ used) = recency.order := by
  refine List.filter_eq_self.mpr fun row member => decide_eq_true ?_
  rintro rfl
  rw [(aligned.inverse row.1 row.2).mpr member] at absent
  cases absent

theorem order_touch (aligned : recency.Aligned) (used : key) :
    (recency.touch used).order =
      (recency.order.filter fun row => row.2 ≠ used) ++ [(recency.clock, used)] := by
  have placed (others : List (Nat × key)) (part : others ⊆ recency.order) :
      place recency.clock used others = others ++ [(recency.clock, used)] :=
    place_of_past _ _ _ fun row member => aligned.past row (part member)
  unfold touch
  cases found : recency.ticks.find? used with
  | none =>
      rw [aligned.filter_order_of_absent found]
      exact placed recency.order (List.Subset.refl _)
  | some tick =>
      rw [← aligned.dropTick_order found]
      exact placed (dropTick tick recency.order) (List.filter_subset_self _)

theorem order_remove (aligned : recency.Aligned) (gone : key) :
    (recency.remove gone).order = recency.order.filter fun row => row.2 ≠ gone := by
  unfold remove
  cases found : recency.ticks.find? gone with
  | none => exact (aligned.filter_order_of_absent found).symm
  | some tick => exact aligned.dropTick_order found

theorem ticks_remove (recency : Recency key) (gone : key) :
    (recency.remove gone).ticks = recency.ticks.erase gone := by
  unfold remove
  cases found : recency.ticks.find? gone with
  | none => exact (Table.erase_of_find?_none found).symm
  | some tick => rfl

theorem toList_touch (aligned : recency.Aligned) (used : key) :
    (recency.touch used).toList = (recency.toList.filter fun name => name ≠ used) ++ [used] := by
  simp only [toList, aligned.order_touch, List.map_append, List.filter_map, Function.comp_def,
    List.map_cons, List.map_nil]

theorem toList_remove (aligned : recency.Aligned) (gone : key) :
    (recency.remove gone).toList = recency.toList.filter fun name => name ≠ gone := by
  simp only [toList, aligned.order_remove, List.filter_map, Function.comp_def]

theorem touch (aligned : recency.Aligned) (used : key) : (recency.touch used).Aligned where
  ascending := by
    rw [aligned.order_touch]
    refine List.pairwise_append.mpr ⟨aligned.ascending.filter _, List.pairwise_singleton _ _, ?_⟩
    intro row member last atEnd
    rw [List.mem_singleton.mp atEnd]
    exact aligned.past row (List.mem_filter.mp member).1
  past := by
    intro row member
    rw [aligned.order_touch] at member
    change row.1 < recency.clock + 1
    rcases List.mem_append.mp member with before | atEnd
    · exact Nat.lt_succ_of_lt (aligned.past row (List.mem_filter.mp before).1)
    · rw [List.mem_singleton.mp atEnd]
      exact Nat.lt_succ_self recency.clock
  distinct := by
    rw [aligned.toList_touch]
    refine List.nodup_append.mpr ⟨aligned.distinct.filter _, List.nodup_singleton used, ?_⟩
    intro name member last atEnd
    rw [List.mem_singleton.mp atEnd]
    exact of_decide_eq_true (List.mem_filter.mp member).2
  ticksDistinct := Table.nodup_keys_insert aligned.ticksDistinct used recency.clock
  inverse := by
    intro tick name
    rw [aligned.order_touch, List.mem_append, List.mem_singleton, Prod.mk.injEq]
    change (recency.ticks.insert used recency.clock).find? name = some tick ↔ _
    rw [Table.find?_insert]
    by_cases same : name = used
    · subst same
      simp only [if_true, Option.some.injEq, List.mem_filter, ne_eq, not_true_eq_false,
        decide_false, Bool.false_eq_true, and_false, false_or, and_true, eq_comm]
    · rw [if_neg same, aligned.inverse]
      simp only [List.mem_filter, ne_eq, same, not_false_eq_true, decide_true, and_true,
        and_false, or_false]

theorem remove (aligned : recency.Aligned) (gone : key) : (recency.remove gone).Aligned where
  ascending := by
    rw [aligned.order_remove]
    exact aligned.ascending.filter _
  past := by
    intro row member
    rw [aligned.order_remove] at member
    have clock : (recency.remove gone).clock = recency.clock := by
      unfold Recency.remove
      cases recency.ticks.find? gone <;> rfl
    rw [clock]
    exact aligned.past row (List.mem_filter.mp member).1
  distinct := by
    rw [aligned.toList_remove]
    exact aligned.distinct.filter _
  ticksDistinct := by
    rw [ticks_remove]
    exact Table.nodup_keys_erase aligned.ticksDistinct gone
  inverse := by
    intro tick name
    rw [aligned.order_remove, ticks_remove, Table.find?_erase, List.mem_filter]
    by_cases same : name = gone
    · rw [if_pos same]
      simp only [reduceCtorEq, same, ne_eq, not_true_eq_false, decide_false, Bool.false_eq_true,
        and_false]
    · rw [if_neg same, aligned.inverse]
      simp only [ne_eq, same, not_false_eq_true, decide_true, and_true]

end Aligned

theorem aligned_clear (recency : Recency key) : recency.clear.Aligned :=
  { aligned_empty with past := by intro row impossible; cases impossible }

/-! ### Eviction -/

theorem evictOldest_eq_none_iff (recency : Recency key) :
    recency.evictOldest = none ↔ recency.toList = [] := by
  unfold evictOldest toList
  cases recency.order with
  | nil => simp only [List.map_nil]
  | cons oldest rest => simp only [List.map_cons, reduceCtorEq]

theorem toList_of_evictOldest {recency rest : Recency key} {oldest : key}
    (evicted : recency.evictOldest = some (oldest, rest)) :
    recency.toList = oldest :: rest.toList := by
  unfold evictOldest at evicted
  split at evicted
  · cases evicted
  · rename_i head tail found
    cases evicted
    rw [toList, found]
    rfl

theorem Aligned.evictOldest {recency rest : Recency key} {oldest : key} (aligned : recency.Aligned)
    (evicted : recency.evictOldest = some (oldest, rest)) : rest.Aligned := by
  have listed := toList_of_evictOldest evicted
  have split := List.nodup_cons.mp (listed ▸ aligned.distinct)
  unfold Recency.evictOldest at evicted
  split at evicted
  · cases evicted
  · rename_i head tail found
    cases evicted
    have rises := List.pairwise_cons.mp (found ▸ aligned.ascending)
    exact
      { ascending := rises.2
        past := fun row member => aligned.past row (found ▸ List.mem_cons_of_mem head member)
        distinct := split.2
        ticksDistinct := Table.nodup_keys_erase aligned.ticksDistinct head.2
        inverse := by
          intro tick name
          rw [Table.find?_erase]
          by_cases same : name = head.2
          · -- The tail holds the head's key at no tick, as keys are distinct.
            have outside : (tick, name) ∉ tail := fun member =>
              split.1 (same ▸ List.mem_map.mpr ⟨(tick, name), member, rfl⟩)
            simp only [if_pos same, reduceCtorEq, outside]
          · have other : (tick, name) ≠ head := fun equal => same (congrArg Prod.snd equal)
            rw [if_neg same, aligned.inverse, found, List.mem_cons, or_iff_right other] }

end CachingGateway.Recency
