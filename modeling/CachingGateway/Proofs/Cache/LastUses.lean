/-
What the order of use holds, told from its outside. A run of uses, removals, evictions and clearings
leaves a record in which every eviction names its key. The record alone says what is held: the keys
of the uses that nothing later in it ends, in the order of these uses.
-/

import CachingGateway.Proofs.Cache.RecencyOrder

namespace CachingGateway.Recency

variable {key : Type}

/-! ### Runs and their records -/

inductive Step (key : Type) where
  | touch (used : key)
  | remove (gone : key)
  | evict
  | clear
  deriving DecidableEq, Repr

def Step.isTouch : Step key → Bool
  | touch _ => true
  | _ => false

inductive Event (key : Type) where
  | touched (used : key)
  | removed (gone : key)
  | evicted (oldest : Option key)
  | cleared
  deriving DecidableEq, Repr

namespace Event

def uses : Event key → List key
  | touched used => [used]
  | _ => []

variable [DecidableEq key]

def ends (name : key) : Event key → Bool
  | touched used => used = name
  | removed gone => gone = name
  | evicted oldest => oldest = some name
  | cleared => true

end Event

variable [DecidableEq key]

/-- The keys of the uses that no later event ends. -/
def standing : List (Event key) → List key
  | [] => []
  | event :: later =>
    (event.uses.filter fun name => later.all fun after => !after.ends name) ++ standing later

def apply (recency : Recency key) : Step key → Event key × Recency key
  | .touch used => (.touched used, recency.touch used)
  | .remove gone => (.removed gone, recency.remove gone)
  | .evict =>
    match recency.evictOldest with
    | some (oldest, rest) => (.evicted (some oldest), rest)
    | none => (.evicted none, recency)
  | .clear => (.cleared, recency.clear)

def run (recency : Recency key) (steps : List (Step key)) : Recency key :=
  steps.foldl (fun held step => (held.apply step).2) recency

def events (recency : Recency key) : List (Step key) → List (Event key)
  | [] => []
  | step :: rest => (recency.apply step).1 :: (recency.apply step).2.events rest

def drained (recency : Recency key) : List key :=
  match _evicted : recency.evictOldest with
  | none => []
  | some (oldest, rest) => oldest :: rest.drained
  termination_by recency.order.length
  decreasing_by exact evictOldest_length _evicted

theorem drained_eq_toList (recency : Recency key) : recency.drained = recency.toList := by
  induction recency using drained.induct with
  | case1 recency exhausted =>
      rw [drained, (evictOldest_eq_none_iff recency).mp exhausted]
      split
      · rfl
      · rename_i found
        rw [exhausted] at found
        cases found
  | case2 recency oldest rest evicted ih =>
      rw [drained, toList_of_evictOldest evicted]
      split
      · rename_i found
        rw [evicted] at found
        cases found
      · rename_i found
        rw [evicted] at found
        cases found
        rw [ih]

/-! ### What one more event leaves standing -/

theorem standing_concat (record : List (Event key)) (event : Event key) :
    standing (record ++ [event]) =
      ((standing record).filter fun name => !event.ends name) ++ event.uses := by
  induction record with
  | nil => simp only [List.nil_append, standing, List.all_nil, List.filter_true, List.append_nil,
      List.filter_nil]
  | cons first later ih =>
      rw [List.cons_append, standing, ih, standing, List.filter_append, List.filter_filter,
        List.append_assoc]
      refine congrArg (· ++ _) (List.filter_congr fun name _ => ?_)
      rw [List.all_append, List.all_cons, List.all_nil, Bool.and_true, Bool.and_comm]

/-- A key stands exactly when the last event that concerns it is a use of it. -/
theorem mem_standing_iff (record : List (Event key)) (name : key) :
    name ∈ standing record ↔
      ∃ before after, record = before ++ .touched name :: after ∧
        ∀ event ∈ after, event.ends name = false := by
  induction record with
  | nil =>
      constructor
      · intro impossible
        cases impossible
      · rintro ⟨before, after, parted, _⟩
        exact absurd parted.symm (by simp)
  | cons first later ih =>
      rw [standing, List.mem_append, ih]
      constructor
      · rintro (now | ⟨before, after, parted, quiet⟩)
        · obtain ⟨used, unended⟩ := List.mem_filter.mp now
          cases first with
          | touched used' =>
              cases List.mem_singleton.mp used
              refine ⟨[], later, rfl, fun event member => ?_⟩
              exact (Bool.not_eq_true' _).mp (List.all_eq_true.mp unended event member)
          | removed _ | evicted _ | cleared => cases used
        · exact ⟨first :: before, after, congrArg (first :: ·) parted, quiet⟩
      · rintro ⟨before, after, parted, quiet⟩
        cases before with
        | nil =>
            obtain ⟨rfl, rfl⟩ := List.cons.inj parted
            refine Or.inl (List.mem_filter.mpr ⟨List.mem_singleton.mpr rfl, ?_⟩)
            exact List.all_eq_true.mpr fun event member =>
              (Bool.not_eq_true' _).mpr (quiet event member)
        | cons head front =>
            exact Or.inr ⟨front, after, (List.cons.inj parted).2, quiet⟩

example :
    standing [.touched "a", .touched "b", .touched "a", .evicted (some "b"), .touched "c",
      .removed "d"] = ["a", "c"] := by
  decide

/-! ### A run and its record -/

structure Records (record : List (Event key)) (recency : Recency key) : Prop where
  aligned : recency.Aligned
  held : recency.toList = standing record

variable {record : List (Event key)} {recency : Recency key}

theorem records_empty : Records [] (empty : Recency key) :=
  ⟨aligned_empty, rfl⟩

theorem Records.evict_event (records : Records record recency) :
    (recency.apply .evict).1 = .evicted (standing record).head? := by
  rw [← records.held, apply]
  cases evicted : recency.evictOldest with
  | none => rw [(evictOldest_eq_none_iff recency).mp evicted, List.head?_nil]
  | some found =>
      obtain ⟨oldest, rest⟩ := found
      rw [toList_of_evictOldest evicted, List.head?_cons]

theorem Records.apply (records : Records record recency) (step : Step key) :
    Records (record ++ [(recency.apply step).1]) (recency.apply step).2 := by
  have held := records.held
  cases step with
  | touch used =>
      refine ⟨records.aligned.touch used, ?_⟩
      change (recency.touch used).toList = standing (record ++ [.touched used])
      rw [records.aligned.toList_touch, held, standing_concat]
      refine congrArg (· ++ [used]) (List.filter_congr fun name _ => ?_)
      simp only [Event.ends, ne_eq, decide_not, eq_comm]
  | remove gone =>
      refine ⟨records.aligned.remove gone, ?_⟩
      change (recency.remove gone).toList = standing (record ++ [.removed gone])
      rw [records.aligned.toList_remove, held, standing_concat]
      refine (List.filter_congr fun name _ => ?_).trans (List.append_nil _).symm
      simp only [Event.ends, ne_eq, decide_not, eq_comm]
  | evict =>
      unfold Recency.apply
      cases evicted : recency.evictOldest with
      | none =>
          refine ⟨records.aligned, ?_⟩
          change recency.toList = standing (record ++ [.evicted none])
          rw [standing_concat, ← held, (evictOldest_eq_none_iff recency).mp evicted]
          rfl
      | some found =>
          obtain ⟨oldest, rest⟩ := found
          refine ⟨records.aligned.evictOldest evicted, ?_⟩
          change rest.toList = standing (record ++ [.evicted (some oldest)])
          have listed := toList_of_evictOldest evicted
          have once : oldest ∉ rest.toList :=
            (List.nodup_cons.mp (listed ▸ records.aligned.distinct)).1
          rw [standing_concat, ← held, listed, List.filter_cons_of_neg (by simp [Event.ends])]
          refine (List.filter_eq_self.mpr fun name member => ?_).symm.trans
            (List.append_nil _).symm
          have other : oldest ≠ name := fun same => once (same ▸ member)
          simp only [Event.ends, Option.some.injEq, other, decide_false, Bool.not_false]
  | clear =>
      refine ⟨aligned_clear recency, ?_⟩
      change [] = standing (record ++ [.cleared])
      rw [standing_concat]
      exact (List.filter_eq_nil_iff.mpr fun name _ => Bool.false_ne_true).symm.trans
        (List.append_nil _).symm

theorem Records.run (records : Records record recency) (steps : List (Step key)) :
    Records (record ++ recency.events steps) (recency.run steps) := by
  induction steps generalizing record recency with
  | nil =>
      rw [events, List.append_nil]
      exact records
  | cons step rest ih =>
      have later := ih (records.apply step)
      rwa [List.append_assoc] at later

theorem records_run (steps : List (Step key)) :
    Records ((empty : Recency key).events steps) (empty.run steps) :=
  records_empty.run steps

theorem events_append (recency : Recency key) (earlier later : List (Step key)) :
    recency.events (earlier ++ later) =
      recency.events earlier ++ (recency.run earlier).events later := by
  induction earlier generalizing recency with
  | nil => rfl
  | cons step rest ih => exact congrArg (_ :: ·) (ih (recency.apply step).2)

/-! ### The clock -/

theorem clock_apply (recency : Recency key) (step : Step key) :
    (recency.apply step).2.clock = recency.clock + if step.isTouch then 1 else 0 := by
  cases step with
  | touch used => rfl
  | remove gone =>
      change (recency.remove gone).clock = recency.clock
      unfold remove
      cases recency.ticks.find? gone <;> rfl
  | evict =>
      unfold apply evictOldest
      cases recency.order <;> rfl
  | clear => rfl

theorem clock_run (recency : Recency key) (steps : List (Step key)) :
    (recency.run steps).clock = recency.clock + steps.countP Step.isTouch := by
  induction steps generalizing recency with
  | nil => rfl
  | cons step rest ih =>
      change ((recency.apply step).2.run rest).clock = _
      rw [ih, clock_apply, List.countP_cons]
      omega

/-- After a run from nothing, repeated eviction yields the keys whose last event is a use, each once
and in the order of these uses; the next eviction, whatever follows it, returns the first of them, or
nothing if there is none. The clock has counted the uses, so fewer than `2 ^ 64` of them fit a word. -/
theorem drained_in_order_of_last_use (steps : List (Step key)) :
    let record := (empty : Recency key).events steps
    let reached := (empty : Recency key).run steps
    (reached.drained = standing record ∧ reached.drained.Nodup ∧
      ∀ name, name ∈ reached.drained ↔
        ∃ before after, record = before ++ .touched name :: after ∧
          ∀ event ∈ after, event.ends name = false) ∧
      (∀ later, (empty : Recency key).events (steps ++ .evict :: later) =
        record ++ .evicted (standing record).head? :: (reached.apply .evict).2.events later) ∧
      reached.clock = steps.countP Step.isTouch := by
  intro record reached
  have records : Records record reached := records_run steps
  have drained : reached.drained = standing record :=
    (drained_eq_toList reached).trans records.held
  have clock : reached.clock = steps.countP Step.isTouch :=
    (clock_run empty steps).trans (Nat.zero_add _)
  refine ⟨⟨drained, ?_, ?_⟩, ?_, clock⟩
  · rw [drained_eq_toList]
    exact records.aligned.distinct
  · intro name
    rw [drained]
    exact mem_standing_iff record name
  · intro later
    rw [events_append, events, records.evict_event]

end CachingGateway.Recency
