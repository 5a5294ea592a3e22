/-
How long a limiter with a sweep holds a bucket. Between two moments at which the sweep is due a bucket
ages by less than the interval, and at such a moment, or whenever the clock has jumped over some, every
bucket that is kept was asked within the threshold. So the age of a bucket stays below their sum.
-/

import CachingGateway.Proofs.RateLimit.LimiterRun

namespace CachingGateway

namespace Sweep

variable {sweep : Sweep} {now later : Instant}

/-- The last moment up to an instant at which a sweep was due, or that at which it was set up. -/
def lastDue (sweep : Sweep) (now : Instant) : Nat :=
  sweep.begun.nanoseconds + sweep.dueCount now * sweep.interval.nanoseconds

theorem lastDue_le (begun : sweep.begun.nanoseconds ≤ now.nanoseconds) :
    sweep.lastDue now ≤ now.nanoseconds := by
  have whole := Nat.div_mul_le_self (now.nanoseconds - sweep.begun.nanoseconds)
    sweep.interval.nanoseconds
  change sweep.begun.nanoseconds + (now.nanoseconds - sweep.begun.nanoseconds) /
    sweep.interval.nanoseconds * sweep.interval.nanoseconds ≤ now.nanoseconds
  omega

theorem lt_lastDue_add (recurring : 0 < sweep.interval.nanoseconds) :
    now.nanoseconds < sweep.lastDue now + sweep.interval.nanoseconds := by
  have rest := Nat.mod_lt (now.nanoseconds - sweep.begun.nanoseconds) recurring
  have parts := Nat.div_add_mod' (now.nanoseconds - sweep.begun.nanoseconds)
    sweep.interval.nanoseconds
  change now.nanoseconds < sweep.begun.nanoseconds +
    (now.nanoseconds - sweep.begun.nanoseconds) / sweep.interval.nanoseconds *
      sweep.interval.nanoseconds + sweep.interval.nanoseconds
  omega

theorem lastDue_of_not_fallsDue (order : now.nanoseconds ≤ later.nanoseconds)
    (between : sweep.fallsDue now later = false) : sweep.lastDue later = sweep.lastDue now := by
  have grows : sweep.dueCount now ≤ sweep.dueCount later :=
    Nat.div_le_div_right (Nat.sub_le_sub_right order _)
  have same : sweep.dueCount later = sweep.dueCount now :=
    Nat.le_antisymm (Nat.not_lt.mp (of_decide_eq_false between)) grows
  rw [lastDue, lastDue, same]

end Sweep

variable {number : Type}

namespace Limiter

theorem nodup_keys_sweeps {limiter : Limiter number} (distinct : limiter.buckets.keys.Nodup)
    (now : Instant) (due : List Sweep) :
    (due.foldl (fun held sweep => held.reclaim now sweep.idle) limiter).buckets.keys.Nodup := by
  induction due generalizing limiter with
  | nil => exact distinct
  | cons sweep rest ih => exact ih (Table.nodup_keys_filterValues distinct _)

/-- Sweeps keep a bucket when none of them finds it idle. -/
theorem find?_sweeps {limiter : Limiter number} (distinct : limiter.buckets.keys.Nodup)
    (now : Instant) (due : List Sweep) (key : String) :
    (due.foldl (fun held sweep => held.reclaim now sweep.idle) limiter).buckets.find? key =
      (limiter.buckets.find? key).filter fun bucket =>
        due.all fun sweep => !bucket.isIdle now sweep.idle := by
  induction due generalizing limiter with
  | nil =>
      rw [List.foldl_nil]
      cases limiter.buckets.find? key <;> rfl
  | cons sweep rest ih =>
      have first : (limiter.reclaim now sweep.idle).buckets.find? key =
          (limiter.buckets.find? key).filter fun bucket => !bucket.isIdle now sweep.idle :=
        Table.find?_filterValues distinct _ key
      rw [List.foldl_cons, ih (Table.nodup_keys_filterValues distinct _), first, Option.filter_filter]
      simp only [List.all_cons]

end Limiter

namespace SweptLimiter

variable {swept : SweptLimiter number} {key : String} {bucket : Bucket number}

theorem find?_advance (distinct : swept.limiter.buckets.keys.Nodup) (length : Duration)
    (key : String) :
    (swept.advance length).limiter.buckets.find? key =
      (swept.limiter.buckets.find? key).filter fun bucket =>
        (swept.dueSweeps (swept.now.advance length)).all fun sweep =>
          !bucket.isIdle (swept.now.advance length) sweep.idle :=
  Limiter.find?_sweeps distinct _ _ key

theorem idle_of_dropped (distinct : swept.limiter.buckets.keys.Nodup) {length : Duration}
    (held : swept.limiter.buckets.find? key = some bucket)
    (dropped : (swept.advance length).limiter.buckets.find? key = none) :
    ∃ sweep ∈ swept.sweeps, bucket.isIdle (swept.now.advance length) sweep.idle = true := by
  rw [find?_advance distinct, held, Option.filter_some] at dropped
  split at dropped
  · cases dropped
  · rename_i found
    simp only [List.all_eq_true, Bool.not_eq_true', not_forall, Bool.not_eq_false] at found
    obtain ⟨sweep, due, idle⟩ := found
    refine ⟨sweep, ?_, idle⟩
    rw [dueSweeps] at due
    split at due
    · cases due
    · exact (List.mem_filter.mp due).1

/-! ### The age of buckets -/

/-- A sweep is at work, and what is held was asked within its threshold of the moment at which it was
last due. -/
structure Kept (sweep : Sweep) (swept : SweptLimiter number) : Prop where
  atWork : sweep ∈ swept.sweeps
  running : swept.stopped = false
  begun : sweep.begun.nanoseconds ≤ swept.now.nanoseconds
  distinct : swept.limiter.buckets.keys.Nodup
  recent : ∀ key bucket, swept.limiter.buckets.find? key = some bucket →
    sweep.lastDue swept.now ≤ bucket.lastRefill.nanoseconds + sweep.idle.nanoseconds

variable {sweep : Sweep}

theorem Kept.advance (kept : Kept sweep swept) (length : Duration) :
    Kept sweep (swept.advance length) where
  atWork := kept.atWork
  running := kept.running
  begun := Nat.le_trans kept.begun (Nat.le_add_right _ _)
  distinct := Limiter.nodup_keys_sweeps kept.distinct _ _
  recent := by
    intro key bucket held
    have order : swept.now.nanoseconds ≤ (swept.now.advance length).nanoseconds :=
      Nat.le_add_right _ _
    have found := (find?_advance kept.distinct length key).symm.trans held
    obtain ⟨before, passed⟩ := Option.filter_eq_some_iff.mp found
    change sweep.lastDue (swept.now.advance length) ≤ _
    cases due : sweep.fallsDue swept.now (swept.now.advance length) with
    | false =>
        rw [Sweep.lastDue_of_not_fallsDue order due]
        exact kept.recent key bucket before
    | true =>
        have member : sweep ∈ swept.dueSweeps (swept.now.advance length) := by
          rw [dueSweeps, kept.running, if_neg Bool.false_ne_true]
          exact List.mem_filter.mpr ⟨kept.atWork, due⟩
        have young := List.all_eq_true.mp passed sweep member
        rw [Bool.not_eq_true'] at young
        have within : (swept.now.advance length).nanoseconds - bucket.lastRefill.nanoseconds ≤
            sweep.idle.nanoseconds := Nat.not_lt.mp (of_decide_eq_false young)
        have reached := Sweep.lastDue_le (Nat.le_trans kept.begun order)
        omega

theorem Kept.age_lt (kept : Kept sweep swept) (recurring : 0 < sweep.interval.nanoseconds)
    (held : swept.limiter.buckets.find? key = some bucket) :
    (swept.now.elapsedSince bucket.lastRefill).nanoseconds <
      sweep.idle.nanoseconds + sweep.interval.nanoseconds := by
  have recent := kept.recent key bucket held
  have soon : swept.now.nanoseconds < sweep.lastDue swept.now + sweep.interval.nanoseconds :=
    Sweep.lt_lastDue_add recurring
  change swept.now.nanoseconds - bucket.lastRefill.nanoseconds < _
  omega

/-! ### The last call -/

variable [TokenNumber number]

theorem nodup_keys_step (distinct : swept.limiter.buckets.keys.Nodup) (step : LimiterStep) :
    (swept.step step).2.limiter.buckets.keys.Nodup := by
  cases step with
  | allow other => exact Table.nodup_keys_insert distinct other _
  | wait other => exact distinct
  | advance length => exact Limiter.nodup_keys_sweeps distinct _ _
  | reclaim idle => exact Table.nodup_keys_filterValues distinct _
  | sweep interval idle => exact distinct
  | stop => exact distinct

def lastCall? (swept : SweptLimiter number) (key : String) : List LimiterStep → Option Instant
  | [] => none
  | step :: rest =>
    ((swept.step step).2.lastCall? key rest).or
      (if step = .allow key then some swept.now else none)

theorem held_before_step (distinct : swept.limiter.buckets.keys.Nodup) {step : LimiterStep}
    (held : (swept.step step).2.limiter.buckets.find? key = some bucket) :
    (step = .allow key ∧ bucket.lastRefill = swept.now) ∨
      (step ≠ .allow key ∧ swept.limiter.buckets.find? key = some bucket) := by
  cases step with
  | allow other =>
      have found := (Limiter.find?_allow swept.limiter swept.now other key).symm.trans held
      by_cases same : key = other
      · rw [if_pos same] at found
        cases found
        exact Or.inl ⟨congrArg _ same.symm, rfl⟩
      · rw [if_neg same] at found
        refine Or.inr ⟨?_, found⟩
        rintro ⟨⟩
        exact same rfl
  | wait other => exact Or.inr ⟨nofun, held⟩
  | advance length =>
      have found := (find?_advance distinct length key).symm.trans held
      exact Or.inr ⟨nofun, (Option.filter_eq_some_iff.mp found).1⟩
  | reclaim idle =>
      have found := (Table.find?_filterValues distinct _ key).symm.trans held
      exact Or.inr ⟨nofun, (Option.filter_eq_some_iff.mp found).1⟩
  | sweep interval idle => exact Or.inr ⟨nofun, held⟩
  | stop => exact Or.inr ⟨nofun, held⟩

/-- A bucket that is held after a run stands as its last call left it. -/
theorem lastCall?_of_held (distinct : swept.limiter.buckets.keys.Nodup) {steps : List LimiterStep}
    (held : (swept.run steps).limiter.buckets.find? key = some bucket) :
    swept.lastCall? key steps = some bucket.lastRefill ∨
      (swept.lastCall? key steps = none ∧ swept.limiter.buckets.find? key = some bucket) := by
  induction steps generalizing swept with
  | nil => exact Or.inr ⟨rfl, held⟩
  | cons step rest ih =>
      rw [lastCall?]
      rcases ih (nodup_keys_step distinct step) held with called | ⟨uncalled, earlier⟩
      · rw [called]
        exact Or.inl rfl
      · rw [uncalled, Option.none_or]
        rcases held_before_step distinct earlier with ⟨called, moment⟩ | ⟨other, before⟩
        · rw [if_pos called, moment]
          exact Or.inl rfl
        · rw [if_neg other]
          exact Or.inr ⟨rfl, before⟩

/-! ### Runs -/

theorem Kept.allow (kept : Kept sweep swept) (key : String) : Kept sweep (swept.allow key).2 where
  atWork := kept.atWork
  running := kept.running
  begun := kept.begun
  distinct := Table.nodup_keys_insert kept.distinct key _
  recent := by
    intro sought bucket held
    have found := (Limiter.find?_allow swept.limiter swept.now key sought).symm.trans held
    by_cases same : sought = key
    · rw [if_pos same] at found
      cases found
      exact Nat.le_trans (Sweep.lastDue_le kept.begun) (Nat.le_add_right _ _)
    · rw [if_neg same] at found
      exact kept.recent sought bucket found

theorem Kept.step (kept : Kept sweep swept) {step : LimiterStep} (use : step.isUse = true) :
    Kept sweep (swept.step step).2 := by
  cases step with
  | allow key => exact kept.allow key
  | wait key => exact kept
  | advance length => exact kept.advance length
  | reclaim idle => cases use
  | sweep interval idle => cases use
  | stop => cases use

theorem Kept.run (kept : Kept sweep swept) {steps : List LimiterStep}
    (uses : ∀ step ∈ steps, step.isUse = true) : Kept sweep (swept.run steps) := by
  induction steps generalizing swept with
  | nil => exact kept
  | cons step rest ih =>
      have later := kept.step (uses step List.mem_cons_self)
      exact ih later fun other member => uses other (List.mem_cons_of_mem step member)

theorem sweeps_of_use {step : LimiterStep} (use : step.isUse = true) :
    (swept.step step).2.sweeps = swept.sweeps := by
  cases step with
  | allow key => rfl
  | wait key => rfl
  | advance length => rfl
  | reclaim idle => cases use
  | sweep interval idle => cases use
  | stop => cases use

theorem sweeps_run {steps : List LimiterStep} (uses : ∀ step ∈ steps, step.isUse = true) :
    (swept.run steps).sweeps = swept.sweeps := by
  induction steps generalizing swept with
  | nil => rfl
  | cons step rest ih =>
      have first : (swept.step step).2.sweeps = swept.sweeps :=
        sweeps_of_use (uses step List.mem_cons_self)
      exact (ih fun other member => uses other (List.mem_cons_of_mem step member)).trans first

theorem idle_of_dropped_by_use (distinct : swept.limiter.buckets.keys.Nodup) {step : LimiterStep}
    (use : step.isUse = true) (held : swept.limiter.buckets.find? key = some bucket)
    (dropped : (swept.step step).2.limiter.buckets.find? key = none) :
    ∃ sweep ∈ swept.sweeps, bucket.isIdle (swept.step step).2.now sweep.idle = true := by
  cases step with
  | allow other =>
      have kept := (Limiter.find?_allow swept.limiter swept.now other key).symm.trans dropped
      split at kept
      · cases kept
      · cases held.symm.trans kept
  | wait other => cases held.symm.trans dropped
  | advance length => exact idle_of_dropped distinct held dropped
  | reclaim idle => cases use
  | sweep interval idle => cases use
  | stop => cases use

theorem held_step_of_stopped (stopped : swept.stopped = true) {step : LimiterStep}
    (unreclaimed : ∀ idle, step ≠ .reclaim idle) (held : swept.limiter.buckets.find? key ≠ none) :
    (swept.step step).2.stopped = true ∧
      (swept.step step).2.limiter.buckets.find? key ≠ none := by
  cases step with
  | allow other =>
      refine ⟨stopped, ?_⟩
      have found := Limiter.find?_allow swept.limiter swept.now other key
      change (swept.limiter.allow swept.now other).2.buckets.find? key ≠ none
      rw [found]
      split
      · exact Option.some_ne_none _
      · exact held
  | wait other => exact ⟨stopped, held⟩
  | advance length =>
      refine ⟨stopped, ?_⟩
      change (swept.advance length).limiter.buckets.find? key ≠ none
      rw [advance_stopped stopped]
      exact held
  | reclaim idle => exact absurd rfl (unreclaimed idle)
  | sweep interval idle => exact ⟨stopped, held⟩
  | stop => exact ⟨rfl, held⟩

theorem held_run_of_stopped (stopped : swept.stopped = true) {steps : List LimiterStep}
    (unreclaimed : ∀ idle, LimiterStep.reclaim idle ∉ steps)
    (held : swept.limiter.buckets.find? key ≠ none) :
    (swept.run steps).limiter.buckets.find? key ≠ none := by
  induction steps generalizing swept with
  | nil => exact held
  | cons step rest ih =>
      have other : ∀ idle, step ≠ .reclaim idle := by
        rintro idle rfl
        exact unreclaimed idle List.mem_cons_self
      obtain ⟨stoppedStill, heldStill⟩ := held_step_of_stopped stopped other held
      have later : ∀ idle, LimiterStep.reclaim idle ∉ rest :=
        fun idle member => unreclaimed idle (List.mem_cons_of_mem step member)
      exact ih stoppedStill later heldStill

/-- A sweep that is set up while no bucket is held bounds their age from then on: in every run of uses
each bucket that is held was last called less than the threshold and the interval ago. No use drops a
bucket that was called within the threshold, if no other sweep is less patient. Once the sweeps are
stopped only an explicit reclamation drops buckets. -/
theorem held_buckets_recent (limit : RateLimit number) (now : Instant) (others : List Sweep)
    (interval idle : Duration) (recurring : 0 < interval.nanoseconds) (steps : List LimiterStep)
    (uses : ∀ step ∈ steps, step.isUse = true) :
    let spawned : SweptLimiter number :=
      (⟨Limiter.start limit, now, others, false⟩ : SweptLimiter number).addSweep interval idle
    let after := spawned.run steps
    (∀ key bucket, after.limiter.buckets.find? key = some bucket →
      ∃ last, spawned.lastCall? key steps = some last ∧
        (after.now.elapsedSince last).nanoseconds < idle.nanoseconds + interval.nanoseconds) ∧
    ((∀ other ∈ others, idle.nanoseconds ≤ other.idle.nanoseconds) →
      ∀ key bucket step, step.isUse = true → after.limiter.buckets.find? key = some bucket →
        (after.step step).2.limiter.buckets.find? key = none →
          ∃ last, spawned.lastCall? key steps = some last ∧
            idle.nanoseconds < ((after.step step).2.now.elapsedSince last).nanoseconds) ∧
    (∀ key rest, (∀ threshold, LimiterStep.reclaim threshold ∉ rest) →
      after.limiter.buckets.find? key ≠ none →
        (after.stop.run rest).limiter.buckets.find? key ≠ none) := by
  intro spawned after
  let sweep : Sweep := ⟨now, interval, idle⟩
  have kept : Kept sweep spawned :=
    { atWork := List.mem_append_right _ List.mem_cons_self
      running := rfl
      begun := Nat.le_refl _
      distinct := List.nodup_nil
      recent := by
        intro key bucket held
        cases held }
  have lastCall : ∀ key bucket, after.limiter.buckets.find? key = some bucket →
      spawned.lastCall? key steps = some bucket.lastRefill := by
    intro key bucket held
    rcases lastCall?_of_held kept.distinct held with called | ⟨_, before⟩
    · exact called
    · cases before
  have keptAfter : Kept sweep after := kept.run uses
  refine ⟨?_, ?_, ?_⟩
  · intro key bucket held
    exact ⟨bucket.lastRefill, lastCall key bucket held, keptAfter.age_lt recurring held⟩
  · intro patient key bucket step use held dropped
    refine ⟨bucket.lastRefill, lastCall key bucket held, ?_⟩
    obtain ⟨cause, atWork, idleFor⟩ := idle_of_dropped_by_use keptAfter.distinct use held dropped
    have longer := of_decide_eq_true idleFor
    rw [sweeps_run uses] at atWork
    rcases List.mem_append.mp atWork with other | same
    · exact Nat.lt_of_le_of_lt (patient cause other) longer
    · cases List.mem_singleton.mp same
      exact longer
  · intro key rest unreclaimed held
    have stopped : after.stop.stopped = true := rfl
    exact held_run_of_stopped stopped unreclaimed held

/-! ### Two callers of a service -/

/-- The first caller is dropped by the sweep after six minutes, the second one is kept. -/
def twoCallers : List LimiterStep :=
  [.allow "early", .advance (Duration.ofSeconds 70), .allow "late",
    .advance (Duration.ofSeconds 295)]

theorem held_buckets_of_twoCallers :
    0 < standardInterval.nanoseconds ∧ (∀ step ∈ twoCallers, step.isUse = true) ∧
      ((start (⟨1, 1⟩ : RateLimit Rat)).run twoCallers).limiter.buckets.keys = ["late"] ∧
      ∃ last, (start (⟨1, 1⟩ : RateLimit Rat)).lastCall? "late" twoCallers = some last ∧
        (((start (⟨1, 1⟩ : RateLimit Rat)).run twoCallers).now.elapsedSince last).nanoseconds <
          standardIdle.nanoseconds + standardInterval.nanoseconds := by
  have recurring : 0 < standardInterval.nanoseconds := by decide
  have uses : ∀ step ∈ twoCallers, step.isUse = true := by decide
  have keys : ((start (⟨1, 1⟩ : RateLimit Rat)).run twoCallers).limiter.buckets.keys = ["late"] := by
    decide +kernel
  obtain ⟨bucket, held⟩ := (Table.mem_keys_iff _ "late").mp (keys ▸ List.mem_cons_self)
  have recent := (held_buckets_recent (⟨1, 1⟩ : RateLimit Rat) Instant.start [] standardInterval
    standardIdle recurring twoCallers uses).1
  exact ⟨recurring, uses, keys, recent "late" bucket held⟩

end SweptLimiter

end CachingGateway
