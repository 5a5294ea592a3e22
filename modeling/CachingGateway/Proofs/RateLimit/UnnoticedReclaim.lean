/-
Reclaiming over the rationals. A bucket that was asked longer ago than a full refill takes stands full,
as a key without a bucket does. So a caller cannot tell whether such buckets were reclaimed, whenever
that is done and whatever is called for afterwards.
-/

import CachingGateway.Proofs.RateLimit.SoundBuckets
import CachingGateway.Proofs.RateLimit.ThinnedBuckets

namespace CachingGateway

theorem refillsWithin_of_covered {limit : RateLimit Rat} (gaining : 0 < limit.rate)
    (holding : 1 ≤ limit.burst) {idle : Duration}
    (covered : (limit.burst : ℚ) ≤ limit.rate * idle.toRat) :
    RefillsWithin limit idle fun tokens => 0 ≤ tokens := by
  have gained (now since : Instant) : 0 ≤ (now.elapsedSince since).toRat * limit.rate :=
    mul_nonneg (Duration.toRat_nonneg _) gaining.le
  have kept := keptByCalls_nonneg gaining
  refine
    { capacity := kept.capacity
      projected := kept.projected
      taken := kept.taken
      refilled := ?_
      full := ?_
      available := ?_ }
  · intro bucket now holds ready
    have passed : idle.nanoseconds < (now.elapsedSince bucket.lastRefill).nanoseconds :=
      of_decide_eq_true ready
    have longer : idle.toRat ≤ (now.elapsedSince bucket.lastRefill).toRat := by
      rw [Duration.toRat_eq, Duration.toRat_eq]
      apply div_le_div_of_nonneg_right
      · exact_mod_cast passed.le
      · norm_num
    have refill := mul_le_mul_of_nonneg_left longer gaining.le
    rw [Bucket.projected_eq]
    apply min_eq_right
    linarith
  · intro now
    have start : (Bucket.full limit now).tokens = (limit.burst : ℚ) := rfl
    rw [Bucket.projected_eq, start]
    apply min_eq_right
    exact le_add_of_nonneg_right (gained now now)
  · apply (Limiter.hasToken_iff limit.capacity).mpr
    exact Nat.one_le_cast.mpr holding

def LimiterAnswer.isReply : LimiterAnswer → Bool
  | .admission _ | .forecast _ => true
  | .nothing => false

namespace SweptLimiter

section

variable {number : Type} {limit : RateLimit number} {idle : Duration} {holds : number → Prop}
  {thinned whole : SweptLimiter number}

theorem Thins.reclaim (thins : Thins limit idle holds thinned whole) :
    Thins limit idle holds (thinned.reclaim idle) whole where
  now := thins.now
  covered := thins.covered
  unswept := thins.unswept
  limit := thins.limit
  limiters := by
    have further := thins.limiters.reclaim (Nat.le_refl idle.nanoseconds)
    rw [← thins.now] at further ⊢
    exact further

theorem bare_distinct (limit : RateLimit number) : (bare limit).limiter.buckets.keys.Nodup :=
  List.nodup_nil

variable [TokenNumber number]

def replies (swept : SweptLimiter number) (steps : List LimiterStep) : List LimiterAnswer :=
  (swept.answers steps).filter (·.isReply)

theorem replies_reclaim (swept : SweptLimiter number) (threshold : Duration)
    (rest : List LimiterStep) :
    swept.replies (.reclaim threshold :: rest) = (swept.reclaim threshold).replies rest :=
  rfl

theorem Thins.replies (thins : Thins limit idle holds thinned whole)
    (refills : RefillsWithin limit idle holds) (steps : List LimiterStep)
    (steady : ∀ step ∈ steps, step.isUse = true ∨ step = .reclaim idle) :
    thinned.replies steps = whole.replies (steps.filter (·.isUse)) := by
  induction steps generalizing thinned whole with
  | nil => rfl
  | cons step rest ih =>
      have later : ∀ other ∈ rest, other.isUse = true ∨ other = .reclaim idle := by
        intro other member
        exact steady other (List.mem_cons_of_mem step member)
      rcases steady step List.mem_cons_self with use | rfl
      · obtain ⟨answer, after⟩ := thins.step refills use
        have tail := ih after later
        rw [List.filter_cons_of_pos use]
        rw [SweptLimiter.replies, SweptLimiter.replies] at tail ⊢
        rw [SweptLimiter.answers, SweptLimiter.answers, List.filter_cons, List.filter_cons, answer,
          tail]
      · rw [List.filter_cons_of_neg Bool.false_ne_true, replies_reclaim]
        exact ih thins.reclaim later

theorem nodup_keys_run {swept : SweptLimiter number} (distinct : swept.limiter.buckets.keys.Nodup)
    (steps : List LimiterStep) : (swept.run steps).limiter.buckets.keys.Nodup := by
  induction steps generalizing swept with
  | nil => exact distinct
  | cons step rest ih => exact ih (nodup_keys_step distinct step)

theorem find?_reclaim_of_held {steps : List LimiterStep} {key : String} {bucket : Bucket number}
    (held : ((bare limit).run steps).limiter.buckets.find? key = some bucket)
    (threshold : Duration) :
    ∃ last, (bare limit).lastCall? key steps = some last ∧
      (((bare limit).run steps).reclaim threshold).limiter.buckets.find? key =
        if threshold.nanoseconds < (((bare limit).run steps).now.elapsedSince last).nanoseconds then
          none
        else some bucket := by
  rcases lastCall?_of_held (bare_distinct limit) held with called | ⟨_, earlier⟩
  · refine ⟨bucket.lastRefill, called, ?_⟩
    have distinct := nodup_keys_run (bare_distinct limit) steps
    have kept := Table.find?_filterValues distinct
      (fun bucket => !bucket.isIdle ((bare limit).run steps).now threshold) key
    apply kept.trans
    rw [held, Option.filter_some, Bucket.isIdle]
    by_cases longer : threshold.nanoseconds <
        (((bare limit).run steps).now.elapsedSince bucket.lastRefill).nanoseconds
    · rw [if_pos longer, decide_eq_true longer, Bool.not_true, if_neg Bool.false_ne_true]
    · rw [if_neg longer, decide_eq_false longer, Bool.not_false, if_pos rfl]
  · cases earlier

theorem find?_reclaim_of_absent {steps : List LimiterStep} {key : String}
    (absent : ((bare limit).run steps).limiter.buckets.find? key = none) (threshold : Duration) :
    (((bare limit).run steps).reclaim threshold).limiter.buckets.find? key = none := by
  have distinct := nodup_keys_run (bare_distinct limit) steps
  apply (Table.find?_filterValues distinct _ key).trans
  rw [absent, Option.filter_none]

end

/-- Where the threshold covers a full refill, no caller can tell whether a limiter reclaims, at whatever
points of a run it does. Each reclamation drops the buckets that were last called longer ago than the
threshold, and leaves the others as they are. -/
theorem reclaim_unnoticed_when_refilled (limit : RateLimit Rat) (gaining : 0 < limit.rate)
    (holding : 1 ≤ limit.burst) (idle : Duration)
    (covered : (limit.burst : ℚ) ≤ limit.rate * idle.toRat) (steps : List LimiterStep)
    (steady : ∀ step ∈ steps, step.isUse = true ∨ step = .reclaim idle) :
    (bare limit).replies steps = (bare limit).replies (steps.filter (·.isUse)) ∧
      ∀ earlier later, steps = earlier ++ .reclaim idle :: later →
        let before := (bare limit).run earlier
        let after := (before.step (.reclaim idle)).2
        (∀ key bucket, before.limiter.buckets.find? key = some bucket →
          ∃ last, (bare limit).lastCall? key earlier = some last ∧
            after.limiter.buckets.find? key =
              if idle.nanoseconds < (before.now.elapsedSince last).nanoseconds then none
              else some bucket) ∧
        ∀ key, before.limiter.buckets.find? key = none →
          after.limiter.buckets.find? key = none := by
  constructor
  · have refills := refillsWithin_of_covered gaining holding covered
    have thins : Thins limit idle (fun tokens => 0 ≤ tokens) (bare limit) (bare limit) :=
      { now := rfl
        covered := by
          intro sweep member
          cases member
        unswept := rfl
        limit := rfl
        limiters := Limiter.thins_start limit Instant.start }
    exact thins.replies refills steps steady
  · intro earlier later _
    constructor
    · intro key bucket held
      exact find?_reclaim_of_held held idle
    · intro key absent
      exact find?_reclaim_of_absent absent idle

/-- Two tokens at one a second, and reclamations of what is idle for more than two seconds: the first one
drops nothing, the second one drops the bucket that is full again. -/
def reclaimedRun : List LimiterStep :=
  [.allow "early", .allow "early", .advance (Duration.ofSeconds 1), .reclaim (Duration.ofSeconds 2),
    .allow "late", .allow "early", .wait "early", .advance (Duration.ofParts 2 1), .allow "late",
    .reclaim (Duration.ofSeconds 2), .wait "early", .allow "early"]

theorem reclaim_unnoticed_reclaimedRun :
    let limit : RateLimit Rat := ⟨1, 2⟩
    (0 < limit.rate ∧ 1 ≤ limit.burst ∧
        (limit.burst : ℚ) ≤ limit.rate * (Duration.ofSeconds 2).toRat ∧
        ∀ step ∈ reclaimedRun, step.isUse = true ∨ step = .reclaim (Duration.ofSeconds 2)) ∧
      (bare limit).replies reclaimedRun = (bare limit).replies (reclaimedRun.filter (·.isUse)) ∧
      ((bare limit).run reclaimedRun).limiter.buckets.keys = ["late", "early"] := by
  intro limit
  have gaining : 0 < limit.rate := by norm_num [limit]
  have holding : 1 ≤ limit.burst := by decide
  have covered : (limit.burst : ℚ) ≤ limit.rate * (Duration.ofSeconds 2).toRat := by
    decide +kernel
  have steady : ∀ step ∈ reclaimedRun, step.isUse = true ∨ step = .reclaim (Duration.ofSeconds 2) := by
    decide
  have unnoticed := reclaim_unnoticed_when_refilled limit gaining holding (Duration.ofSeconds 2) covered
    reclaimedRun steady
  refine ⟨⟨gaining, holding, covered, steady⟩, unnoticed.1, ?_⟩
  decide +kernel

end SweptLimiter

end CachingGateway
