/-
Limiters that dropped idle buckets beside limiters that kept them all. When the idle threshold covers a
refill, the dropped buckets would stand full by now, and a key without a bucket counts as full.
So both limiters give the same answers, and they stay so related.
-/

import CachingGateway.Proofs.RateLimit.LimiterRun

namespace CachingGateway

variable {number : Type}

theorem Bucket.isIdle_later {bucket : Bucket number} {now later : Instant} {idle : Duration}
    (order : now.nanoseconds ≤ later.nanoseconds) (already : bucket.isIdle now idle = true) :
    bucket.isIdle later idle = true := by
  have longer := of_decide_eq_true already
  refine decide_eq_true (Nat.lt_of_lt_of_le longer ?_)
  exact Nat.sub_le_sub_right order bucket.lastRefill.nanoseconds

theorem Bucket.isIdle_shorter {bucket : Bucket number} {now : Instant} {idle threshold : Duration}
    (covered : idle.nanoseconds ≤ threshold.nanoseconds)
    (already : bucket.isIdle now threshold = true) : bucket.isIdle now idle = true :=
  decide_eq_true (Nat.lt_of_le_of_lt covered (of_decide_eq_true already))

namespace Limiter

/-- The second limiter has all buckets of the first, and any others it has are idle. -/
structure Thins (idle : Duration) (holds : number → Prop) (now : Instant)
    (thinned whole : Limiter number) : Prop where
  limit : thinned.limit = whole.limit
  distinct : thinned.buckets.keys.Nodup
  buckets : ∀ key, thinned.buckets.find? key = whole.buckets.find? key ∨
    thinned.buckets.find? key = none ∧
      ∃ bucket, whole.buckets.find? key = some bucket ∧ bucket.isIdle now idle = true
  holds : ∀ key bucket, whole.buckets.find? key = some bucket → holds bucket.tokens

variable {idle : Duration} {holds : number → Prop} {now : Instant}
  {thinned whole : Limiter number}

theorem thins_start (limit : RateLimit number) (now : Instant) :
    Thins idle holds now (start limit) (start limit) where
  limit := rfl
  distinct := List.nodup_nil
  buckets := fun _ => Or.inl rfl
  holds := by
    intro key bucket found
    cases found

theorem Thins.later (thins : Thins idle holds now thinned whole) {later : Instant}
    (order : now.nanoseconds ≤ later.nanoseconds) : Thins idle holds later thinned whole where
  limit := thins.limit
  distinct := thins.distinct
  buckets := by
    intro key
    rcases thins.buckets key with same | ⟨absent, bucket, present, ready⟩
    · exact Or.inl same
    · exact Or.inr ⟨absent, bucket, present, Bucket.isIdle_later order ready⟩
  holds := thins.holds

/-- Dropping what is idle for at least the threshold thins a limiter further. -/
theorem Thins.reclaim (thins : Thins idle holds now thinned whole) {threshold : Duration}
    (covered : idle.nanoseconds ≤ threshold.nanoseconds) :
    Thins idle holds now (thinned.reclaim now threshold) whole where
  limit := thins.limit
  distinct := Table.nodup_keys_filterValues thins.distinct _
  buckets := by
    intro key
    have kept : (thinned.reclaim now threshold).buckets.find? key =
        (thinned.buckets.find? key).filter fun bucket => !bucket.isIdle now threshold :=
      Table.find?_filterValues thins.distinct _ key
    rw [kept]
    rcases thins.buckets key with same | ⟨absent, bucket, present, ready⟩
    · rw [same]
      cases present : whole.buckets.find? key with
      | none => exact Or.inl rfl
      | some bucket =>
          by_cases dropped : bucket.isIdle now threshold = true
          · rw [Option.filter_some, dropped]
            exact Or.inr ⟨rfl, bucket, rfl, Bucket.isIdle_shorter covered dropped⟩
          · rw [Option.filter_some, Bool.eq_false_iff.mpr dropped]
            exact Or.inl rfl
    · rw [absent]
      exact Or.inr ⟨rfl, bucket, present, ready⟩
  holds := thins.holds

theorem Thins.sweeps (thins : Thins idle holds now thinned whole) (due : List Sweep)
    (covered : ∀ sweep ∈ due, idle.nanoseconds ≤ sweep.idle.nanoseconds) :
    Thins idle holds now
      (due.foldl (fun limiter sweep => limiter.reclaim now sweep.idle) thinned) whole := by
  induction due generalizing thinned with
  | nil => exact thins
  | cons sweep rest ih =>
      have first := thins.reclaim (covered sweep List.mem_cons_self)
      exact ih first fun other member => covered other (List.mem_cons_of_mem sweep member)

end Limiter

/-! ### Full by now -/

section

variable [TokenNumber number]

/-- Counts as buckets hold them are full again after any time longer than a threshold. -/
structure RefillsWithin (limit : RateLimit number) (idle : Duration) (holds : number → Prop) :
    Prop where
  capacity : holds limit.capacity
  projected : ∀ (bucket : Bucket number) now, holds bucket.tokens →
    holds (bucket.projected limit now)
  taken : ∀ tokens, holds tokens → Limiter.hasToken tokens = true →
    holds (tokens - TokenNumber.ofNat 1)
  refilled : ∀ (bucket : Bucket number) now, holds bucket.tokens → bucket.isIdle now idle = true →
    bucket.projected limit now = limit.capacity
  full : ∀ now, (Bucket.full limit now).projected limit now = limit.capacity
  available : Limiter.hasToken limit.capacity = true

theorem RefillsWithin.keptByCalls {limit : RateLimit number} {idle : Duration}
    {holds : number → Prop} (refills : RefillsWithin limit idle holds) : KeptByCalls limit holds :=
  ⟨refills.capacity, refills.projected, refills.taken⟩

namespace Limiter

variable {idle : Duration} {holds : number → Prop} {now : Instant}
  {thinned whole : Limiter number}

theorem Thins.bucket_projected (thins : Thins idle holds now thinned whole)
    (refills : RefillsWithin whole.limit idle holds) (key : String) :
    (thinned.bucket now key).projected thinned.limit now =
      (whole.bucket now key).projected whole.limit now := by
  rw [thins.limit]
  rcases thins.buckets key with same | ⟨absent, bucket, present, ready⟩
  · rw [Limiter.bucket, Limiter.bucket, same, thins.limit]
  · have fresh : thinned.bucket now key = Bucket.full whole.limit now := by
      rw [Limiter.bucket, absent, thins.limit, Option.getD_none]
    have found : whole.bucket now key = bucket := by
      rw [Limiter.bucket, present, Option.getD_some]
    rw [fresh, found, refills.full, refills.refilled bucket now (thins.holds key bucket present) ready]

theorem Thins.allow (thins : Thins idle holds now thinned whole)
    (refills : RefillsWithin whole.limit idle holds) (key : String) :
    (thinned.allow now key).1 = (whole.allow now key).1 ∧
      Thins idle holds now (thinned.allow now key).2 (whole.allow now key).2 := by
  have tokens := thins.bucket_projected refills key
  constructor
  · exact congrArg hasToken tokens
  · refine
      { limit := thins.limit
        distinct := Table.nodup_keys_insert thins.distinct key _
        buckets := ?_
        holds := ?_ }
    · intro sought
      rw [find?_allow, find?_allow]
      by_cases same : sought = key
      · rw [if_pos same, if_pos same, tokens]
        exact Or.inl rfl
      · rw [if_neg same, if_neg same]
        exact thins.buckets sought
    · exact refills.keptByCalls.allow rfl thins.holds now key

theorem Thins.wait (thins : Thins idle holds now thinned whole)
    (refills : RefillsWithin whole.limit idle holds) (key : String) :
    thinned.wait? now key = whole.wait? now key := by
  rcases thins.buckets key with same | ⟨absent, bucket, present, ready⟩
  · simp only [wait?, same, thins.limit]
  · have capacity := refills.refilled bucket now (thins.holds key bucket present) ready
    simp only [wait?, absent, present, capacity, refills.available, if_true]

end Limiter

end

/-! ### Running limiters -/

namespace SweptLimiter

variable {limit : RateLimit number} {idle : Duration} {holds : number → Prop}
  {thinned whole : SweptLimiter number}

structure Thins (limit : RateLimit number) (idle : Duration) (holds : number → Prop)
    (thinned whole : SweptLimiter number) : Prop where
  now : thinned.now = whole.now
  covered : ∀ sweep ∈ thinned.sweeps, idle.nanoseconds ≤ sweep.idle.nanoseconds
  unswept : whole.sweeps = []
  limit : whole.limiter.limit = limit
  limiters : Limiter.Thins idle holds whole.now thinned.limiter whole.limiter

theorem Thins.advance (thins : Thins limit idle holds thinned whole) (length : Duration) :
    Thins limit idle holds (thinned.advance length) (whole.advance length) := by
  have stays := advance_unswept thins.unswept length
  have clocks : thinned.now.advance length = whole.now.advance length := by rw [thins.now]
  refine
    { now := clocks
      covered := thins.covered
      unswept := thins.unswept
      limit := by rw [stays, thins.limit]
      limiters := ?_ }
  have later : Limiter.Thins idle holds (thinned.now.advance length) thinned.limiter
      whole.limiter := by
    rw [clocks]
    exact thins.limiters.later (Nat.le_add_right _ _)
  have due : ∀ sweep ∈ thinned.dueSweeps (thinned.now.advance length),
      idle.nanoseconds ≤ sweep.idle.nanoseconds := by
    intro sweep member
    rw [dueSweeps] at member
    split at member
    · cases member
    · exact thins.covered sweep (List.mem_filter.mp member).1
  have swept : Limiter.Thins idle holds (thinned.now.advance length)
      (thinned.advance length).limiter whole.limiter := later.sweeps _ due
  rw [clocks] at swept
  rw [stays]
  exact swept

variable [TokenNumber number]

theorem Thins.step (thins : Thins limit idle holds thinned whole)
    (refills : RefillsWithin limit idle holds) {step : LimiterStep} (use : step.isUse = true) :
    (thinned.step step).1 = (whole.step step).1 ∧
      Thins limit idle holds (thinned.step step).2 (whole.step step).2 := by
  have refilled : RefillsWithin whole.limiter.limit idle holds := by
    rw [thins.limit]
    exact refills
  cases step with
  | allow key =>
      have both := thins.limiters.allow refilled key
      have asked : (thinned.allow key).1 = (thinned.limiter.allow whole.now key).1 ∧
          (thinned.allow key).2.limiter = (thinned.limiter.allow whole.now key).2 := by
        rw [← thins.now]
        exact ⟨rfl, rfl⟩
      have answer : (thinned.allow key).1 = (whole.allow key).1 := asked.1.trans both.1
      refine ⟨congrArg LimiterAnswer.admission answer, ?_⟩
      exact
        { now := thins.now
          covered := thins.covered
          unswept := thins.unswept
          limit := thins.limit
          limiters := asked.2.symm ▸ both.2 }
  | wait key =>
      have forecast := thins.limiters.wait refilled key
      refine ⟨congrArg LimiterAnswer.forecast ?_, thins⟩
      rw [SweptLimiter.wait?, SweptLimiter.wait?, thins.now, forecast]
  | advance length => exact ⟨rfl, thins.advance length⟩
  | reclaim threshold => cases use
  | sweep interval threshold => cases use
  | stop => cases use

theorem Thins.answers (thins : Thins limit idle holds thinned whole)
    (refills : RefillsWithin limit idle holds) (steps : List LimiterStep)
    (uses : ∀ step ∈ steps, step.isUse = true) : thinned.answers steps = whole.answers steps := by
  induction steps generalizing thinned whole with
  | nil => rfl
  | cons step rest ih =>
      have restUses : ∀ other ∈ rest, other.isUse = true := by
        intro other member
        exact uses other (List.mem_cons_of_mem step member)
      obtain ⟨answer, after⟩ := thins.step refills (uses step List.mem_cons_self)
      rw [SweptLimiter.answers, SweptLimiter.answers, answer, ih after restUses]

end SweptLimiter

end CachingGateway
