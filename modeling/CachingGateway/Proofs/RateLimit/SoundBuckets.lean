/-
What holds of every bucket, whatever a limiter was asked and however it was swept. A property of counts
that a full bucket has, and that refilling it and taking a token from it keep, holds of all buckets; and
no bucket was last called later than now. Over the rationals no bucket owes tokens.
-/

import CachingGateway.Proofs.RateLimit.AdmissionLaw
import CachingGateway.Proofs.RateLimit.HeldBuckets

namespace CachingGateway

namespace SweptLimiter

variable {number : Type} {limit : RateLimit number} {holds : number → Prop}
  {swept : SweptLimiter number}

structure Sound (limit : RateLimit number) (holds : number → Prop) (swept : SweptLimiter number) :
    Prop where
  limit : swept.limiter.limit = limit
  distinct : swept.limiter.buckets.keys.Nodup
  holds : ∀ key bucket, swept.limiter.buckets.find? key = some bucket → holds bucket.tokens
  past : ∀ key bucket, swept.limiter.buckets.find? key = some bucket →
    bucket.lastRefill.nanoseconds ≤ swept.now.nanoseconds

theorem sound_bare (limit : RateLimit number) (holds : number → Prop) :
    Sound limit holds (bare limit) where
  limit := rfl
  distinct := List.nodup_nil
  holds := by
    intro key bucket found
    cases found
  past := by
    intro key bucket found
    cases found

theorem limit_sweeps (limiter : Limiter number) (now : Instant) (due : List Sweep) :
    (due.foldl (fun held sweep => held.reclaim now sweep.idle) limiter).limit = limiter.limit := by
  induction due generalizing limiter with
  | nil => rfl
  | cons sweep rest ih => exact ih (limiter.reclaim now sweep.idle)

variable [TokenNumber number]

theorem limit_step (swept : SweptLimiter number) (step : LimiterStep) :
    (swept.step step).2.limiter.limit = swept.limiter.limit := by
  cases step with
  | allow key => rfl
  | wait key => rfl
  | advance length => exact limit_sweeps swept.limiter _ _
  | reclaim idle => rfl
  | sweep interval idle => rfl
  | stop => rfl

theorem now_le_step (swept : SweptLimiter number) (step : LimiterStep) :
    swept.now.nanoseconds ≤ (swept.step step).2.now.nanoseconds := by
  cases step with
  | allow key => exact Nat.le_refl _
  | wait key => exact Nat.le_refl _
  | advance length => exact Nat.le_add_right _ _
  | reclaim idle => exact Nat.le_refl _
  | sweep interval idle => exact Nat.le_refl _
  | stop => exact Nat.le_refl _

theorem Sound.step (sound : Sound limit holds swept) (kept : KeptByCalls limit holds)
    (step : LimiterStep) : Sound limit holds (swept.step step).2 where
  limit := (limit_step swept step).trans sound.limit
  distinct := nodup_keys_step sound.distinct step
  holds := by
    intro key bucket found
    rcases held_before_step sound.distinct found with ⟨rfl, _⟩ | ⟨_, before⟩
    · exact kept.allow sound.limit sound.holds swept.now key key bucket found
    · exact sound.holds key bucket before
  past := by
    intro key bucket found
    have passed := now_le_step swept step
    rcases held_before_step sound.distinct found with ⟨_, moment⟩ | ⟨_, before⟩
    · rw [moment]
      exact passed
    · exact (sound.past key bucket before).trans passed

theorem Sound.run (sound : Sound limit holds swept) (kept : KeptByCalls limit holds)
    (steps : List LimiterStep) : Sound limit holds (swept.run steps) := by
  induction steps generalizing swept with
  | nil => exact sound
  | cons step rest ih => exact ih (sound.step kept step)

end SweptLimiter

theorem keptByCalls_nonneg {limit : RateLimit Rat} (gaining : 0 < limit.rate) :
    KeptByCalls limit fun tokens => 0 ≤ tokens where
  capacity := Nat.cast_nonneg limit.burst
  projected := by
    intro bucket now held
    have gained := mul_nonneg (Duration.toRat_nonneg (now.elapsedSince bucket.lastRefill)) gaining.le
    rw [Bucket.projected_eq]
    apply le_min
    · exact add_nonneg held gained
    · exact Nat.cast_nonneg limit.burst
  taken := by
    intro tokens _ ready
    have whole : (TokenNumber.ofNat 1 : ℚ) = 1 := Nat.cast_one
    rw [whole]
    exact sub_nonneg.mpr ((Limiter.hasToken_iff tokens).mp ready)

end CachingGateway
