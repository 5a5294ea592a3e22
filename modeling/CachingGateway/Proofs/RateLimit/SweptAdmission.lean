/-
Sweeps of a service that limits admission. The sweep of a running service drops what is idle for more
than five minutes. Callers do not notice it when the rate fills a bucket within that time, whatever
doubles round to on the way; at a slower rate a caller gets tokens that it had to wait for.
-/

import CachingGateway.Proofs.Number.Amounts
import CachingGateway.Proofs.RateLimit.ThinnedBuckets
import CachingGateway.Settings.Validity

namespace CachingGateway

/-! ### Counts in doubles -/

/-- Whole seconds and the part of a second after them are rounded, and then their sum. -/
theorem Duration.toBinary64_eq (length : Duration) : length.toBinary64 =
    Binary64.ofNat length.seconds +
      Binary64.signed false ((length.subsecond : ℚ) / nanosecondsPerSecond) := by
  have below : length.subsecond < nanosecondsPerSecond := Nat.mod_lt _ (by decide)
  have fits : nanosecondsPerSecond < 2 ^ 53 := by decide
  have nonzero : (nanosecondsPerSecond : ℚ) ≠ 0 := by
    rw [nanosecondsPerSecond]
    norm_num
  have part : Binary64.ofNat length.subsecond / Binary64.ofNat nanosecondsPerSecond =
      Binary64.signed false ((length.subsecond : ℚ) / nanosecondsPerSecond) := by
    have above (number : ℕ) : (Binary64.finite number).isNegative = false :=
      decide_eq_false (not_lt.mpr (Nat.cast_nonneg number))
    rw [Binary64.ofNat_eq_finite (below.trans fits), Binary64.ofNat_eq_finite fits]
    change Binary64.div _ _ = _
    simp only [Binary64.div, above, if_neg nonzero, bne_self_eq_false]
  rw [toBinary64, part]

theorem Duration.fraction_nonneg (length : Duration) :
    (0 : ℚ) ≤ (length.subsecond : ℚ) / nanosecondsPerSecond :=
  div_nonneg (Nat.cast_nonneg _) (Nat.cast_nonneg _)

theorem Duration.subsecond_reaches (length : Duration) :
    (Binary64.signed false ((length.subsecond : ℚ) / nanosecondsPerSecond)).Reaches (0 : ℕ) := by
  refine Binary64.signed_reaches (by decide) _ ?_
  rw [Nat.cast_zero]
  exact length.fraction_nonneg

theorem Duration.toBinary64_reaches {seconds : ℕ} (small : seconds < 2 ^ 53) {length : Duration}
    (long : seconds * nanosecondsPerSecond ≤ length.nanoseconds) :
    length.toBinary64.Reaches seconds := by
  have whole : (Binary64.ofNat length.seconds).Reaches seconds := by
    refine Binary64.round_reaches small ?_
    have floors : seconds ≤ length.seconds := (Nat.le_div_iff_mul_le (by decide)).mpr long
    exact_mod_cast floors
  rw [toBinary64_eq]
  exact Binary64.add_reaches small whole length.subsecond_reaches

theorem Limiter.hasToken_iff_reaches (tokens : Binary64) :
    hasToken tokens = true ↔ tokens.Reaches 1 := by
  have one : (TokenNumber.ofNat 1 : Binary64) = .finite 1 := Binary64.ofNat_eq_finite (by decide)
  rw [hasToken, one]
  change Binary64.atMost (.finite 1) tokens = true ↔ _
  cases tokens with
  | nan => exact iff_of_false Bool.false_ne_true id
  | infinite negative =>
      change (!negative || false) = true ↔ negative = false
      rw [Bool.or_false, Bool.not_eq_true']
  | negativeZero => exact iff_of_false Bool.false_ne_true (not_le.mpr one_pos)
  | finite value =>
      change (decide (1 < value) || decide (Binary64.finite 1 = .finite value)) = true ↔ 1 ≤ value
      rw [Bool.or_eq_true, decide_eq_true_iff, decide_eq_true_iff, Binary64.finite.injEq,
        le_iff_lt_or_eq]

theorem Binary64.sub_one_reaches {tokens : Binary64} (ready : Limiter.hasToken tokens = true) :
    (tokens - Binary64.ofNat 1).Reaches (0 : ℕ) := by
  have whole := (Limiter.hasToken_iff_reaches tokens).mp ready
  cases tokens with
  | nan => cases whole
  | infinite negative =>
      have one : ofNat 1 = finite 1 := ofNat_eq_finite (by decide)
      cases whole
      rw [one]
      rfl
  | negativeZero => exact absurd whole (not_le.mpr one_pos)
  | finite value =>
      rw [finite_sub_one]
      exact round_reaches (by decide) (Nat.cast_zero.trans_le (sub_nonneg.mpr whole))

section

variable {limit : RateLimit Binary64} {rate : ℚ}

private theorem gained_reaches (finite : limit.rate = .finite rate) (positive : 0 < rate)
    {bucket : Bucket Binary64} {now : Instant} {held seconds gained : ℕ}
    (small : held + gained < 2 ^ 53) (short : seconds < 2 ^ 53)
    (holds : bucket.tokens.Reaches held)
    (long : seconds * Duration.nanosecondsPerSecond ≤ (now.elapsedSince bucket.lastRefill).nanoseconds)
    (order : (gained : ℚ) ≤ seconds * rate) :
    (bucket.tokens + (now.elapsedSince bucket.lastRefill).toBinary64 * limit.rate).Reaches
      ((held + gained : ℕ) : ℚ) := by
  have elapsed := Duration.toBinary64_reaches short long
  rw [finite]
  exact Binary64.add_reaches small holds
    (Binary64.mul_finite_reaches (by omega) positive order elapsed)

theorem Bucket.projected_reaches (finite : limit.rate = .finite rate) (positive : 0 < rate)
    (small : limit.burst < 2 ^ 53) {bucket : Bucket Binary64}
    (holds : bucket.tokens.Reaches (0 : ℕ)) (now : Instant) :
    (bucket.projected limit now).Reaches (0 : ℕ) := by
  have nothing : ((0 : ℕ) : ℚ) ≤ (0 : ℕ) * rate := by
    rw [Nat.cast_zero, zero_mul]
  have atOnce : 0 * Duration.nanosecondsPerSecond ≤
      (now.elapsedSince bucket.lastRefill).nanoseconds := by
    rw [Nat.zero_mul]
    exact Nat.zero_le _
  have sum := gained_reaches finite positive (by decide) (by decide) holds atOnce nothing
  have capacity : limit.capacity = Binary64.finite limit.burst := Binary64.ofNat_eq_finite small
  change (Binary64.minimum _ limit.capacity).Reaches _
  rw [capacity]
  exact Binary64.minimum_reaches sum (Nat.cast_le.mpr (Nat.zero_le _))

theorem keptByCalls_reaches (finite : limit.rate = .finite rate) (positive : 0 < rate)
    (small : limit.burst < 2 ^ 53) : KeptByCalls limit fun tokens => tokens.Reaches (0 : ℕ) where
  capacity := by
    have capacity : limit.capacity = Binary64.finite limit.burst := Binary64.ofNat_eq_finite small
    rw [capacity]
    exact Nat.cast_le.mpr (Nat.zero_le _)
  projected := fun _ now holds => Bucket.projected_reaches finite positive small holds now
  taken := fun _ _ => Binary64.sub_one_reaches

theorem refillsWithin_of_rate (finite : limit.rate = .finite rate) (positive : 0 < rate)
    (holding : 0 < limit.burst) (word : limit.burst ≤ Word.greatest32) {seconds : ℕ}
    (short : seconds < 2 ^ 53) (refilled : (limit.burst : ℚ) ≤ seconds * rate) :
    RefillsWithin limit (Duration.ofSeconds seconds) fun tokens => tokens.Reaches (0 : ℕ) := by
  have small : limit.burst < 2 ^ 53 := by
    rw [Word.greatest32] at word
    omega
  have capacity : limit.capacity = Binary64.finite limit.burst := Binary64.ofNat_eq_finite small
  have most : (0 : ℚ) < limit.burst := by exact_mod_cast holding
  have projection (bucket : Bucket Binary64) (now : Instant) : bucket.projected limit now =
      Binary64.minimum
        (bucket.tokens + (now.elapsedSince bucket.lastRefill).toBinary64 * limit.rate)
        limit.capacity := rfl
  have nothing : ((0 : ℕ) : ℚ) ≤ (0 : ℕ) * rate := by
    rw [Nat.cast_zero, zero_mul]
  have atOnce (length : Duration) : 0 * Duration.nanosecondsPerSecond ≤ length.nanoseconds := by
    rw [Nat.zero_mul]
    exact Nat.zero_le _
  have kept := keptByCalls_reaches finite positive small
  refine
    { capacity := kept.capacity
      projected := kept.projected
      taken := kept.taken
      refilled := ?_
      full := ?_
      available := ?_ }
  · intro bucket now holds idle
    have threshold : (Duration.ofSeconds seconds).nanoseconds =
        seconds * Duration.nanosecondsPerSecond := Nat.add_zero _
    have passed : (Duration.ofSeconds seconds).nanoseconds <
        (now.elapsedSince bucket.lastRefill).nanoseconds := of_decide_eq_true idle
    have long := threshold ▸ passed.le
    -- Rounding may lift the sum to an infinity but not push it below the burst, a whole number.
    have sum := gained_reaches finite positive (by omega) short holds long refilled
    rw [Nat.zero_add] at sum
    rw [projection, capacity]
    exact Binary64.minimum_eq_of_reaches most sum
  · intro now
    have holds : (Bucket.full limit now).tokens.Reaches limit.burst := by
      change limit.capacity.Reaches _
      rw [capacity]
      exact le_refl (limit.burst : ℚ)
    have sum := gained_reaches finite positive small (by decide) holds
      (atOnce (now.elapsedSince now)) nothing
    rw [projection, capacity]
    exact Binary64.minimum_eq_of_reaches most sum
  · apply (Limiter.hasToken_iff_reaches _).mpr
    rw [capacity]
    exact Nat.one_le_cast.mpr holding

end

/-! ### The sweep of a service -/

theorem Settings.limit_of_validate {settings : Settings} (valid : settings.validate = .ok ())
    (limited : settings.rateLimit.enabled = true) :
    isPositiveRate settings.rateLimit.requestsPerSecond = true ∧ 0 < settings.rateLimit.burst := by
  have faultless : settings.fault? = none := by
    rw [validate] at valid
    cases fault : settings.fault? with
    | none => rfl
    | some reason =>
        rw [fault] at valid
        cases valid
  rw [fault?] at faultless
  split at faultless
  · cases faultless
  split at faultless
  · cases faultless
  split at faultless
  · cases faultless
  split at faultless
  · cases faultless
  rename_i gaining
  split at faultless
  · cases faultless
  rename_i holding
  rw [limited, Bool.true_and] at gaining holding
  constructor
  · simpa using gaining
  · have nonzero : settings.rateLimit.burst ≠ 0 := by simpa using holding
    exact Nat.pos_of_ne_zero nonzero

def RateLimitSettings.limit (settings : RateLimitSettings) : RateLimit Binary64 :=
  ⟨settings.requestsPerSecond, settings.burst⟩

/-- The settings of a service that admits at a rate in bursts, all else being standard. -/
def Settings.limitedTo (rate : ℚ) (burst : ℕ) : Settings :=
  { Settings.default with
    rateLimit := { RateLimitSettings.default with requestsPerSecond := .finite rate, burst := burst } }

def returningCaller : List LimiterStep :=
  [.allow "caller", .advance (Duration.ofSeconds 360), .allow "caller"]

/-- At a token in seventeen minutes the sweep gives a caller a token after six. -/
theorem sweep_admits_early :
    (Settings.limitedTo (1 / 1024) 1).validate = .ok () ∧
      (Settings.limitedTo (1 / 1024) 1).rateLimit.enabled = true ∧
      (SweptLimiter.start (Settings.limitedTo (1 / 1024) 1).rateLimit.limit).answers returningCaller =
        [.admission true, .nothing, .admission true] ∧
      (SweptLimiter.bare (Settings.limitedTo (1 / 1024) 1).rateLimit.limit).answers returningCaller =
        [.admission true, .nothing, .admission false] := by
  have faultless : (Settings.limitedTo (1 / 1024) 1).fault? = none := by decide +kernel
  refine ⟨?_, rfl, ?_, ?_⟩
  · rw [Settings.validate, faultless]
  · decide +kernel
  · decide +kernel

/-- Where five minutes refill a bucket, no caller can tell that a service sweeps. -/
theorem sweep_unnoticed_when_refilled {settings : Settings} (valid : settings.validate = .ok ())
    (limited : settings.rateLimit.enabled = true)
    (word : settings.rateLimit.burst ≤ Word.greatest32) {rate : ℚ}
    (gained : settings.rateLimit.requestsPerSecond.toRat? = some rate)
    (refilled : (settings.rateLimit.burst : ℚ) ≤ rate * SweptLimiter.standardIdle.toRat)
    (steps : List LimiterStep) (uses : ∀ step ∈ steps, step.isUse = true) :
    (SweptLimiter.start settings.rateLimit.limit).answers steps =
      (SweptLimiter.bare settings.rateLimit.limit).answers steps := by
  obtain ⟨gaining, holding⟩ := Settings.limit_of_validate valid limited
  have finite : settings.rateLimit.limit.rate = .finite rate ∧ 0 < rate := by
    change settings.rateLimit.requestsPerSecond = _ ∧ _
    rw [Settings.isPositiveRate, Bool.and_eq_true] at gaining
    cases value : settings.rateLimit.requestsPerSecond with
    | nan =>
        rw [value] at gained
        cases gained
    | infinite negative =>
        rw [value] at gained
        cases gained
    | negativeZero =>
        rw [value] at gaining
        cases gaining.2
    | finite number =>
        rw [value] at gained gaining
        cases gained
        exact ⟨rfl, of_decide_eq_true gaining.2⟩
  have idle : SweptLimiter.standardIdle.toRat = (300 : ℕ) := by decide +kernel
  have covered : (settings.rateLimit.limit.burst : ℚ) ≤ (300 : ℕ) * rate := by
    rw [← idle, mul_comm]
    exact refilled
  have refills := refillsWithin_of_rate finite.1 finite.2 holding word (by decide) covered
  have thins : SweptLimiter.Thins settings.rateLimit.limit (Duration.ofSeconds 300)
      (fun tokens => tokens.Reaches (0 : ℕ)) (SweptLimiter.start settings.rateLimit.limit)
      (SweptLimiter.bare settings.rateLimit.limit) :=
    { now := rfl
      covered := by
        intro sweep member
        rw [List.mem_singleton.mp member]
        exact Nat.le_refl _
      unswept := rfl
      limit := rfl
      limiters := Limiter.thins_start _ _ }
  exact thins.answers refills steps uses

theorem sweep_unnoticed_at_one_each_second :
    (Settings.limitedTo 1 300).validate = .ok () ∧
      ((300 : ℕ) : ℚ) ≤ 1 * SweptLimiter.standardIdle.toRat ∧
      (SweptLimiter.start (Settings.limitedTo 1 300).rateLimit.limit).answers returningCaller =
        (SweptLimiter.bare (Settings.limitedTo 1 300).rateLimit.limit).answers returningCaller := by
  have faultless : (Settings.limitedTo 1 300).fault? = none := by decide +kernel
  have valid : (Settings.limitedTo 1 300).validate = .ok () := by
    rw [Settings.validate, faultless]
  have refilled : ((300 : ℕ) : ℚ) ≤ 1 * SweptLimiter.standardIdle.toRat := by decide +kernel
  refine ⟨valid, refilled, ?_⟩
  exact sweep_unnoticed_when_refilled valid rfl (by decide) rfl refilled returningCaller (by decide)

end CachingGateway
