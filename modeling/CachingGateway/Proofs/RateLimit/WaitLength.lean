/-
How long a denied caller is told to wait. The wait is the part of a token that is missing, divided by
the rate. It is a length of time at every rate above two to the minus sixty-four; at that rate and
below it a bucket that has been emptied asks for a wait that no length of time can hold.
-/

import CachingGateway.Proofs.Number.GridPoints
import CachingGateway.Proofs.RateLimit.AdmissionLaw
import CachingGateway.Proofs.RateLimit.SweptAdmission

namespace CachingGateway

/-! ### Seconds that make a length of time -/

namespace Duration

theorem bound_eq : bound = 2 ^ 64 * nanosecondsPerSecond := by decide

theorem ofRat?_eq_some {seconds : ℚ} (nonneg : 0 ≤ seconds) (short : seconds ≤ 2 ^ 64 - 1) :
    ofRat? seconds = some ⟨(nearestEven (seconds * (nanosecondsPerSecond : ℚ))).toNat⟩ := by
  have scaled : seconds * (nanosecondsPerSecond : ℚ) ≤
      (((2 ^ 64 - 1) * nanosecondsPerSecond : ℤ) : ℚ) := by
    rw [nanosecondsPerSecond]
    push_cast
    linarith
  have nearest := nearestEven_le scaled
  have within : (nearestEven (seconds * (nanosecondsPerSecond : ℚ))).toNat < bound := by
    rw [bound_eq]
    simp only [nanosecondsPerSecond] at nearest ⊢
    omega
  simp only [ofRat?, if_neg (not_lt.mpr nonneg), if_pos within]

theorem ofRat?_isSome {seconds : ℚ} (nonneg : 0 ≤ seconds)
    (short : seconds ≤ 2 ^ (64 : ℤ) - 2 ^ (11 : ℤ)) : (ofRat? seconds).isSome = true := by
  have shorter : seconds ≤ 2 ^ 64 - 1 := by
    norm_num at short ⊢
    linarith
  rw [ofRat?_eq_some nonneg shorter, Option.isSome_some]

theorem ofRat?_nearest {seconds : ℚ} (nonneg : 0 ≤ seconds) (short : seconds ≤ 2 ^ 64 - 1) :
    ∃ length, ofRat? seconds = some length ∧ |length.toRat - seconds| ≤ 1 / 2 / 1000000000 := by
  refine ⟨_, ofRat?_eq_some nonneg short, ?_⟩
  have scaled : ((0 : ℤ) : ℚ) ≤ seconds * (nanosecondsPerSecond : ℚ) := by
    rw [Int.cast_zero]
    exact mul_nonneg nonneg (Nat.cast_nonneg _)
  have whole := Int.toNat_of_nonneg (le_nearestEven scaled)
  have error := nearestEven_error (seconds * (nanosecondsPerSecond : ℚ))
  have natural : (((nearestEven (seconds * (nanosecondsPerSecond : ℚ))).toNat : ℕ) : ℚ) =
      nearestEven (seconds * (nanosecondsPerSecond : ℚ)) := by
    exact_mod_cast congrArg (Int.cast (R := ℚ)) whole
  rw [toRat_eq, natural]
  rw [nanosecondsPerSecond, abs_le] at error ⊢
  push_cast at error
  constructor
  · linarith [error.1]
  · linarith [error.2]

theorem ofRat?_eq_none {seconds : ℚ} (long : (2 : ℚ) ^ (64 : ℤ) ≤ seconds) :
    ofRat? seconds = none := by
  have positive : 0 < seconds := (Binary64.two_zpow_pos 64).trans_le long
  have scaled : ((2 ^ 64 * nanosecondsPerSecond : ℤ) : ℚ) ≤
      seconds * (nanosecondsPerSecond : ℚ) := by
    rw [nanosecondsPerSecond]
    push_cast
    norm_num at long
    linarith
  have nearest := le_nearestEven scaled
  have outside : ¬(nearestEven (seconds * (nanosecondsPerSecond : ℚ))).toNat < bound := by
    rw [bound_eq]
    simp only [nanosecondsPerSecond] at nearest ⊢
    omega
  simp only [ofRat?, if_neg (not_lt.mpr positive.le), if_neg outside]

theorem ofBinary64?_of_reaches {seconds : Binary64}
    (long : seconds.Reaches ((2 : ℚ) ^ (64 : ℤ))) : ofBinary64? seconds = none := by
  cases seconds with
  | nan => cases long
  | infinite negative => rfl
  | negativeZero => exact absurd long (not_le.mpr (Binary64.two_zpow_pos 64))
  | finite value => exact ofRat?_eq_none long

end Duration

/-! ### The part of a token that is missing -/

namespace Binary64

theorem onGrid_one : OnGrid 1 := by
  have grid : OnGrid ((2 : ℚ) ^ (0 : ℤ)) := onGrid_two_zpow (by decide)
  rwa [zpow_zero] at grid

theorem one_lt_overflowBound : (1 : ℚ) < overflowBound := by
  rw [overflowBound, twoPower_eq, ← zpow_zero (2 : ℚ)]
  exact two_zpow_lt_iff.mpr (by decide)

theorem one_sub_finite (held : ℚ) : ofNat 1 - finite held = signed false (1 - held) := by
  have one : ofNat 1 = finite 1 := ofNat_eq_finite (by decide)
  rw [one]
  change add (finite 1) (neg (finite held)) = _
  rw [neg]
  split
  · rename_i zero
    simp only [add, addFinite, zero, add_zero, sub_zero]
  · simp only [add, addFinite, sub_eq_add_neg]

theorem missing_part {tokens : Binary64} (holds : tokens.Reaches (0 : ℕ))
    (short : Limiter.hasToken tokens = false) :
    ∃ missing, ofNat 1 - tokens = finite missing ∧ 0 ≤ missing ∧ missing ≤ 1 := by
  have unreached : ¬tokens.Reaches 1 := by
    rw [← Limiter.hasToken_iff_reaches, Bool.not_eq_true]
    exact short
  have rounded (held : ℚ) (low : 0 ≤ held) (high : held < 1) :
      ∃ missing, signed false (1 - held) = finite missing ∧ 0 ≤ missing ∧ missing ≤ 1 :=
    signed_le_onGrid (by linarith) onGrid_one (by linarith) one_lt_overflowBound
  cases tokens with
  | nan => cases holds
  | infinite negative =>
      cases holds
      exact absurd rfl unreached
  | negativeZero =>
      have one : ofNat 1 = finite 1 := ofNat_eq_finite (by decide)
      have whole : ofNat 1 - negativeZero = signed false (1 - 0) := by
        rw [one]
        change add (finite 1) (neg negativeZero) = _
        simp only [neg, add, addFinite, add_zero, sub_zero]
      rw [whole]
      exact rounded 0 le_rfl one_pos
  | finite held =>
      have low : 0 ≤ held := by simpa [Reaches] using holds
      rw [one_sub_finite]
      exact rounded held low (not_le.mp unreached)

theorem div_finite {dividend divisor : ℚ} (nonneg : 0 ≤ dividend) (positive : 0 < divisor) :
    finite dividend / finite divisor = signed false (dividend / divisor) := by
  have above : (finite dividend).isNegative = false := decide_eq_false (not_lt.mpr nonneg)
  have below : (finite divisor).isNegative = false := decide_eq_false (not_lt.mpr positive.le)
  change div _ _ = _
  simp only [div, above, below, if_neg positive.ne', bne_self_eq_false]

end Binary64

/-- The least rate at which every wait is a length of time is the double after this one. -/
def RateLimit.leastRate : ℚ := 2 ^ (-64 : ℤ)

section

variable {rate : ℚ}

theorem Binary64.quotient_le (double : Binary64.round rate = .finite rate)
    (fast : RateLimit.leastRate < rate) {missing : ℚ} (whole : missing ≤ 1) :
    missing / rate ≤ 2 ^ (64 : ℤ) - 2 ^ (11 : ℤ) := by
  have positive : 0 < rate := (two_zpow_pos (-64)).trans fast
  have next : (2 : ℚ) ^ (-64 : ℤ) + 2 ^ ((-64 : ℤ) - 52) ≤ rate :=
    (onGrid_of_round positive double).after_two_zpow (by decide) fast
  rw [div_le_iff₀ positive]
  have step : (1 : ℚ) ≤ (2 ^ (64 : ℤ) - 2 ^ (11 : ℤ)) * (2 ^ (-64 : ℤ) + 2 ^ ((-64 : ℤ) - 52)) := by
    norm_num
  have factor : (0 : ℚ) ≤ 2 ^ (64 : ℤ) - 2 ^ (11 : ℤ) := by norm_num
  exact whole.trans (step.trans (mul_le_mul_of_nonneg_left next factor))

theorem Binary64.forecast_isSome (double : Binary64.round rate = .finite rate)
    (fast : RateLimit.leastRate < rate) {tokens : Binary64} (holds : tokens.Reaches (0 : ℕ))
    (short : Limiter.hasToken tokens = false) :
    (Duration.ofBinary64? ((Binary64.ofNat 1 - tokens) / .finite rate)).isSome = true := by
  have positive : 0 < rate := (two_zpow_pos (-64)).trans fast
  obtain ⟨missing, part, nonneg, whole⟩ := missing_part holds short
  have grid : OnGrid ((2 : ℚ) ^ (64 : ℤ) - 2 ^ ((64 : ℤ) - 53)) :=
    onGrid_before_two_zpow (by decide)
  have fits : (2 : ℚ) ^ (64 : ℤ) - 2 ^ ((64 : ℤ) - 53) < overflowBound := by
    rw [overflowBound, twoPower_eq]
    exact (sub_lt_self _ (two_zpow_pos _)).trans (two_zpow_lt_iff.mpr (by decide))
  obtain ⟨seconds, wait, low, high⟩ := signed_le_onGrid (div_nonneg nonneg positive.le) grid
    (quotient_le double fast whole) fits
  rw [part, div_finite nonneg positive, wait]
  exact Duration.ofRat?_isSome low high

theorem Binary64.forecast_eq_none (positive : 0 < rate) (slow : rate ≤ RateLimit.leastRate) :
    Duration.ofBinary64? ((Binary64.ofNat 1 - .finite 0) / .finite rate) = none := by
  have one : ofNat 1 - finite 0 = finite 1 := by decide +kernel
  have grid : OnGrid ((2 : ℚ) ^ (64 : ℤ)) := onGrid_two_zpow (by decide)
  have long : (2 : ℚ) ^ (64 : ℤ) ≤ 1 / rate := by
    rw [le_div_iff₀ positive]
    calc (2 : ℚ) ^ (64 : ℤ) * rate ≤ 2 ^ (64 : ℤ) * 2 ^ (-64 : ℤ) :=
          mul_le_mul_of_nonneg_left slow (two_zpow_pos 64).le
      _ = 1 := by norm_num
  rw [one, div_finite zero_le_one positive]
  exact Duration.ofBinary64?_of_reaches (signed_reaches_onGrid grid long false)

end

/-! ### Limiters that never owe tokens -/

namespace Limiter

/-- A limiter with a limit and distinct keys, and with no bucket below zero. -/
structure Solvent (limit : RateLimit Binary64) (limiter : Limiter Binary64) : Prop where
  limit : limiter.limit = limit
  distinct : limiter.buckets.keys.Nodup
  holds : ∀ key bucket, limiter.buckets.find? key = some bucket → bucket.tokens.Reaches (0 : ℕ)

theorem solvent_start (limit : RateLimit Binary64) : Solvent limit (start limit) where
  limit := rfl
  distinct := List.nodup_nil
  holds := by
    intro key bucket found
    cases found

namespace Solvent

variable {limit : RateLimit Binary64} {limiter : Limiter Binary64} {rate : ℚ}

theorem reclaim (solvent : Solvent limit limiter) (now : Instant) (idle : Duration) :
    Solvent limit (limiter.reclaim now idle) where
  limit := solvent.limit
  distinct := Table.nodup_keys_filterValues solvent.distinct _
  holds := fun key bucket found =>
    solvent.holds key bucket (held_before_reclaim solvent.distinct found)

theorem allow (solvent : Solvent limit limiter) (finite : limit.rate = .finite rate)
    (positive : 0 < rate) (small : limit.burst < 2 ^ 53) (now : Instant) (key : String) :
    Solvent limit (limiter.allow now key).2 where
  limit := solvent.limit
  distinct := Table.nodup_keys_insert solvent.distinct key _
  holds := (keptByCalls_reaches finite positive small).allow solvent.limit solvent.holds now key

theorem wait?_isSome (solvent : Solvent limit limiter) (finite : limit.rate = .finite rate)
    (small : limit.burst < 2 ^ 53) (double : Binary64.round rate = .finite rate)
    (fast : RateLimit.leastRate < rate) (now : Instant) (key : String) :
    (limiter.wait? now key).isSome = true := by
  have positive : 0 < rate := (Binary64.two_zpow_pos (-64)).trans fast
  unfold wait?
  cases found : limiter.buckets.find? key with
  | none => rfl
  | some bucket =>
      have tokens := Bucket.projected_reaches finite positive small (solvent.holds key bucket found) now
      rw [solvent.limit, finite]
      dsimp only
      split
      · rfl
      · rename_i short
        exact Binary64.forecast_isSome double fast tokens (Bool.eq_false_iff.mpr short)

end Solvent

end Limiter

/-! ### Buckets that are emptied at one instant -/

section

variable {limit : RateLimit Binary64} {rate : ℚ} {count : ℕ}

theorem Duration.toBinary64_zero : Duration.zero.toBinary64 = .finite 0 := by decide +kernel

theorem Bucket.projected_same_instant (finite : limit.rate = .finite rate) (positive : 0 < rate)
    (small : limit.burst < 2 ^ 53) {held : ℚ} (double : Binary64.round held = .finite held)
    (within : held ≤ limit.burst) (now : Instant) :
    (Bucket.mk (Binary64.finite held) now).projected limit now = .finite held := by
  have atOnce : now.elapsedSince now = Duration.zero := congrArg Duration.mk (Nat.sub_self _)
  have gained : Duration.zero.toBinary64 * limit.rate = .finite 0 := by
    rw [Duration.toBinary64_zero, finite, Binary64.finite_mul_finite le_rfl positive.le, zero_mul]
    exact Binary64.isAmount_zero.2
  have sum : Binary64.finite held + .finite 0 = .finite held := by
    rw [Binary64.finite_add_finite, add_zero, double]
  have capacity : limit.capacity = Binary64.finite limit.burst := Binary64.ofNat_eq_finite small
  rw [projected, atOnce]
  change Binary64.minimum (Binary64.finite held + Duration.zero.toBinary64 * limit.rate)
    limit.capacity = _
  rw [gained, sum, capacity]
  simp [Binary64.minimum, Binary64.less, not_lt.mpr within]

theorem Bucket.projected_at_once (finite : limit.rate = .finite rate) (positive : 0 < rate)
    (small : limit.burst < 2 ^ 53) (within : count ≤ limit.burst) (now : Instant) :
    (Bucket.mk (Binary64.finite count) now).projected limit now = .finite count :=
  projected_same_instant finite positive small (Binary64.ofNat_eq_finite (within.trans_lt small))
    (Nat.cast_le.mpr within) now

namespace Limiter

theorem bucket_allow (limiter : Limiter Binary64) (now : Instant) (key : String) :
    (limiter.allow now key).2.bucket now key =
      ⟨leftover ((limiter.bucket now key).projected limiter.limit now), now⟩ := by
  rw [bucket, find?_allow, if_pos rfl, Option.getD_some]

/-- At an instant a key has a whole number of tokens. -/
structure Holds (limit : RateLimit Binary64) (now : Instant) (key : String) (count : ℕ)
    (limiter : Limiter Binary64) : Prop where
  sameLimit : limiter.limit = limit
  within : count ≤ limit.burst
  tokens : (limiter.bucket now key).projected limit now = .finite count

variable {limiter : Limiter Binary64} {now : Instant} {key : String}

theorem leftover_succ (small : count + 1 < 2 ^ 53) :
    leftover (Binary64.finite (count + 1 : ℕ)) = .finite count := by
  have ready : hasToken (Binary64.finite (count + 1 : ℕ)) = true := by
    rw [hasToken_iff_reaches]
    exact Nat.one_le_cast.mpr (Nat.le_add_left 1 count)
  have rest : ((count + 1 : ℕ) : ℚ) - 1 = count := by
    rw [Nat.cast_add_one, add_sub_cancel_right]
  rw [leftover, if_pos ready]
  change Binary64.finite _ - Binary64.ofNat 1 = _
  rw [Binary64.finite_sub_one, rest]
  exact Binary64.ofNat_eq_finite (Nat.lt_of_succ_lt small)

theorem hasToken_zero : hasToken (Binary64.finite (0 : ℕ)) = false := by decide +kernel

namespace Holds

theorem start (finite : limit.rate = .finite rate) (positive : 0 < rate)
    (small : limit.burst < 2 ^ 53) : Holds limit now key limit.burst (Limiter.start limit) where
  sameLimit := rfl
  within := le_rfl
  tokens := by
    have capacity : limit.capacity = Binary64.finite limit.burst := Binary64.ofNat_eq_finite small
    have full : (Limiter.start limit).bucket now key = ⟨.finite limit.burst, now⟩ :=
      congrArg (Bucket.mk · now) capacity
    rw [full]
    exact Bucket.projected_at_once finite positive small le_rfl now

theorem allow (finite : limit.rate = .finite rate) (positive : 0 < rate)
    (small : limit.burst < 2 ^ 53) (held : Holds limit now key (count + 1) limiter) :
    Holds limit now key count (limiter.allow now key).2 where
  sameLimit := held.sameLimit
  within := (Nat.le_succ count).trans held.within
  tokens := by
    rw [bucket_allow, held.sameLimit, held.tokens, leftover_succ (held.within.trans_lt small)]
    exact Bucket.projected_at_once finite positive small ((Nat.le_succ count).trans held.within) now

theorem denied (held : Holds limit now key 0 limiter) : (limiter.allow now key).1 = false := by
  change hasToken ((limiter.bucket now key).projected limiter.limit now) = false
  rw [held.sameLimit, held.tokens, hasToken_zero]

theorem wait?_eq_none (finite : limit.rate = .finite rate) (positive : 0 < rate)
    (small : limit.burst < 2 ^ 53) (slow : rate ≤ RateLimit.leastRate)
    (held : Holds limit now key 0 limiter) : (limiter.allow now key).2.wait? now key = none := by
  have sameLimit : (limiter.allow now key).2.limit = limit := held.sameLimit
  have stillNone : (Bucket.mk (Binary64.finite (0 : ℕ)) now).projected limit now = .finite (0 : ℕ) :=
    Bucket.projected_at_once finite positive small (Nat.zero_le _) now
  have left : leftover (Binary64.finite (0 : ℕ)) = .finite (0 : ℕ) := by
    rw [leftover, hasToken_zero, if_neg Bool.false_ne_true]
  rw [wait?, find?_allow, if_pos rfl, sameLimit, held.sameLimit, held.tokens, left]
  dsimp only
  rw [stillNone, hasToken_zero, if_neg Bool.false_ne_true, finite, Nat.cast_zero]
  exact Binary64.forecast_eq_none positive slow

end Holds

end Limiter

end

end CachingGateway
