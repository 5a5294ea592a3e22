/-
The range of token counts in doubles. A bucket holds a rational number of tokens from zero to the burst,
whatever its limiter was asked and however far the clock was moved on, also where the time at the rate is
an infinity in doubles. Left alone a bucket loses no tokens: a longer time is no fewer seconds, and what
the seconds become in doubles on the way to the tokens keeps their order.
-/

import CachingGateway.Proofs.Number.DoubleOrder
import CachingGateway.Proofs.RateLimit.RefilledToken
import CachingGateway.Proofs.RateLimit.SoundBuckets

namespace CachingGateway

/-! ### Longer times -/

namespace Duration

theorem fraction_le (length : Duration) :
    (length.subsecond : ℚ) / nanosecondsPerSecond ≤ 2 ^ (0 : ℤ) - 2 ^ ((0 : ℤ) - 53) := by
  have below : length.subsecond < nanosecondsPerSecond := Nat.mod_lt _ (by decide)
  have most : (length.subsecond : ℚ) ≤ 999999999 := by exact_mod_cast Nat.le_pred_of_lt below
  rw [nanosecondsPerSecond]
  norm_num
  linarith

theorem exists_part (length : Duration) :
    ∃ part, Binary64.signed false ((length.subsecond : ℚ) / nanosecondsPerSecond) = .finite part ∧
      0 ≤ part ∧ part < 1 := by
  have before : (2 : ℚ) ^ (0 : ℤ) - 2 ^ ((0 : ℤ) - 53) < 1 := by norm_num
  obtain ⟨part, rounded, least, most⟩ := Binary64.signed_le_onGrid length.fraction_nonneg
    (Binary64.onGrid_before_two_zpow (by decide)) length.fraction_le
    (before.trans Binary64.one_lt_overflowBound)
  exact ⟨part, rounded, least, most.trans_lt before⟩

theorem upTo_next_second (length : Duration) :
    length.toBinary64.UpTo (Binary64.ofNat (length.seconds + 1)) := by
  obtain ⟨part, rounded, nonneg, less⟩ := length.exists_part
  rw [toBinary64_eq, rounded]
  exact Binary64.ofNat_add_part_upTo length.seconds nonneg less

theorem toBinary64_upTo {length longer : Duration} (order : length.nanoseconds ≤ longer.nanoseconds) :
    length.toBinary64.UpTo longer.toBinary64 := by
  have wholes : length.seconds ≤ longer.seconds := Nat.div_le_div_right order
  rcases wholes.eq_or_lt with same | more
  · have parts : length.subsecond ≤ longer.subsecond := by
      have first := Nat.div_add_mod length.nanoseconds nanosecondsPerSecond
      have second := Nat.div_add_mod longer.nanoseconds nanosecondsPerSecond
      change length.nanoseconds / nanosecondsPerSecond = longer.nanoseconds / nanosecondsPerSecond
        at same
      rw [same] at first
      exact (Nat.add_le_add_iff_left).mp (first.trans_le (order.trans second.ge))
    have rest : (length.subsecond : ℚ) / nanosecondsPerSecond ≤
        (longer.subsecond : ℚ) / nanosecondsPerSecond :=
      div_le_div_of_nonneg_right (Nat.cast_le.mpr parts) (Nat.cast_nonneg _)
    rw [toBinary64_eq, toBinary64_eq, same, Binary64.signed_false, Binary64.signed_false]
    apply (Binary64.round_upTo length.fraction_nonneg rest).add_left
    · exact Binary64.isAmount_round length.fraction_nonneg
    · exact Binary64.isAmount_round longer.fraction_nonneg
    · exact Binary64.isAmount_ofNat longer.seconds
  · have between := Binary64.ofNat_upTo more
    have beyond : (Binary64.ofNat longer.seconds).UpTo longer.toBinary64 := by
      rw [toBinary64_eq]
      apply (Binary64.isAmount_ofNat longer.seconds).upTo_add
      exact Binary64.isAmount_signed longer.fraction_nonneg
    exact length.upTo_next_second.trans (between.trans beyond)

end Duration

/-! ### Counts within the burst -/

theorem Binary64.IsAmount.sub_one {tokens : Binary64} (counts : tokens.IsAmount)
    (ready : Limiter.hasToken tokens = true) :
    (tokens - Binary64.ofNat 1).IsAmount ∧ (tokens - Binary64.ofNat 1).UpTo tokens := by
  have whole := (Limiter.hasToken_iff_reaches tokens).mp ready
  rcases counts.infinite_or_finite with rfl | ⟨held, rfl, _, double⟩
  · have rest : infinite false - ofNat 1 = infinite false := by
      rw [ofNat_eq_finite (by decide : 1 < 2 ^ 53)]
      rfl
    rw [rest]
    exact ⟨counts, UpTo.refl _⟩
  · have left : 0 ≤ held - 1 := sub_nonneg.mpr whole
    have lower := round_upTo left (sub_le_self held zero_le_one)
    rw [double] at lower
    rw [finite_sub_one]
    exact ⟨isAmount_round left, lower⟩

section

variable {limit : RateLimit Binary64} {rate : ℚ} {bucket : Bucket Binary64} {earlier later : Instant}

/-- An amount of tokens that is not above the burst. -/
structure RateLimit.Allots (limit : RateLimit Binary64) (tokens : Binary64) : Prop where
  counts : tokens.IsAmount
  capped : tokens.UpTo limit.capacity

theorem RateLimit.capacity_isAmount (limit : RateLimit Binary64) : limit.capacity.IsAmount :=
  Binary64.isAmount_ofNat limit.burst

theorem RateLimit.Usable.sum_isAmount (usable : limit.Usable rate) (counts : bucket.tokens.IsAmount)
    (now : Instant) :
    (bucket.tokens + (now.elapsedSince bucket.lastRefill).toBinary64 * limit.rate).IsAmount :=
  (usable.gained_isAmount _).add counts.reaches_zero

theorem Bucket.projected_allots (usable : limit.Usable rate) (counts : bucket.tokens.IsAmount)
    (now : Instant) : limit.Allots (bucket.projected limit now) where
  counts := projected_isAmount usable counts.reaches_zero now
  capped := (usable.sum_isAmount counts now).minimum_upTo_right limit.capacity_isAmount

theorem Bucket.upTo_projected (usable : limit.Usable rate) (allotted : limit.Allots bucket.tokens)
    (now : Instant) : bucket.tokens.UpTo (bucket.projected limit now) := by
  have gained := allotted.counts.upTo_add
    (usable.gained_isAmount (now.elapsedSince bucket.lastRefill))
  exact gained.minimum allotted.capped

theorem Bucket.projected_upTo (usable : limit.Usable rate) (counts : bucket.tokens.IsAmount)
    (order : earlier.nanoseconds ≤ later.nanoseconds) :
    (bucket.projected limit earlier).UpTo (bucket.projected limit later) := by
  have longer : (earlier.elapsedSince bucket.lastRefill).nanoseconds ≤
      (later.elapsedSince bucket.lastRefill).nanoseconds := Nat.sub_le_sub_right order _
  have gained : ((earlier.elapsedSince bucket.lastRefill).toBinary64 * limit.rate).UpTo
      ((later.elapsedSince bucket.lastRefill).toBinary64 * limit.rate) := by
    rw [usable.finite]
    exact (Duration.toBinary64_upTo longer).mul_finite (Duration.isAmount_toBinary64 _)
      (Duration.isAmount_toBinary64 _) usable.positive
  have sum := gained.add_left (usable.gained_isAmount _) (usable.gained_isAmount _) counts
  have uncapped := (usable.sum_isAmount counts earlier).minimum_upTo_left limit.capacity_isAmount
  exact (uncapped.trans sum).minimum (projected_allots usable counts earlier).capped

theorem RateLimit.Usable.keptByCalls_allots (usable : limit.Usable rate) :
    KeptByCalls limit limit.Allots where
  capacity := ⟨limit.capacity_isAmount, Binary64.UpTo.refl _⟩
  projected := fun _ now allotted => Bucket.projected_allots usable allotted.counts now
  taken := by
    intro tokens allotted ready
    obtain ⟨counts, lower⟩ := allotted.counts.sub_one ready
    exact ⟨counts, lower.trans allotted.capped⟩

theorem RateLimit.Usable.exists_allotted (usable : limit.Usable rate) {tokens : Binary64}
    (allotted : limit.Allots tokens) :
    ∃ held, tokens = .finite held ∧ 0 ≤ held ∧ held ≤ limit.burst := by
  have capped := allotted.capped
  rw [usable.capacity_eq] at capped
  have cap : (Binary64.finite limit.burst).IsAmount := usable.capacity_eq ▸ limit.capacity_isAmount
  rcases capped.infinite_or_finite allotted.counts cap with beyond | ⟨held, most, rfl, same, parts⟩
  · cases beyond
  · cases same
    exact ⟨held, rfl, parts⟩

end

/-! ### Runs -/

namespace SweptLimiter

/-- Each bucket that a limiter holds after any run was not last refilled later than now, and it holds a
rational number of tokens from zero to the burst. What it would hold at any time is at least that, at most
the burst, and no more than what it would hold at a later time. -/
theorem tokens_stay_in_range (limit : RateLimit Binary64) {rate : ℚ}
    (finite : limit.rate = .finite rate) (positive : 0 < rate) (holding : 1 ≤ limit.burst)
    (word : limit.burst ≤ Word.greatest32) (steps : List LimiterStep) :
    let swept := (bare limit).run steps
    ∀ key bucket, (key, bucket) ∈ swept.limiter.buckets.rows →
      bucket.lastRefill.nanoseconds ≤ swept.now.nanoseconds ∧
        ∃ held, bucket.tokens = .finite held ∧ 0 ≤ held ∧ held ≤ limit.burst ∧
          ∀ earlier later : Instant, earlier.nanoseconds ≤ later.nanoseconds →
            ∃ less more, bucket.projected limit earlier = .finite less ∧
              bucket.projected limit later = .finite more ∧
              held ≤ less ∧ less ≤ more ∧ more ≤ limit.burst := by
  intro swept key bucket row
  have small : limit.burst < 2 ^ 53 := word.trans_lt (by decide)
  have usable : limit.Usable rate := ⟨finite, positive, small, holding⟩
  have sound : Sound limit limit.Allots swept :=
    (sound_bare limit _).run usable.keptByCalls_allots steps
  have found := (Table.find?_eq_some_iff sound.distinct key bucket).mpr row
  have allotted := sound.holds key bucket found
  obtain ⟨held, tokens, nonneg, within⟩ := usable.exists_allotted allotted
  refine ⟨sound.past key bucket found, held, tokens, nonneg, within, ?_⟩
  intro earlier later order
  obtain ⟨less, before, _, _⟩ :=
    usable.exists_allotted (Bucket.projected_allots usable allotted.counts earlier)
  obtain ⟨more, after, _, most⟩ :=
    usable.exists_allotted (Bucket.projected_allots usable allotted.counts later)
  have kept := Bucket.upTo_projected usable allotted earlier
  have grown := Bucket.projected_upTo usable allotted.counts order
  rw [tokens, before, Binary64.finite_upTo_iff] at kept
  rw [before, after, Binary64.finite_upTo_iff] at grown
  exact ⟨less, more, before, after, kept, grown, most⟩

/-- At the greatest power of two that is a double, two seconds refill a bucket by an infinity. -/
def hastyRun : List LimiterStep :=
  [.allow "caller", .allow "caller", .allow "caller", .wait "caller",
    .advance (Duration.ofSeconds 2), .reclaim (Duration.ofSeconds 2), .allow "caller"]

theorem tokens_stay_in_range_hastyRun :
    let limit : RateLimit Binary64 := ⟨.finite (2 ^ 1023), 2⟩
    let swept := (bare limit).run hastyRun
    let bucket : Bucket Binary64 := ⟨.finite 1, ⟨2000000000⟩⟩
    (0 < (2 : ℚ) ^ 1023 ∧ 1 ≤ limit.burst ∧ limit.burst ≤ Word.greatest32) ∧
      (Duration.ofSeconds 2).toBinary64 * limit.rate = .infinite false ∧
      ("caller", bucket) ∈ swept.limiter.buckets.rows ∧
      bucket.lastRefill.nanoseconds ≤ swept.now.nanoseconds ∧
      ∃ held, bucket.tokens = .finite held ∧ 0 ≤ held ∧ held ≤ limit.burst ∧
        ∃ less more, bucket.projected limit ⟨2000000000⟩ = .finite less ∧
          bucket.projected limit ⟨4000000000⟩ = .finite more ∧
          held ≤ less ∧ less ≤ more ∧ more ≤ limit.burst := by
  intro limit swept bucket
  have positive : 0 < (2 : ℚ) ^ 1023 := by positivity
  have product : (Duration.ofSeconds 2).toBinary64 * limit.rate = .infinite false := by
    decide +kernel
  have row : ("caller", bucket) ∈ swept.limiter.buckets.rows := by decide +kernel
  obtain ⟨past, held, tokens, nonneg, within, grows⟩ :=
    tokens_stay_in_range limit rfl positive (by decide) (by decide) hastyRun "caller" bucket row
  exact ⟨⟨positive, by decide, by decide⟩, product, row, past, held, tokens, nonneg, within,
    grows ⟨2000000000⟩ ⟨4000000000⟩ (by decide)⟩

end SweptLimiter

end CachingGateway
