/-
The token that a denied caller waits for. The part of it that is missing is rounded to a double, divided
by the rate and told in whole seconds. Rounding takes so little from the missing part that a bucket which
gains it, as computed, has a whole token again: the sum is rounded up. So a caller is admitted once the
time since it was denied, in doubles, covers the missing part, and this it does when that time would be
told as more seconds than the caller was told.
-/

import CachingGateway.Proofs.RateLimit.ToldSeconds

namespace CachingGateway

namespace Binary64

structure IsPart (held : ℚ) : Prop where
  nonneg : 0 ≤ held
  less : held < 1
  double : round held = finite held

def missing (held : ℚ) : ℚ := nearestOnGrid (1 - held)

variable {held : ℚ}

/-- The sum that is halfway between one and the double below it is rounded to one. -/
theorem nearest_before_one : nearestOnGrid (1 - 1 / 2 ^ 54) = 1 := by decide +kernel

theorem IsPart.before_one (part : IsPart held) : held < 1 - 1 / 2 ^ 54 := by
  rcases part.nonneg.eq_or_lt with rfl | positive
  · norm_num
  · by_contra close
    have order : 1 - 1 / 2 ^ 54 ≤ held := not_lt.mp close
    have nearest := nearestOnGrid_mono (by norm_num) order
    rw [nearest_before_one, (onGrid_of_round positive part.double).kept] at nearest
    exact absurd part.less (not_lt.mpr nearest)

theorem IsPart.missing_ge (part : IsPart held) : 1 - held - 1 / 2 ^ 54 ≤ missing held := by
  rcases part.nonneg.eq_or_lt with rfl | positive
  · rw [missing, sub_zero, onGrid_one.kept]
    norm_num
  · have left : 0 < 1 - held := sub_pos.mpr part.less
    have below : 1 - held < 2 ^ (0 : ℤ) := by
      rw [zpow_zero]
      exact sub_lt_self 1 positive
    have exponents := two_zpow_lt_iff.mp ((binade_spec left).1.trans_lt below)
    have fine : spacing (1 - held) ≤ -53 := by
      rw [spacing]
      omega
    have unit : (2 : ℚ) ^ spacing (1 - held) ≤ 2 ^ (-53 : ℤ) :=
      zpow_le_zpow_right₀ (by norm_num) fine
    have error := (abs_le.mp (nearestOnGrid_error (1 - held))).1
    rw [missing]
    norm_num at unit ⊢
    linarith

theorem IsPart.missing_pos (part : IsPart held) : 0 < missing held := by
  have close := part.before_one
  have nearest := part.missing_ge
  linarith

theorem IsPart.onGrid_missing (part : IsPart held) : OnGrid (missing held) :=
  onGrid_nearestOnGrid (sub_pos.mpr part.less) part.missing_pos

theorem IsPart.one_sub (part : IsPart held) : ofNat 1 - finite held = finite (missing held) := by
  have left : 0 < 1 - held := sub_pos.mpr part.less
  have most : missing held ≤ 1 := by
    have nearest := nearestOnGrid_mono left (sub_le_self 1 part.nonneg)
    rwa [onGrid_one.kept] at nearest
  have fits : ¬overflowBound ≤ nearestOnGrid (1 - held) :=
    not_le.mpr (most.trans_lt one_lt_overflowBound)
  rw [one_sub_finite, signed_false, round_of_positive left, if_neg fits]
  rfl

/-- A part of a token and what is missing of it make a token. -/
theorem IsPart.add_missing_reaches (part : IsPart held) {gained : Binary64}
    (covered : gained.Reaches (missing held)) : (finite held + gained).Reaches 1 := by
  have kept : (finite held).Reaches held := le_refl held
  refine add_reaches_of_rounding ?_ kept covered
  intro zeros value order
  have close : 1 - 1 / 2 ^ 54 ≤ value := by linarith [part.missing_ge]
  have nearest := signed_reaches_nearest (by norm_num) close zeros
  rwa [nearest_before_one] at nearest

theorem IsAmount.isPart {tokens : Binary64} (counts : tokens.IsAmount)
    (short : Limiter.hasToken tokens = false) : ∃ held, tokens = finite held ∧ IsPart held := by
  have unreached : ¬tokens.Reaches 1 := by
    rw [← Limiter.hasToken_iff_reaches, Bool.not_eq_true]
    exact short
  rcases counts.infinite_or_finite with rfl | ⟨held, rfl, nonneg, double⟩
  · exact absurd rfl unreached
  · exact ⟨held, rfl, nonneg, not_le.mp unreached, double⟩

end Binary64

/-- A limit at which a caller can be admitted and whose burst doubles count exactly. -/
structure RateLimit.Usable (limit : RateLimit Binary64) (rate : ℚ) : Prop where
  finite : limit.rate = .finite rate
  positive : 0 < rate
  small : limit.burst < 2 ^ 53
  holding : 0 < limit.burst

section

variable {limit : RateLimit Binary64} {rate held : ℚ}

theorem RateLimit.Usable.capacity_eq (usable : limit.Usable rate) :
    limit.capacity = Binary64.finite limit.burst :=
  Binary64.ofNat_eq_finite usable.small

theorem RateLimit.Usable.one_le_burst (usable : limit.Usable rate) : (1 : ℚ) ≤ limit.burst :=
  Nat.one_le_cast.mpr usable.holding

theorem RateLimit.Usable.keptByCalls (usable : limit.Usable rate) :
    KeptByCalls limit fun tokens => tokens.Reaches (0 : ℕ) :=
  keptByCalls_reaches usable.finite usable.positive usable.small

theorem RateLimit.Usable.projected_same_instant (usable : limit.Usable rate)
    (double : Binary64.round held = .finite held) (within : held ≤ limit.burst) (now : Instant) :
    (Bucket.mk (Binary64.finite held) now).projected limit now = .finite held :=
  Bucket.projected_same_instant usable.finite usable.positive usable.small double within now

/-- What the rate gains in a length of time is an amount. -/
theorem RateLimit.Usable.gained_isAmount (usable : limit.Usable rate) (length : Duration) :
    (length.toBinary64 * limit.rate).IsAmount := by
  rw [usable.finite]
  exact length.isAmount_toBinary64.mul_finite usable.positive

theorem Bucket.projected_isAmount (usable : limit.Usable rate) {bucket : Bucket Binary64}
    (owed : bucket.tokens.Reaches (0 : ℕ)) (now : Instant) :
    (bucket.projected limit now).IsAmount := by
  have sum := (usable.gained_isAmount (now.elapsedSince bucket.lastRefill)).add owed
  exact sum.minimum (Binary64.isAmount_ofNat limit.burst)

/-- A bucket with a part of a token has a whole one when the time since then covers the rest. -/
theorem Bucket.hasToken_of_covered (usable : limit.Usable rate) (part : Binary64.IsPart held)
    {moment now : Instant} {seconds least : ℚ}
    (passed : (now.elapsedSince moment).toBinary64.Reaches seconds) (some : 0 < least)
    (gained : least ≤ seconds * rate)
    (covered : Binary64.missing held ≤ Binary64.nearestOnGrid least) :
    Limiter.hasToken ((Bucket.mk (Binary64.finite held) moment).projected limit now) = true := by
  have gain : ((now.elapsedSince moment).toBinary64 * limit.rate).Reaches
      (Binary64.missing held) := by
    rw [usable.finite]
    refine Binary64.mul_finite_reaches_of_rounding usable.positive ?_ passed
    intro negative value order
    exact (Binary64.signed_reaches_nearest some (gained.trans order) negative).mono covered
  have most : (Binary64.finite limit.burst).Reaches 1 := usable.one_le_burst
  apply (Limiter.hasToken_iff_reaches _).mpr
  change (Binary64.minimum (Binary64.finite held +
    (now.elapsedSince moment).toBinary64 * limit.rate) limit.capacity).Reaches 1
  rw [usable.capacity_eq]
  exact Binary64.minimum_reaches (part.add_missing_reaches gain) most

theorem missing_covered_at_mark (positive : 0 < rate) (part : Binary64.IsPart held) {wait : Duration}
    (told : Duration.ofBinary64? (.finite (Binary64.missing held) / .finite rate) = some wait)
    {point : ℚ} (mark : Duration.Mark point) (before : ¬wait.toBinary64.Reaches point) :
    Binary64.missing held ≤ point * rate := by
  by_contra more
  have late : point ≤ Binary64.missing held / rate :=
    (le_div_iff₀ positive).mpr (not_le.mp more).le
  rw [Binary64.div_finite part.missing_pos.le positive] at told
  have reaches := Binary64.signed_reaches_onGrid mark.grid late false
  exact before (mark.kept wait (mark.le_toRat reaches told))

/-! ### A token after the wait -/

section

variable {wait : Duration} {moment now : Instant}

/-- The wait was not rounded down below the time that the rate takes. -/
theorem Bucket.hasToken_of_covering_wait (usable : limit.Usable rate) (part : Binary64.IsPart held)
    (long : (Gateway.retryAfter wait : ℚ) ≤ (now.elapsedSince moment).toRat)
    (covering : 1 - held ≤ Gateway.retryAfter wait * rate) :
    Limiter.hasToken ((Bucket.mk (Binary64.finite held) moment).projected limit now) = true :=
  hasToken_of_covered usable part (Gateway.reaches_told long)
    (sub_pos.mpr part.less) covering le_rfl

theorem Bucket.hasToken_of_longer_wait (usable : limit.Usable rate) (part : Binary64.IsPart held)
    (told : Duration.ofBinary64? (.finite (Binary64.missing held) / .finite rate) = some wait)
    (longer : Gateway.retryAfter wait < Gateway.retryAfter (now.elapsedSince moment)) :
    Limiter.hasToken ((Bucket.mk (Binary64.finite held) moment).projected limit now) = true := by
  obtain ⟨point, parts, reaches⟩ := Gateway.exists_parts longer
  have before : ¬wait.toBinary64.Reaches point :=
    fun reached => absurd (parts.told wait reached) (Nat.not_succ_le_self _)
  have covered := missing_covered_at_mark usable.positive part told parts.mark before
  exact hasToken_of_covered usable part reaches part.missing_pos covered
    part.onGrid_missing.kept.ge

theorem Gateway.retryAfter_lt_of_half {passed : Duration} (small : retryAfter wait < 2 ^ 52)
    (long : (retryAfter wait : ℚ) + 1 / 2 ≤ passed.toRat) : retryAfter wait < retryAfter passed :=
  (parts_add_half small).told passed ((Duration.mark_add_half small).kept passed long)

end

/-! ### A key that is left alone -/

namespace Limiter

variable {limiter : Limiter Binary64} {now later : Instant} {key : String}

/-- What a limiter holds of a caller that it has just denied, and what it forecasts for it. -/
theorem Solvent.denied (solvent : Solvent limit limiter) (usable : limit.Usable rate)
    (refused : (limiter.allow now key).1 = false) :
    ∃ held, Binary64.IsPart held ∧
      (limiter.allow now key).2.buckets.find? key = some ⟨.finite held, now⟩ ∧
      (limiter.allow now key).2.wait? now key =
        Duration.ofBinary64? (.finite (Binary64.missing held) / .finite rate) := by
  have owed : (limiter.bucket now key).tokens.Reaches (0 : ℕ) :=
    usable.keptByCalls.bucket solvent.limit (solvent.holds key) now
  have counts : ((limiter.bucket now key).projected limit now).IsAmount :=
    Bucket.projected_isAmount usable owed now
  have short : hasToken ((limiter.bucket now key).projected limit now) = false :=
    solvent.limit ▸ refused
  obtain ⟨held, tokens, part⟩ := counts.isPart short
  rw [tokens] at short
  have found : (limiter.allow now key).2.buckets.find? key = some ⟨.finite held, now⟩ := by
    rw [find?_allow, if_pos rfl, solvent.limit, tokens, leftover, short,
      if_neg Bool.false_ne_true]
  refine ⟨held, part, found, ?_⟩
  have sameLimit : (limiter.allow now key).2.limit = limit := solvent.limit
  have within : held ≤ limit.burst := part.less.le.trans usable.one_le_burst
  have still := usable.projected_same_instant part.double within now
  rw [wait?, found, sameLimit]
  dsimp only
  rw [still, short, if_neg Bool.false_ne_true, usable.finite]
  exact congrArg (fun missing => Duration.ofBinary64? (missing / .finite rate)) part.one_sub

structure Untouched (limit : RateLimit Binary64) (key : String) (left : Bucket Binary64)
    (limiter : Limiter Binary64) : Prop where
  limit : limiter.limit = limit
  distinct : limiter.buckets.keys.Nodup
  left : ∀ bucket, limiter.buckets.find? key = some bucket → bucket = left

namespace Untouched

variable {left : Bucket Binary64}

theorem allow (untouched : Untouched limit key left limiter) {other : String}
    (apart : other ≠ key) : Untouched limit key left (limiter.allow now other).2 where
  limit := untouched.limit
  distinct := Table.nodup_keys_insert untouched.distinct other _
  left := by
    intro bucket found
    rw [find?_allow, if_neg apart.symm] at found
    exact untouched.left bucket found

theorem reclaim (untouched : Untouched limit key left limiter) (idle : Duration) :
    Untouched limit key left (limiter.reclaim now idle) where
  limit := untouched.limit
  distinct := Table.nodup_keys_filterValues untouched.distinct _
  left := fun bucket found => untouched.left bucket (held_before_reclaim untouched.distinct found)

/-- A dropped bucket counts as full, so the caller is admitted if it would be with the bucket as it was
left. -/
theorem admits (untouched : Untouched limit key left limiter) (usable : limit.Usable rate)
    (ready : hasToken (left.projected limit later) = true) :
    (limiter.allow later key).1 = true := by
  change hasToken ((limiter.bucket later key).projected limiter.limit later) = true
  rw [untouched.limit, bucket]
  cases found : limiter.buckets.find? key with
  | some bucket =>
      rw [Option.getD_some, untouched.left bucket found]
      exact ready
  | none =>
      have full : Bucket.full limiter.limit later = ⟨.finite limit.burst, later⟩ := by
        rw [untouched.limit, Bucket.full, usable.capacity_eq]
      have whole : Binary64.round limit.burst = .finite limit.burst :=
        Binary64.ofNat_eq_finite usable.small
      rw [Option.getD_none, full, usable.projected_same_instant whole le_rfl later]
      exact (hasToken_iff_reaches _).mpr usable.one_le_burst

end Untouched

end Limiter

end

end CachingGateway
