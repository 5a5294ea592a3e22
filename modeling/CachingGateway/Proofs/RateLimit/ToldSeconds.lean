/-
The whole seconds that a length of time is told as. The length is rounded to a double and then to the
nearest whole number. Between two such roundings stand numbers that clocks and doubles both hold: whole
numbers, and halves of seconds where doubles hold them. A length on one side of such a number is told as
one on that side.
-/

import CachingGateway.Gateway.Router
import CachingGateway.Proofs.Number.Amounts
import CachingGateway.Proofs.RateLimit.WaitLength

namespace CachingGateway

namespace Binary64

variable {amount : Binary64} {number : ℕ}

theorem floor_natCast (number : ℕ) : (number : ℚ).floor = number :=
  Rat.floor_intCast number

theorem le_clampToNat {limit : ℕ} (reaches : amount.Reaches number) (within : number ≤ limit) :
    number ≤ amount.clampToNat limit := by
  cases amount with
  | nan => cases reaches
  | infinite negative =>
      cases reaches
      exact within
  | negativeZero =>
      have low : (number : ℚ) ≤ 0 := reaches
      exact_mod_cast low
  | finite value =>
      have order : (number : ℚ) ≤ value := reaches
      have floors : (number : ℤ) ≤ value.floor := Rat.le_floor_iff.mpr (by exact_mod_cast order)
      have natural : number ≤ value.floor.toNat := by omega
      exact le_min within natural

theorem clampToNat_le (limit : ℕ) (amount : Binary64) : amount.clampToNat limit ≤ limit := by
  cases amount with
  | nan => exact Nat.zero_le _
  | infinite negative => cases negative <;> simp [clampToNat]
  | negativeZero => exact Nat.zero_le _
  | finite value => exact min_le_left _ _

theorem clampToNat_signed_le (small : number < 2 ^ 53) (limit : ℕ) :
    (signed false (((number : ℕ) : ℤ) : ℚ)).clampToNat limit ≤ number := by
  have kept : signed false (((number : ℕ) : ℤ) : ℚ) = finite number := by
    rw [Int.cast_natCast, signed_false]
    exact ofNat_eq_finite small
  rw [kept, clampToNat]
  refine (Nat.min_le_right _ _).trans ?_
  rw [floor_natCast, Int.toNat_natCast]

/-- A whole number is reached from half a second below it. -/
theorem roundHalfAway_reaches (grid : OnGrid number) {point : ℚ} (near : (number : ℚ) ≤ point + 1 / 2)
    (reaches : amount.Reaches point) : amount.roundHalfAway.Reaches number := by
  have one : (1 : ℚ) ≤ number := Nat.one_le_cast.mpr (Nat.cast_pos.mp grid.positive)
  cases amount with
  | nan => cases reaches
  | infinite negative => exact reaches
  | negativeZero =>
      have low : point ≤ 0 := reaches
      exact absurd one (not_le.mpr (by linarith))
  | finite value =>
      have order : point ≤ value := reaches
      rw [roundHalfAway, if_neg (by linarith)]
      apply signed_reaches_onGrid grid
      have floors : (number : ℤ) ≤ (value + 1 / 2).floor := by
        rw [Rat.le_floor_iff]
        push_cast
        linarith
      exact_mod_cast floors

end Binary64

/-! ### Numbers that clocks and doubles hold -/

namespace Duration

theorem isAmount_toBinary64 (length : Duration) : length.toBinary64.IsAmount := by
  rw [toBinary64_eq]
  exact (Binary64.isAmount_signed length.fraction_nonneg).add
    (Binary64.isAmount_ofNat _).reaches_zero

/-- A number of seconds that is a double and a whole number of nanoseconds, and that no longer length
of time is rounded below. -/
structure Mark (point : ℚ) : Prop where
  grid : Binary64.OnGrid point
  counted : ∃ nanoseconds : ℤ, point * (nanosecondsPerSecond : ℚ) = nanoseconds
  kept : ∀ length : Duration, point ≤ length.toRat → length.toBinary64.Reaches point

theorem seconds_of_le_toRat {number : ℕ} {length : Duration} (long : (number : ℚ) ≤ length.toRat) :
    number ≤ length.seconds := by
  rw [toRat_eq, le_div_iff₀ (by norm_num)] at long
  exact (Nat.le_div_iff_mul_le (by decide)).mpr (by exact_mod_cast long)

theorem toRat_eq_parts (length : Duration) :
    length.toRat = length.seconds + (length.subsecond : ℚ) / nanosecondsPerSecond := by
  have parts : nanosecondsPerSecond * length.seconds + length.subsecond = length.nanoseconds :=
    Nat.div_add_mod length.nanoseconds nanosecondsPerSecond
  rw [toRat_eq, ← parts, nanosecondsPerSecond]
  push_cast
  ring

theorem toBinary64_reaches_of_seconds {point : ℚ} (grid : Binary64.OnGrid point) {length : Duration}
    (whole : (Binary64.ofNat length.seconds).Reaches point) : length.toBinary64.Reaches point := by
  rw [toBinary64_eq]
  refine Binary64.add_reaches_of_rounding ?_ whole length.subsecond_reaches
  intro zeros value above
  rw [Nat.cast_zero, add_zero] at above
  exact Binary64.signed_reaches_onGrid grid above zeros

theorem mark_natCast {number : ℕ} (grid : Binary64.OnGrid number) : Mark number where
  grid := grid
  counted := ⟨number * nanosecondsPerSecond, by push_cast; ring⟩
  kept := by
    intro length long
    have floors : (number : ℚ) ≤ length.seconds := Nat.cast_le.mpr (seconds_of_le_toRat long)
    exact toBinary64_reaches_of_seconds grid (Binary64.round_reaches_onGrid grid floors)

theorem mark_add_half {number : ℕ} (small : number < 2 ^ 52) : Mark ((number : ℚ) + 1 / 2) where
  grid := Binary64.onGrid_add_half small
  counted := ⟨number * nanosecondsPerSecond + 500000000, by
    rw [nanosecondsPerSecond]
    push_cast
    ring⟩
  kept := by
    intro length long
    have grid := Binary64.onGrid_add_half small
    have floors : number ≤ length.seconds := seconds_of_le_toRat (by linarith)
    rcases floors.eq_or_lt with same | more
    · -- The half is in the part of a second, which keeps it when it is rounded.
      have half : Binary64.OnGrid ((0 : ℕ) + 1 / 2) := Binary64.onGrid_add_half (by decide)
      have part : ((0 : ℕ) : ℚ) + 1 / 2 ≤ (length.subsecond : ℚ) / nanosecondsPerSecond := by
        rw [toRat_eq_parts, ← same] at long
        rw [Nat.cast_zero]
        linarith
      have whole : (Binary64.ofNat length.seconds).Reaches number :=
        Binary64.round_reaches (by omega) (Nat.cast_le.mpr floors)
      rw [toBinary64_eq]
      refine Binary64.add_reaches_of_rounding ?_ whole
        (Binary64.signed_reaches_onGrid half part false)
      intro zeros value order
      rw [Nat.cast_zero, zero_add] at order
      exact Binary64.signed_reaches_onGrid grid order zeros
    · have next : (number : ℚ) + 1 ≤ length.seconds := by exact_mod_cast more
      have reached : (number : ℚ) + 1 / 2 ≤ length.seconds := by linarith
      exact toBinary64_reaches_of_seconds grid (Binary64.round_reaches_onGrid grid reached)

theorem Mark.le_toRat {point : ℚ} (mark : Mark point) {seconds : Binary64}
    (long : seconds.Reaches point) {wait : Duration} (converted : ofBinary64? seconds = some wait) :
    point ≤ wait.toRat := by
  cases seconds with
  | nan => cases long
  | infinite negative => cases converted
  | negativeZero => exact absurd long (not_le.mpr mark.grid.positive)
  | finite value =>
      have order : point ≤ value := long
      have nonneg : ¬value < 0 := not_lt.mpr (mark.grid.positive.le.trans order)
      obtain ⟨nanoseconds, counted⟩ := mark.counted
      have scaled : (nanoseconds : ℚ) ≤ value * (nanosecondsPerSecond : ℚ) := by
        rw [← counted]
        exact mul_le_mul_of_nonneg_right order (Nat.cast_nonneg _)
      have nearest := le_nearestEven scaled
      change ofRat? value = some wait at converted
      simp only [ofRat?, if_neg nonneg] at converted
      split at converted
      · cases converted
        have whole : (nanoseconds : ℚ) ≤
            ((nearestEven (value * (nanosecondsPerSecond : ℚ))).toNat : ℕ) := by
          exact_mod_cast nearest.trans (Int.self_le_toNat _)
        rw [toRat_eq, le_div_iff₀ (by norm_num)]
        rw [nanosecondsPerSecond] at counted
        push_cast at counted
        rw [counted]
        exact whole
      · cases converted

end Duration

/-! ### The number that is told -/

namespace Gateway

variable {number : ℕ} {length wait : Duration}

theorem retryAfter_le (length : Duration) : retryAfter length ≤ Word.greatest64 :=
  Binary64.clampToNat_le _ _

theorem le_retryAfter (grid : Binary64.OnGrid number) (within : number ≤ Word.greatest64) {point : ℚ}
    (near : (number : ℚ) ≤ point + 1 / 2) (reaches : length.toBinary64.Reaches point) :
    number ≤ retryAfter length :=
  Binary64.le_clampToNat (Binary64.roundHalfAway_reaches grid near reaches) within

theorem reaches_of_le_retryAfter (small : number < 2 ^ 53) (told : number + 1 ≤ retryAfter length) :
    length.toBinary64.Reaches ((number : ℚ) + 1 / 2) := by
  rw [retryAfter] at told
  rcases length.isAmount_toBinary64.infinite_or_finite with beyond | ⟨value, amount, nonneg, _⟩
  · rw [beyond]
    rfl
  · rw [amount, Binary64.roundHalfAway, if_neg (not_lt.mpr nonneg)] at told
    rw [amount]
    by_contra below
    have less : value < (number : ℚ) + 1 / 2 := not_le.mp below
    have low : 0 ≤ (value + 1 / 2).floor := by
      rw [Rat.le_floor_iff]
      push_cast
      linarith
    have high : (value + 1 / 2).floor < number + 1 := by
      rw [Rat.floor_lt_iff]
      push_cast
      linarith
    obtain ⟨nearest, same⟩ := Int.eq_ofNat_of_zero_le low
    rw [same] at told high
    have short : nearest ≤ number := Nat.le_of_lt_succ (by exact_mod_cast high)
    have least := Binary64.clampToNat_signed_le (short.trans_lt small) Word.greatest64
    exact absurd (told.trans least) (by omega)

/-- A length that is told as a number above two to the fifty-two is that number in doubles, if it is
within the bound of what is told. -/
theorem whole_of_large_retryAfter (large : 2 ^ 52 < retryAfter length) :
    length.toBinary64 = .infinite false ∨ ∃ whole : ℕ, length.toBinary64 = .finite whole ∧
      Binary64.OnGrid whole ∧ retryAfter length = min Word.greatest64 whole := by
  have reaches : length.toBinary64.Reaches (((2 ^ 52 : ℕ) : ℚ) + 1 / 2) :=
    reaches_of_le_retryAfter (by decide) large
  refine length.isAmount_toBinary64.infinite_or_finite.imp_right ?_
  rintro ⟨value, amount, _, double⟩
  rw [amount] at reaches
  have order : ((2 ^ 52 : ℕ) : ℚ) + 1 / 2 ≤ value := reaches
  push_cast at order
  have positive : 0 < value := by linarith
  have grid := Binary64.onGrid_of_round positive double
  obtain ⟨whole, rfl⟩ := grid.whole (by linarith)
  have floor : ((whole : ℚ) + 1 / 2).floor = whole := by
    have low : (whole : ℤ) ≤ ((whole : ℚ) + 1 / 2).floor := by
      rw [Rat.le_floor_iff]
      push_cast
      linarith
    have high : ((whole : ℚ) + 1 / 2).floor < whole + 1 := by
      rw [Rat.floor_lt_iff]
      push_cast
      linarith
    omega
  refine ⟨whole, amount, grid, ?_⟩
  rw [retryAfter, amount, Binary64.roundHalfAway, if_neg (not_lt.mpr positive.le), floor,
    Int.cast_natCast, Binary64.signed, if_neg positive.ne', double, Binary64.clampToNat,
    Binary64.floor_natCast, Int.toNat_natCast]

theorem onGrid_two_pow_64 : Binary64.OnGrid ((2 ^ 64 : ℕ) : ℚ) := by
  have power : Binary64.OnGrid ((2 : ℚ) ^ (64 : ℤ)) := Binary64.onGrid_two_zpow (by decide)
  exact_mod_cast power

/-- A number parts the lengths that are told as more than another number from the rest. -/
structure Parts (point : ℚ) (number : ℕ) : Prop where
  mark : Duration.Mark point
  told : ∀ length : Duration, length.toBinary64.Reaches point → number + 1 ≤ retryAfter length

theorem parts_add_half (small : number < 2 ^ 52) : Parts ((number : ℚ) + 1 / 2) number where
  mark := Duration.mark_add_half small
  told := by
    intro length reaches
    have grid := Binary64.onGrid_natCast (Nat.succ_pos number) (by omega)
    have within : number + 1 ≤ Word.greatest64 := (Nat.succ_le_of_lt small).trans (by decide)
    refine le_retryAfter grid within ?_ reaches
    push_cast
    linarith

theorem parts_whole {whole : ℕ} (grid : Binary64.OnGrid whole) (above : number + 1 ≤ whole)
    (within : number + 1 ≤ Word.greatest64) : Parts whole number where
  mark := Duration.mark_natCast grid
  told := by
    intro length reaches
    have rounded := Binary64.roundHalfAway_reaches grid (by linarith) reaches
    exact Binary64.le_clampToNat (rounded.mono (Nat.cast_le.mpr above)) within

theorem exists_parts (more : number + 1 ≤ retryAfter length) :
    ∃ point, Parts point number ∧ length.toBinary64.Reaches point := by
  have within := more.trans (retryAfter_le length)
  rcases Nat.lt_or_ge number (2 ^ 52) with small | large
  · exact ⟨_, parts_add_half small, reaches_of_le_retryAfter (by omega) more⟩
  · rcases whole_of_large_retryAfter (by omega : 2 ^ 52 < retryAfter length) with
      beyond | ⟨whole, amount, grid, same⟩
    · refine ⟨_, parts_whole onGrid_two_pow_64 (within.trans (by decide)) within, ?_⟩
      rw [beyond]
      rfl
    · have above : number + 1 ≤ whole := more.trans (same.trans_le (Nat.min_le_right _ _))
      refine ⟨whole, parts_whole grid above within, ?_⟩
      rw [amount]
      exact le_refl (whole : ℚ)

/-- The greatest number that is told is no double, but the next double is no whole second away. -/
theorem reaches_greatest {passed : Duration} (long : Word.greatest64 ≤ passed.seconds) :
    passed.toBinary64.Reaches Word.greatest64 := by
  have nearest : Binary64.nearestOnGrid (Word.greatest64 : ℕ) = (2 ^ 64 : ℕ) := by decide +kernel
  have whole : (Binary64.ofNat passed.seconds).Reaches (2 ^ 64 : ℕ) := by
    rw [← nearest]
    exact Binary64.round_reaches_nearest (by decide +kernel) (Nat.cast_le.mpr long)
  have sum := Duration.toBinary64_reaches_of_seconds onGrid_two_pow_64 whole
  exact sum.mono (Nat.cast_le.mpr (by decide))

theorem reaches_told {passed : Duration} (long : (retryAfter wait : ℚ) ≤ passed.toRat) :
    passed.toBinary64.Reaches (retryAfter wait) := by
  have greatest (same : retryAfter wait = Word.greatest64) :
      passed.toBinary64.Reaches (retryAfter wait) := by
    rw [same] at long ⊢
    exact reaches_greatest (Duration.seconds_of_le_toRat long)
  rcases Nat.eq_zero_or_pos (retryAfter wait) with none | some
  · rw [none]
    exact passed.isAmount_toBinary64.reaches_zero
  rcases Nat.lt_or_ge (retryAfter wait) (2 ^ 53) with small | large
  · exact (Duration.mark_natCast (Binary64.onGrid_natCast some small)).kept passed long
  rcases whole_of_large_retryAfter (by omega : 2 ^ 52 < retryAfter wait) with
    beyond | ⟨whole, _, grid, same⟩
  · apply greatest
    rw [retryAfter, beyond]
    rfl
  · rcases Nat.le_total whole Word.greatest64 with within | above
    · rw [Nat.min_eq_right within] at same
      rw [same] at long ⊢
      exact (Duration.mark_natCast grid).kept passed long
    · exact greatest (same.trans (Nat.min_eq_left above))

end Gateway

end CachingGateway
