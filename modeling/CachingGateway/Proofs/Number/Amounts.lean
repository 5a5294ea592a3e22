/-
Doubles that count something. Such a double is no NaN, not below zero, and not the zero below zero.
Rounding gives one from every rational that is not negative, so counts stay counts when they are added
up, multiplied and capped. A count below a limit is a rational that rounding keeps.
-/

import CachingGateway.Proofs.Number.GridPoints

namespace CachingGateway.Binary64

def IsAmount : Binary64 → Prop
  | nan | negativeZero => False
  | infinite negative => negative = false
  | finite value => 0 ≤ value ∧ round value = finite value

variable {value : ℚ} {amount other : Binary64}

theorem OnGrid.round_eq (grid : OnGrid value) (fits : value < overflowBound) :
    round value = finite value := by
  rw [round_of_positive grid.positive, grid.kept, if_neg (not_le.mpr fits)]

theorem nearestOnGrid_nonneg (positive : 0 < value) : 0 ≤ nearestOnGrid value := by
  have start : ((0 : ℤ) : ℚ) * 2 ^ spacing value ≤ value := by
    rw [Int.cast_zero, zero_mul]
    exact positive.le
  have above := le_nearestOnGrid start
  rwa [Int.cast_zero, zero_mul] at above

theorem isAmount_zero : (finite 0).IsAmount :=
  ⟨le_rfl, by decide +kernel⟩

theorem isAmount_round (nonneg : 0 ≤ value) : (round value).IsAmount := by
  rcases nonneg.eq_or_lt with rfl | positive
  · have zero : round 0 = finite 0 := isAmount_zero.2
    rw [zero]
    exact isAmount_zero
  · rw [round_of_positive positive]
    split
    · rfl
    · rename_i fits
      rcases (nearestOnGrid_nonneg positive).eq_or_lt with zero | some
      · rw [← zero]
        exact isAmount_zero
      · exact ⟨some.le, (onGrid_nearestOnGrid positive some).round_eq (not_le.mp fits)⟩

theorem signed_false (value : ℚ) : signed false value = round value := by
  rw [signed]
  split
  · rename_i zero
    rw [zero]
    exact isAmount_zero.2.symm
  · rfl

theorem isAmount_signed (nonneg : 0 ≤ value) : (signed false value).IsAmount := by
  rw [signed_false]
  exact isAmount_round nonneg

/-! ### Sums and products of rationals -/

theorem finite_add_finite (first second : ℚ) :
    finite first + finite second = round (first + second) :=
  signed_false (first + second)

theorem finite_sub_one (value : ℚ) : finite value - ofNat 1 = round (value - 1) := by
  have one : ofNat 1 = finite 1 := ofNat_eq_finite (by decide)
  rw [one, sub_eq_add_neg, ← finite_add_finite]
  rfl

theorem finite_mul_finite {first second : ℚ} (nonneg : 0 ≤ first) (nonnegToo : 0 ≤ second) :
    finite first * finite second = round (first * second) := by
  change mul _ _ = _
  simp only [mul, isNegative_of_nonneg nonneg, isNegative_of_nonneg nonnegToo, bne_self_eq_false]
  exact signed_false (first * second)

theorem isAmount_ofNat (number : ℕ) : (ofNat number).IsAmount :=
  isAmount_round (Nat.cast_nonneg number)

namespace IsAmount

theorem infinite_or_finite (counts : amount.IsAmount) :
    amount = infinite false ∨
      ∃ value, amount = finite value ∧ 0 ≤ value ∧ round value = finite value := by
  cases amount with
  | nan => cases counts
  | negativeZero => cases counts
  | infinite negative =>
      cases counts
      exact Or.inl rfl
  | finite value => exact Or.inr ⟨value, rfl, counts⟩

theorem reaches_zero (counts : amount.IsAmount) : amount.Reaches (0 : ℕ) := by
  rcases counts.infinite_or_finite with rfl | ⟨value, rfl, nonneg, _⟩
  · rfl
  · exact Nat.cast_zero.trans_le nonneg

/-- What is added to an amount may also be the zero below zero. -/
theorem add (counts : amount.IsAmount) (owed : other.Reaches (0 : ℕ)) :
    (other + amount).IsAmount := by
  change (Binary64.add other amount).IsAmount
  rcases counts.infinite_or_finite with rfl | ⟨gained, rfl, nonneg, _⟩
  · cases other with
    | nan => cases owed
    | infinite negative =>
        cases owed
        rfl
    | negativeZero => rfl
    | finite value => rfl
  · cases other with
    | nan => cases owed
    | infinite negative => exact owed
    | negativeZero => exact isAmount_signed (add_nonneg le_rfl nonneg)
    | finite held =>
        have holds : 0 ≤ held := Nat.cast_zero.symm.trans_le owed
        exact isAmount_signed (add_nonneg holds nonneg)

theorem mul_finite {factor : ℚ} (counts : amount.IsAmount) (positive : 0 < factor) :
    (amount * finite factor).IsAmount := by
  rcases counts.infinite_or_finite with rfl | ⟨value, rfl, nonneg, _⟩
  · change (mul (infinite false) (finite factor)).IsAmount
    rw [infinite_mul_finite positive]
    rfl
  · rw [finite_mul_finite nonneg positive.le]
    exact isAmount_round (mul_nonneg nonneg positive.le)

theorem minimum (counts : amount.IsAmount) (countsToo : other.IsAmount) :
    (minimum amount other).IsAmount := by
  rw [Binary64.minimum]
  split
  · exact countsToo
  · split
    · exact counts
    · split
      · exact countsToo
      · exact counts

end IsAmount

end CachingGateway.Binary64
