/-
The order of doubles, told by the rationals that they reach. Rounding keeps the order of rationals that
are not negative, also where it gives an infinity. So amounts keep their order when an amount is added to
both, when both are multiplied by a positive rational, and when both are capped.
-/

import CachingGateway.Proofs.Number.Amounts

namespace CachingGateway.Binary64

/-- What a double reaches, the other one reaches too. -/
def UpTo (left right : Binary64) : Prop :=
  ∀ least, left.Reaches least → right.Reaches least

variable {left middle right : Binary64} {value more : ℚ}

theorem UpTo.refl (amount : Binary64) : amount.UpTo amount :=
  fun _ reaches => reaches

theorem UpTo.trans (first : left.UpTo middle) (second : middle.UpTo right) : left.UpTo right :=
  fun least reaches => second least (first least reaches)

theorem upTo_infinite (left : Binary64) : left.UpTo (infinite false) :=
  fun _ _ => rfl

theorem finite_upTo_iff : (finite value).UpTo right ↔ right.Reaches value := by
  constructor
  · intro order
    exact order value (le_refl value)
  · intro reaches least below
    exact reaches.mono below

theorem round_upTo (nonneg : 0 ≤ value) (order : value ≤ more) : (round value).UpTo (round more) := by
  rcases nonneg.eq_or_lt with rfl | positive
  · have zero : round 0 = finite 0 := isAmount_zero.2
    rw [zero, finite_upTo_iff]
    exact (round_reaches (by decide) (Nat.cast_zero.trans_le order)).mono Nat.cast_zero.ge
  · have nearest := nearestOnGrid_mono positive order
    rw [round_of_positive positive, round_of_positive (positive.trans_le order)]
    by_cases huge : overflowBound ≤ nearestOnGrid value
    · rw [if_pos huge, if_pos (huge.trans nearest)]
      exact UpTo.refl _
    · rw [if_neg huge]
      split
      · exact upTo_infinite _
      · exact finite_upTo_iff.mpr nearest

theorem ofNat_upTo {number next : ℕ} (order : number ≤ next) : (ofNat number).UpTo (ofNat next) :=
  round_upTo (Nat.cast_nonneg number) (Nat.cast_le.mpr order)

theorem ofNat_add_part_upTo (number : ℕ) {part : ℚ} (nonneg : 0 ≤ part) (less : part < 1) :
    (ofNat number + finite part).UpTo (ofNat (number + 1)) := by
  have next := ofNat_upTo (Nat.le_succ number)
  rcases (isAmount_ofNat number).infinite_or_finite with beyond | ⟨whole, amount, _, double⟩
  · rw [beyond] at next ⊢
    exact next
  rw [amount, finite_add_finite]
  rcases Nat.lt_or_ge number (2 ^ 53) with small | large
  · have same : whole = number := finite.inj (amount.symm.trans (ofNat_eq_finite small))
    rw [same]
    apply round_upTo
    · exact add_nonneg (Nat.cast_nonneg number) nonneg
    · rw [Nat.cast_add_one]
      exact add_le_add_right less.le _
  · -- Doubles this large hold no part of one.
    have power : OnGrid ((2 : ℚ) ^ (53 : ℤ)) := onGrid_two_zpow (by decide)
    have far : (2 : ℚ) ^ (53 : ℤ) ≤ whole := by
      have reached : (ofNat number).Reaches ((2 : ℚ) ^ (53 : ℤ)) :=
        round_reaches_onGrid power (by exact_mod_cast large)
      rwa [amount] at reached
    have grid := onGrid_of_round (power.positive.trans_le far) double
    rw [grid.round_add_part (by exact_mod_cast far) nonneg less, double, ← amount]
    exact next

/-! ### Amounts in order -/

theorem UpTo.infinite_or_finite (order : left.UpTo right) (counts : left.IsAmount)
    (countsToo : right.IsAmount) :
    right = infinite false ∨
      ∃ value more, left = finite value ∧ right = finite more ∧ 0 ≤ value ∧ value ≤ more := by
  refine countsToo.infinite_or_finite.imp_right ?_
  rintro ⟨more, rfl, _, _⟩
  rcases counts.infinite_or_finite with rfl | ⟨value, rfl, nonneg, _⟩
  · have reaches : more + 1 ≤ more := order (more + 1) rfl
    exact absurd reaches (not_le.mpr (lt_add_one more))
  · exact ⟨value, more, rfl, rfl, nonneg, finite_upTo_iff.mp order⟩

theorem IsAmount.zero_upTo (counts : right.IsAmount) : (finite 0).UpTo right :=
  finite_upTo_iff.mpr (counts.reaches_zero.mono Nat.cast_zero.ge)

theorem IsAmount.add_nothing (counts : left.IsAmount) : left + finite 0 = left := by
  rcases counts.infinite_or_finite with rfl | ⟨value, rfl, _, double⟩
  · rfl
  · rw [finite_add_finite, add_zero, double]

theorem UpTo.add_left (order : left.UpTo right) (counts : left.IsAmount)
    (countsToo : right.IsAmount) (held : middle.IsAmount) : (middle + left).UpTo (middle + right) := by
  rcases held.infinite_or_finite with rfl | ⟨kept, rfl, nonneg, _⟩
  · have sum : infinite false + right = infinite false := by
      rcases countsToo.infinite_or_finite with rfl | ⟨_, rfl, _⟩ <;> rfl
    rw [sum]
    exact upTo_infinite _
  · rcases order.infinite_or_finite counts countsToo with rfl | ⟨value, more, rfl, rfl, least, above⟩
    · exact upTo_infinite _
    · rw [finite_add_finite, finite_add_finite]
      exact round_upTo (add_nonneg nonneg least) (add_le_add_right above kept)

theorem IsAmount.upTo_add (counts : left.IsAmount) (gained : right.IsAmount) :
    left.UpTo (left + right) := by
  have sum := gained.zero_upTo.add_left isAmount_zero gained counts
  rwa [counts.add_nothing] at sum

theorem UpTo.mul_finite (order : left.UpTo right) (counts : left.IsAmount)
    (countsToo : right.IsAmount) {factor : ℚ} (positive : 0 < factor) :
    (left * finite factor).UpTo (right * finite factor) := by
  rcases order.infinite_or_finite counts countsToo with rfl | ⟨value, more, rfl, rfl, nonneg, above⟩
  · have product : infinite false * finite factor = infinite false := infinite_mul_finite positive
    rw [product]
    exact upTo_infinite _
  · rw [finite_mul_finite nonneg positive.le, finite_mul_finite (nonneg.trans above) positive.le]
    exact round_upTo (mul_nonneg nonneg positive.le) (mul_le_mul_of_nonneg_right above positive.le)

/-! ### Caps -/

theorem IsAmount.minimum_cases (counts : left.IsAmount) (countsToo : right.IsAmount) :
    (Binary64.minimum left right = left ∧ left.UpTo right) ∨
      (Binary64.minimum left right = right ∧ right.UpTo left) := by
  rcases countsToo.infinite_or_finite with rfl | ⟨cap, rfl, _, _⟩
  · refine Or.inl ⟨?_, upTo_infinite left⟩
    rcases counts.infinite_or_finite with rfl | ⟨value, rfl, _, _⟩ <;> rfl
  · rcases counts.infinite_or_finite with rfl | ⟨value, rfl, _, _⟩
    · exact Or.inr ⟨rfl, upTo_infinite _⟩
    · by_cases exceeds : cap < value
      · refine Or.inr ⟨?_, finite_upTo_iff.mpr exceeds.le⟩
        simp [Binary64.minimum, less, exceeds]
      · refine Or.inl ⟨?_, finite_upTo_iff.mpr (not_lt.mp exceeds)⟩
        simp [Binary64.minimum, less, exceeds]

theorem IsAmount.minimum_upTo_left (counts : left.IsAmount) (countsToo : right.IsAmount) :
    (Binary64.minimum left right).UpTo left := by
  rcases counts.minimum_cases countsToo with ⟨same, _⟩ | ⟨capped, above⟩
  · rw [same]
    exact UpTo.refl left
  · rw [capped]
    exact above

theorem IsAmount.minimum_upTo_right (counts : left.IsAmount) (countsToo : right.IsAmount) :
    (Binary64.minimum left right).UpTo right := by
  rcases counts.minimum_cases countsToo with ⟨same, below⟩ | ⟨capped, _⟩
  · rw [same]
    exact below
  · rw [capped]
    exact UpTo.refl right

theorem UpTo.minimum (first : middle.UpTo left) (second : middle.UpTo right) :
    middle.UpTo (Binary64.minimum left right) :=
  fun least reaches => minimum_reaches (first least reaches) (second least reaches)

end CachingGateway.Binary64
