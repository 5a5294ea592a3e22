/-
Rounding to doubles. It keeps the order of rationals, and it keeps every whole number below two to the
fifty-three as it is. So a whole number that bounds the exact result of an operation from below bounds
the double that comes out of it, also when that is an infinity.
-/

import CachingGateway.Number.Binary64
import Mathlib.Algebra.Order.Field.Power
import Mathlib.Algebra.Order.Ring.Rat
import Mathlib.Data.Rat.Floor
import Mathlib.Tactic.Linarith
import Mathlib.Tactic.Positivity
import Mathlib.Tactic.Ring

namespace CachingGateway

/-! ### The nearest integer -/

theorem nearestEven_cases (value : ℚ) :
    (nearestEven value = value.floor ∧ value - value.floor ≤ 1 / 2) ∨
      (nearestEven value = value.floor + 1 ∧ 1 / 2 ≤ value - value.floor) := by
  simp only [nearestEven]
  split
  · rename_i small
    exact Or.inl ⟨rfl, small.le⟩
  · rename_i large
    have half : 1 / 2 ≤ value - value.floor := not_lt.mp large
    split
    · exact Or.inr ⟨rfl, half⟩
    · rename_i tie
      split
      · exact Or.inl ⟨rfl, not_lt.mp tie⟩
      · exact Or.inr ⟨rfl, half⟩

theorem nearestEven_error (value : ℚ) : |(nearestEven value : ℚ) - value| ≤ 1 / 2 := by
  have floor : (value.floor : ℚ) ≤ value := Rat.floor_le value
  have next : value - 1 < value.floor := Rat.lt_floor
  rw [abs_le]
  rcases nearestEven_cases value with ⟨down, half⟩ | ⟨up, half⟩
  · rw [down]
    constructor <;> linarith
  · rw [up, Int.cast_add, Int.cast_one]
    constructor <;> linarith

theorem le_nearestEven {point : ℤ} {value : ℚ} (below : (point : ℚ) ≤ value) :
    point ≤ nearestEven value := by
  have floor : point ≤ value.floor := Rat.le_floor_iff.mpr below
  rcases nearestEven_cases value with ⟨down, _⟩ | ⟨up, _⟩ <;> omega

theorem nearestEven_le {point : ℤ} {value : ℚ} (above : value ≤ point) :
    nearestEven value ≤ point := by
  have floor : (value.floor : ℚ) ≤ value := Rat.floor_le value
  rcases nearestEven_cases value with ⟨down, _⟩ | ⟨up, half⟩
  · rw [down]
    exact_mod_cast floor.trans above
  · have strict : (value.floor : ℚ) < point := by linarith
    have below : value.floor < point := by exact_mod_cast strict
    omega

theorem nearestEven_mono {left right : ℚ} (order : left ≤ right) :
    nearestEven left ≤ nearestEven right := by
  have floors : left.floor ≤ right.floor := Rat.floor_monotone order
  rcases order.eq_or_lt with same | strict
  · rw [same]
  · rcases nearestEven_cases left with ⟨leftDown, _⟩ | ⟨leftUp, leftHalf⟩
    · rcases nearestEven_cases right with ⟨rightDown, _⟩ | ⟨rightUp, _⟩ <;> omega
    · rcases nearestEven_cases right with ⟨rightDown, rightHalf⟩ | ⟨rightUp, _⟩
      · -- Of two values over one floor, the smaller is not past the half when the larger is before it.
        have apart : left.floor ≠ right.floor := by
          intro together
          rw [together] at leftHalf
          linarith
        omega
      · omega

/-! ### Binades -/

theorem twoPower_eq (exponent : ℤ) : twoPower exponent = (2 : ℚ) ^ exponent := by
  cases exponent with
  | ofNat exponent =>
      have whole : twoPower (Int.ofNat exponent) = ((2 ^ exponent : ℕ) : ℚ) := rfl
      rw [whole, Int.ofNat_eq_natCast, zpow_natCast]
      push_cast
      rfl
  | negSucc exponent =>
      have part : twoPower (Int.negSucc exponent) = mkRat 1 (2 ^ (exponent + 1)) := rfl
      rw [part, Rat.mkRat_eq_div, zpow_negSucc, inv_eq_one_div]
      push_cast
      rfl

namespace Binary64

theorem two_zpow_pos (exponent : ℤ) : (0 : ℚ) < 2 ^ exponent := by positivity

theorem two_zpow_lt_iff {left right : ℤ} : (2 : ℚ) ^ left < 2 ^ right ↔ left < right :=
  zpow_lt_zpow_iff_right₀ (by norm_num)

/-- The logarithms of two whole numbers locate their quotient within two binades. -/
private theorem log2_quotient {above below : ℕ} (positive : above ≠ 0) (divisor : below ≠ 0) :
    (2 : ℚ) ^ ((Nat.log2 above : ℤ) - Nat.log2 below - 1) ≤ above / below ∧
      (above / below : ℚ) < 2 ^ ((Nat.log2 above : ℤ) - Nat.log2 below + 1) := by
  have denominator : (0 : ℚ) < below := by exact_mod_cast Nat.pos_of_ne_zero divisor
  have aboveLow : (2 : ℚ) ^ (Nat.log2 above : ℤ) ≤ above := by
    rw [zpow_natCast]
    exact_mod_cast Nat.log2_self_le positive
  have aboveHigh : (above : ℚ) < 2 ^ ((Nat.log2 above : ℤ) + 1) := by
    rw [← Nat.cast_succ, zpow_natCast]
    exact_mod_cast Nat.lt_log2_self
  have belowLow : (2 : ℚ) ^ (Nat.log2 below : ℤ) ≤ below := by
    rw [zpow_natCast]
    exact_mod_cast Nat.log2_self_le divisor
  have belowHigh : (below : ℚ) < 2 ^ ((Nat.log2 below : ℤ) + 1) := by
    rw [← Nat.cast_succ, zpow_natCast]
    exact_mod_cast Nat.lt_log2_self
  constructor
  · rw [le_div_iff₀ denominator]
    calc (2 : ℚ) ^ ((Nat.log2 above : ℤ) - Nat.log2 below - 1) * below
        ≤ 2 ^ ((Nat.log2 above : ℤ) - Nat.log2 below - 1) * 2 ^ ((Nat.log2 below : ℤ) + 1) :=
          mul_le_mul_of_nonneg_left belowHigh.le (two_zpow_pos _).le
      _ = 2 ^ (Nat.log2 above : ℤ) := by
          rw [← zpow_add₀ two_ne_zero]
          congr 1
          ring
      _ ≤ above := aboveLow
  · rw [div_lt_iff₀ denominator]
    calc (above : ℚ) < 2 ^ ((Nat.log2 above : ℤ) + 1) := aboveHigh
      _ = 2 ^ ((Nat.log2 above : ℤ) - Nat.log2 below + 1) * 2 ^ (Nat.log2 below : ℤ) := by
          rw [← zpow_add₀ two_ne_zero]
          congr 1
          ring
      _ ≤ 2 ^ ((Nat.log2 above : ℤ) - Nat.log2 below + 1) * below :=
          mul_le_mul_of_nonneg_left belowLow (two_zpow_pos _).le

theorem binade_spec {value : ℚ} (positive : 0 < value) :
    (2 : ℚ) ^ binade value ≤ value ∧ value < 2 ^ (binade value + 1) := by
  have numerator : 0 < value.num := Rat.num_pos.mpr positive
  have quotient : (value.num.natAbs : ℚ) / value.den = value := by
    have natural : ((value.num.natAbs : ℤ) : ℚ) = value.num := by
      rw [Int.natAbs_of_nonneg numerator.le]
    rw [← Int.cast_natCast, natural, Rat.num_div_den]
  obtain ⟨low, high⟩ := log2_quotient (Int.natAbs_ne_zero.mpr numerator.ne') value.den_nz
  rw [quotient] at low high
  simp only [binade, twoPower_eq]
  split
  · rename_i less
    rw [sub_add_cancel]
    exact ⟨low, less⟩
  · rename_i reached
    exact ⟨not_lt.mp reached, high⟩

theorem binade_mono {left right : ℚ} (positive : 0 < left) (order : left ≤ right) :
    binade left ≤ binade right := by
  have low := (binade_spec positive).1
  have high := (binade_spec (positive.trans_le order)).2
  have powers : (2 : ℚ) ^ binade left < 2 ^ (binade right + 1) := by linarith
  have exponents := two_zpow_lt_iff.mp powers
  omega

/-! ### The grid of doubles -/

theorem nearestOnGrid_eq (value : ℚ) :
    nearestOnGrid value = nearestEven (value * 2 ^ (-spacing value)) * 2 ^ spacing value := by
  simp only [nearestOnGrid, twoPower_eq]

/-- A point of the grid at a value that is not above the value is not above its rounding. -/
theorem le_nearestOnGrid {value : ℚ} {point : ℤ} (below : point * (2 : ℚ) ^ spacing value ≤ value) :
    point * (2 : ℚ) ^ spacing value ≤ nearestOnGrid value := by
  have unit := two_zpow_pos (spacing value)
  have scaled : (point : ℚ) ≤ value * 2 ^ (-spacing value) := by
    rw [zpow_neg, ← div_eq_mul_inv, le_div_iff₀ unit]
    exact below
  rw [nearestOnGrid_eq]
  exact mul_le_mul_of_nonneg_right (by exact_mod_cast le_nearestEven scaled) unit.le

theorem nearestOnGrid_le {value : ℚ} {point : ℤ} (above : value ≤ point * (2 : ℚ) ^ spacing value) :
    nearestOnGrid value ≤ point * (2 : ℚ) ^ spacing value := by
  have unit := two_zpow_pos (spacing value)
  have scaled : value * 2 ^ (-spacing value) ≤ point := by
    rw [zpow_neg, ← div_eq_mul_inv, div_le_iff₀ unit]
    exact above
  rw [nearestOnGrid_eq]
  exact mul_le_mul_of_nonneg_right (by exact_mod_cast nearestEven_le scaled) unit.le

theorem two_zpow_on_grid {unit exponent : ℤ} (coarse : unit ≤ exponent) :
    (2 : ℚ) ^ exponent = ((2 ^ (exponent - unit).toNat : ℤ) : ℚ) * 2 ^ unit := by
  have whole : ((exponent - unit).toNat : ℤ) = exponent - unit := Int.toNat_of_nonneg (by omega)
  push_cast
  rw [← zpow_natCast, whole, ← zpow_add₀ two_ne_zero, sub_add_cancel]

theorem nearestOnGrid_mono {left right : ℚ} (positive : 0 < left) (order : left ≤ right) :
    nearestOnGrid left ≤ nearestOnGrid right := by
  have binades := binade_mono positive order
  have fineLeft : spacing left = max (binade left - 52) (-1074) := rfl
  have fineRight : spacing right = max (binade right - 52) (-1074) := rfl
  rcases lt_trichotomy (spacing left) (spacing right) with finer | same | coarser
  · -- The least value of the larger binade stands on both grids and between both values.
    have between : left ≤ (2 : ℚ) ^ binade right := by
      have high := (binade_spec positive).2.le
      have powers : (2 : ℚ) ^ (binade left + 1) ≤ 2 ^ binade right :=
        zpow_le_zpow_right₀ (by norm_num) (by omega)
      exact high.trans powers
    have low := (binade_spec (positive.trans_le order)).1
    have coarseLeft : spacing left ≤ binade right := by omega
    have coarseRight : spacing right ≤ binade right := by omega
    have onLeft := two_zpow_on_grid coarseLeft
    have onRight := two_zpow_on_grid coarseRight
    calc nearestOnGrid left
        ≤ ((2 ^ (binade right - spacing left).toNat : ℤ) : ℚ) * 2 ^ spacing left :=
          nearestOnGrid_le (onLeft ▸ between)
      _ = 2 ^ binade right := onLeft.symm
      _ = ((2 ^ (binade right - spacing right).toNat : ℤ) : ℚ) * 2 ^ spacing right := onRight
      _ ≤ nearestOnGrid right := le_nearestOnGrid (onRight ▸ low)
  · rw [nearestOnGrid_eq, nearestOnGrid_eq, same]
    have unit := two_zpow_pos (spacing right)
    have scaled : left * (2 : ℚ) ^ (-spacing right) ≤ right * 2 ^ (-spacing right) :=
      mul_le_mul_of_nonneg_right order (two_zpow_pos _).le
    exact mul_le_mul_of_nonneg_right (by exact_mod_cast nearestEven_mono scaled) unit.le
  · omega

theorem nearestOnGrid_natCast {number : ℕ} (positive : 0 < number) (small : number < 2 ^ 53) :
    nearestOnGrid number = number := by
  have value : (0 : ℚ) < number := by exact_mod_cast positive
  have low := (binade_spec value).1
  have bound : (number : ℚ) < 2 ^ (53 : ℤ) := by exact_mod_cast small
  have exponents : binade (number : ℚ) < 53 := two_zpow_lt_iff.mp (low.trans_lt bound)
  have fine : spacing (number : ℚ) ≤ 0 := by
    rw [spacing]
    omega
  have point : (number : ℚ) =
      ((number * 2 ^ (0 - spacing (number : ℚ)).toNat : ℤ) : ℚ) * 2 ^ spacing (number : ℚ) := by
    have one := two_zpow_on_grid fine
    rw [zpow_zero] at one
    push_cast at one ⊢
    rw [mul_assoc, ← one, mul_one]
  refine le_antisymm ?_ ?_
  · exact (nearestOnGrid_le point.le).trans point.ge
  · exact point.le.trans (le_nearestOnGrid point.ge)

/-! ### Lower bounds of doubles -/

/-- A double is no NaN and not below a rational. -/
def Reaches (bound : ℚ) : Binary64 → Prop
  | nan => False
  | infinite negative => negative = false
  | negativeZero => bound ≤ 0
  | finite value => bound ≤ value

theorem Reaches.mono {amount : Binary64} {least lower : ℚ} (reaches : amount.Reaches least)
    (order : lower ≤ least) : amount.Reaches lower := by
  cases amount with
  | nan => cases reaches
  | infinite negative => exact reaches
  | negativeZero => exact order.trans reaches
  | finite value => exact order.trans reaches

variable {bound : ℕ} {left right : Binary64}

theorem ofMagnitude_nonnegative {magnitude rounded : ℚ}
    (grid : (if magnitude = 0 then 0 else nearestOnGrid magnitude) = rounded) :
    ofMagnitude false magnitude =
      if overflowBound ≤ rounded then infinite false else finite rounded := by
  unfold ofMagnitude
  -- The bound is a power that is not to be evaluated here.
  generalize overflowBound = limit
  rw [grid]
  by_cases vanished : rounded = 0
  · simp only [vanished, if_true, Bool.false_eq_true, if_false]
  · simp only [vanished, Bool.false_eq_true, if_false]

theorem round_of_positive {value : ℚ} (positive : 0 < value) :
    round value =
      if overflowBound ≤ nearestOnGrid value then infinite false
      else finite (nearestOnGrid value) := by
  rw [round, if_neg (not_lt.mpr positive.le), ofMagnitude_nonnegative (if_neg positive.ne')]

theorem ofMagnitude_reaches (small : bound < 2 ^ 53) {magnitude : ℚ} (nonneg : 0 ≤ magnitude)
    (order : (bound : ℚ) ≤ magnitude) : (ofMagnitude false magnitude).Reaches bound := by
  have rounded : (bound : ℚ) ≤ if magnitude = 0 then 0 else nearestOnGrid magnitude := by
    by_cases zero : magnitude = 0
    · rw [if_pos zero]
      rwa [zero] at order
    · rw [if_neg zero]
      have positive : 0 < magnitude := lt_of_le_of_ne nonneg (Ne.symm zero)
      rcases Nat.eq_zero_or_pos bound with absent | many
      · have start : ((0 : ℤ) : ℚ) * 2 ^ spacing magnitude ≤ magnitude := by
          rw [Int.cast_zero, zero_mul]
          exact nonneg
        have above := le_nearestOnGrid start
        rw [Int.cast_zero, zero_mul] at above
        rw [absent, Nat.cast_zero]
        exact above
      · have monotone := nearestOnGrid_mono (by exact_mod_cast many) order
        rwa [nearestOnGrid_natCast many small] at monotone
  rw [ofMagnitude_nonnegative rfl]
  by_cases huge : overflowBound ≤ if magnitude = 0 then 0 else nearestOnGrid magnitude
  · rw [if_pos huge]
    rfl
  · rw [if_neg huge]
    exact rounded

theorem round_reaches (small : bound < 2 ^ 53) {value : ℚ} (order : (bound : ℚ) ≤ value) :
    (round value).Reaches bound := by
  have nonneg : (0 : ℚ) ≤ value := (Nat.cast_nonneg bound).trans order
  rw [round, if_neg (not_lt.mpr nonneg)]
  exact ofMagnitude_reaches small nonneg order

theorem signed_reaches (small : bound < 2 ^ 53) (negative : Bool) {value : ℚ}
    (order : (bound : ℚ) ≤ value) : (signed negative value).Reaches bound := by
  rw [signed]
  split
  · rename_i zero
    rw [zero] at order
    cases negative <;> exact order
  · exact round_reaches small order

theorem ofNat_eq_finite {number : ℕ} (small : number < 2 ^ 53) : ofNat number = finite number := by
  have nonneg : ¬((number : ℚ) < 0) := not_lt.mpr (Nat.cast_nonneg number)
  have grid : (if (number : ℚ) = 0 then 0 else nearestOnGrid number) = (number : ℚ) := by
    rcases Nat.eq_zero_or_pos number with zero | positive
    · rw [zero, Nat.cast_zero, if_pos rfl]
    · have nonzero : (number : ℚ) ≠ 0 := by exact_mod_cast positive.ne'
      rw [if_neg nonzero, nearestOnGrid_natCast positive small]
  have fits : ¬(overflowBound ≤ (number : ℚ)) := by
    rw [overflowBound, twoPower_eq, not_le]
    have bound : (number : ℚ) < 2 ^ (53 : ℤ) := by exact_mod_cast small
    exact bound.trans (two_zpow_lt_iff.mpr (by norm_num))
  rw [ofNat, round, if_neg nonneg, ofMagnitude_nonnegative grid, if_neg fits]

theorem add_reaches_of_rounding {first second least : ℚ}
    (rounding : ∀ zeros value, first + second ≤ value → (signed zeros value).Reaches least)
    (leftReaches : left.Reaches first) (rightReaches : right.Reaches second) :
    (left + right).Reaches least := by
  have finiteSum (one other : ℚ) (zeros : Bool) (firstBelow : first ≤ one)
      (secondBelow : second ≤ other) : (addFinite one other zeros).Reaches least :=
    rounding zeros _ (add_le_add firstBelow secondBelow)
  change (add left right).Reaches _
  cases left with
  | nan => cases leftReaches
  | infinite negative =>
      cases leftReaches
      cases right with
      | nan => cases rightReaches
      | infinite negative =>
          cases rightReaches
          rfl
      | negativeZero => rfl
      | finite value => rfl
  | negativeZero =>
      cases right with
      | nan => cases rightReaches
      | infinite negative => exact rightReaches
      | negativeZero =>
          have zero : (signed false 0).Reaches least :=
            rounding false 0 (add_nonpos leftReaches rightReaches)
          exact zero
      | finite value => exact finiteSum 0 value false leftReaches rightReaches
  | finite value =>
      cases right with
      | nan => cases rightReaches
      | infinite negative => exact rightReaches
      | negativeZero => exact finiteSum value 0 false leftReaches rightReaches
      | finite other => exact finiteSum value other false leftReaches rightReaches

theorem add_reaches {first second : ℕ} (small : first + second < 2 ^ 53)
    (leftReaches : left.Reaches first) (rightReaches : right.Reaches second) :
    (left + right).Reaches ((first + second : ℕ) : ℚ) := by
  refine add_reaches_of_rounding ?_ leftReaches rightReaches
  intro zeros value order
  refine signed_reaches small zeros ?_
  push_cast
  exact order

theorem isNegative_of_nonneg {value : ℚ} (nonneg : 0 ≤ value) : (finite value).isNegative = false :=
  decide_eq_false (not_lt.mpr nonneg)

theorem infinite_mul_finite {factor : ℚ} (positive : 0 < factor) :
    mul (infinite false) (finite factor) = infinite false := by
  have nonzero : ¬(finite factor = finite 0 ∨ finite factor = negativeZero) := by
    rintro (zero | zero)
    · exact positive.ne' (finite.inj zero)
    · cases zero
  simp only [mul, if_neg nonzero, isNegative_of_nonneg positive.le]
  rfl

theorem mul_finite_reaches_of_rounding {first least factor : ℚ} (positive : 0 < factor)
    (rounding : ∀ negative value, first * factor ≤ value → (signed negative value).Reaches least)
    (leftReaches : left.Reaches first) : (left * finite factor).Reaches least := by
  change (mul left (finite factor)).Reaches _
  cases left with
  | nan => cases leftReaches
  | infinite negative =>
      cases leftReaches
      rw [infinite_mul_finite positive]
      rfl
  | negativeZero => exact rounding _ _ (mul_nonpos_of_nonpos_of_nonneg leftReaches positive.le)
  | finite value => exact rounding _ _ (mul_le_mul_of_nonneg_right leftReaches positive.le)

theorem mul_finite_reaches {first product : ℕ} {factor : ℚ} (small : product < 2 ^ 53)
    (positive : 0 < factor) (order : (product : ℚ) ≤ first * factor)
    (leftReaches : left.Reaches first) : (left * finite factor).Reaches product :=
  mul_finite_reaches_of_rounding positive
    (fun negative _ above => signed_reaches small negative (order.trans above)) leftReaches

theorem minimum_reaches {least : ℚ} (leftReaches : left.Reaches least)
    (rightReaches : right.Reaches least) : (minimum left right).Reaches least := by
  simp only [minimum]
  split
  · exact rightReaches
  · split
    · exact leftReaches
    · split
      · exact rightReaches
      · exact leftReaches

theorem minimum_eq_of_reaches {least : ℚ} (positive : 0 < least) (reaches : left.Reaches least) :
    minimum left (finite least) = finite least := by
  cases left with
  | nan => cases reaches
  | infinite negative =>
      cases reaches
      rfl
  | negativeZero => exact absurd reaches (not_le.mpr positive)
  | finite value =>
      have order : least ≤ value := reaches
      have compared : less (finite least) (finite value) = decide (least < value) := rfl
      have numbers (number : ℚ) : finite number ≠ nan := by
        intro equal
        cases equal
      rw [minimum, if_neg (numbers value), if_neg (numbers least), compared]
      rcases order.lt_or_eq with below | same
      · rw [decide_eq_true below, if_pos rfl]
      · rw [same, ite_self]

end Binary64

end CachingGateway
