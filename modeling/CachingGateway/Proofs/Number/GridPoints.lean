/-
Numbers that doubles hold exactly. Whole multiples of the spacing are such, powers of two among them,
and next to a power of two there is room. A rational on one side of such a number is rounded to a
double on the same side.
-/

import CachingGateway.Proofs.Number.Rounding

namespace CachingGateway.Binary64

/-- A positive rational that rounding keeps as it is. -/
structure OnGrid (point : ℚ) : Prop where
  positive : 0 < point
  kept : nearestOnGrid point = point

theorem binade_eq {value : ℚ} {exponent : ℤ} (low : (2 : ℚ) ^ exponent ≤ value)
    (high : value < 2 ^ (exponent + 1)) : binade value = exponent := by
  obtain ⟨below, above⟩ := binade_spec ((two_zpow_pos exponent).trans_le low)
  have notLess := two_zpow_lt_iff.mp (low.trans_lt above)
  have notMore := two_zpow_lt_iff.mp (below.trans_lt high)
  omega

theorem onGrid_of_multiple {value : ℚ} {count : ℤ} (positive : 0 < value)
    (multiple : value = count * (2 : ℚ) ^ spacing value) : OnGrid value where
  positive := positive
  kept := by
    refine le_antisymm ?_ ?_
    · exact (nearestOnGrid_le multiple.le).trans multiple.ge
    · exact multiple.le.trans (le_nearestOnGrid multiple.ge)

theorem onGrid_two_zpow {exponent : ℤ} (normal : -1074 ≤ exponent) :
    OnGrid ((2 : ℚ) ^ exponent) := by
  have binade : binade ((2 : ℚ) ^ exponent) = exponent :=
    binade_eq le_rfl (two_zpow_lt_iff.mpr (Int.lt_succ exponent))
  have fine : spacing ((2 : ℚ) ^ exponent) ≤ exponent := by
    rw [spacing, binade]
    omega
  exact onGrid_of_multiple (two_zpow_pos exponent) (two_zpow_on_grid fine)

theorem onGrid_before_two_zpow {exponent : ℤ} (normal : -1021 ≤ exponent) :
    OnGrid ((2 : ℚ) ^ exponent - 2 ^ (exponent - 53)) := by
  have unit := two_zpow_pos (exponent - 53)
  have whole : (2 : ℚ) ^ exponent = 2 ^ 53 * 2 ^ (exponent - 53) := by
    rw [← zpow_natCast, ← zpow_add₀ two_ne_zero]
    congr 1
    omega
  have half : (2 : ℚ) ^ (exponent - 1) = 2 ^ 52 * 2 ^ (exponent - 53) := by
    rw [← zpow_natCast, ← zpow_add₀ two_ne_zero]
    congr 1
    omega
  have low : (2 : ℚ) ^ (exponent - 1) ≤ 2 ^ exponent - 2 ^ (exponent - 53) := by
    rw [half, whole]
    linarith
  have high : (2 : ℚ) ^ exponent - 2 ^ (exponent - 53) < 2 ^ (exponent - 1 + 1) := by
    rw [sub_add_cancel]
    linarith
  have finest : spacing ((2 : ℚ) ^ exponent - 2 ^ (exponent - 53)) = exponent - 53 := by
    rw [spacing, binade_eq low high]
    omega
  have multiple : (2 : ℚ) ^ exponent - 2 ^ (exponent - 53) = ((2 ^ 53 - 1 : ℤ) : ℚ) *
      2 ^ spacing ((2 : ℚ) ^ exponent - 2 ^ (exponent - 53)) := by
    rw [finest, whole]
    push_cast
    ring
  exact onGrid_of_multiple ((two_zpow_pos _).trans_le low) multiple

theorem OnGrid.exists_count {value : ℚ} (grid : OnGrid value) :
    ∃ count : ℤ, value = count * (2 : ℚ) ^ spacing value :=
  ⟨_, grid.kept.symm.trans (nearestOnGrid_eq value)⟩

theorem OnGrid.add_unit_le {value : ℚ} (grid : OnGrid value) :
    value + 2 ^ spacing value ≤ 2 ^ (binade value + 1) := by
  have unit := two_zpow_pos (spacing value)
  have above := (binade_spec grid.positive).2
  obtain ⟨count, multiple⟩ := grid.exists_count
  have some : 0 < count := by
    have product := grid.positive
    rw [multiple] at product
    exact_mod_cast (mul_pos_iff_of_pos_right unit).mp product
  have fine : spacing value ≤ binade value + 1 := by
    have least : (2 : ℚ) ^ spacing value ≤ value := by
      calc (2 : ℚ) ^ spacing value = 1 * 2 ^ spacing value := (one_mul _).symm
        _ ≤ count * 2 ^ spacing value :=
            mul_le_mul_of_nonneg_right (by exact_mod_cast some) unit.le
        _ = value := multiple.symm
    exact (two_zpow_lt_iff.mp (least.trans_lt above)).le
  have top := two_zpow_on_grid fine
  have fewer : count < 2 ^ (binade value + 1 - spacing value).toNat := by
    rw [top] at above
    have product := multiple.symm.trans_lt above
    exact_mod_cast lt_of_mul_lt_mul_right product unit.le
  calc value + 2 ^ spacing value = ((count + 1 : ℤ) : ℚ) * 2 ^ spacing value := by
        rw [Int.cast_add, Int.cast_one, add_mul, one_mul, ← multiple]
    _ ≤ ((2 ^ (binade value + 1 - spacing value).toNat : ℤ) : ℚ) * 2 ^ spacing value :=
        mul_le_mul_of_nonneg_right (by exact_mod_cast fewer) unit.le
    _ = 2 ^ (binade value + 1) := top.symm

theorem OnGrid.after_two_zpow {value : ℚ} {exponent : ℤ} (grid : OnGrid value)
    (normal : -1022 ≤ exponent) (above : (2 : ℚ) ^ exponent < value) :
    (2 : ℚ) ^ exponent + 2 ^ (exponent - 52) ≤ value := by
  have unit := two_zpow_pos (exponent - 52)
  have whole : (2 : ℚ) ^ exponent = 2 ^ 52 * 2 ^ (exponent - 52) := by
    rw [← zpow_natCast, ← zpow_add₀ two_ne_zero]
    congr 1
    omega
  by_cases near : value < 2 ^ (exponent + 1)
  · have finest : spacing value = exponent - 52 := by
      rw [spacing, binade_eq above.le near]
      omega
    obtain ⟨count, multiple⟩ := grid.exists_count
    rw [finest] at multiple
    rw [multiple, whole] at above ⊢
    have more : (2 : ℚ) ^ 52 < count := lt_of_mul_lt_mul_right above unit.le
    have next : (2 : ℤ) ^ 52 + 1 ≤ count := by exact_mod_cast more
    have cast : (2 : ℚ) ^ 52 + 1 ≤ count := by exact_mod_cast next
    calc (2 : ℚ) ^ 52 * 2 ^ (exponent - 52) + 2 ^ (exponent - 52)
        = ((2 : ℚ) ^ 52 + 1) * 2 ^ (exponent - 52) := by ring
      _ ≤ (count : ℚ) * 2 ^ (exponent - 52) := mul_le_mul_of_nonneg_right cast unit.le
  · have double : (2 : ℚ) ^ (exponent + 1) = 2 * 2 ^ exponent := by
      rw [zpow_add_one₀ two_ne_zero, mul_comm]
    have far : (2 : ℚ) * 2 ^ exponent ≤ value := double ▸ not_lt.mp near
    linarith

theorem onGrid_natCast {number : ℕ} (positive : 0 < number) (small : number < 2 ^ 53) :
    OnGrid number where
  positive := Nat.cast_pos.mpr positive
  kept := nearestOnGrid_natCast positive small

theorem onGrid_add_half {number : ℕ} (small : number < 2 ^ 52) : OnGrid ((number : ℚ) + 1 / 2) := by
  have positive : (0 : ℚ) < (number : ℚ) + 1 / 2 := by positivity
  have next : (number : ℚ) + 1 ≤ 2 ^ 52 := by exact_mod_cast small
  have bound : (number : ℚ) + 1 / 2 < 2 ^ (52 : ℤ) := by
    norm_num at next ⊢
    linarith
  have exponents := two_zpow_lt_iff.mp ((binade_spec positive).1.trans_lt bound)
  have fine : spacing ((number : ℚ) + 1 / 2) ≤ -1 := by
    rw [spacing]
    omega
  have half := two_zpow_on_grid fine
  have multiple : (number : ℚ) + 1 / 2 =
      (((2 * number + 1) * 2 ^ (-1 - spacing ((number : ℚ) + 1 / 2)).toNat : ℤ) : ℚ) *
        2 ^ spacing ((number : ℚ) + 1 / 2) := by
    rw [Int.cast_mul, mul_assoc, ← half, zpow_neg_one]
    push_cast
    ring
  exact onGrid_of_multiple positive multiple

theorem OnGrid.whole {value : ℚ} (grid : OnGrid value) (large : 2 ^ 52 ≤ value) :
    ∃ number : ℕ, value = number := by
  have power : (2 : ℚ) ^ (52 : ℤ) ≤ value := by exact_mod_cast large
  have high := (binade_spec grid.positive).2
  have exponents := two_zpow_lt_iff.mp (power.trans_lt high)
  have coarse : 0 ≤ spacing value := by
    rw [spacing]
    omega
  have unit : (2 : ℚ) ^ spacing value = ((2 ^ (spacing value).toNat : ℤ) : ℚ) := by
    have one := two_zpow_on_grid coarse
    rw [zpow_zero, mul_one, sub_zero] at one
    exact one
  obtain ⟨count, integral⟩ : ∃ count : ℤ, (count : ℚ) = value := by
    obtain ⟨count, multiple⟩ := grid.exists_count
    rw [unit, ← Int.cast_mul] at multiple
    exact ⟨_, multiple.symm⟩
  have nonneg : 0 ≤ count := by
    have positive := grid.positive
    rw [← integral] at positive
    exact_mod_cast positive.le
  obtain ⟨number, rfl⟩ := Int.eq_ofNat_of_zero_le nonneg
  exact ⟨number, by rw [← integral, Int.cast_natCast]⟩

/-- The nearest double is off by half of the spacing at most. -/
theorem nearestOnGrid_error (value : ℚ) :
    |nearestOnGrid value - value| ≤ 2 ^ spacing value / 2 := by
  have unit := two_zpow_pos (spacing value)
  have scaled : value = value * 2 ^ (-spacing value) * 2 ^ spacing value := by
    rw [mul_assoc, ← zpow_add₀ two_ne_zero, neg_add_cancel, zpow_zero, mul_one]
  have difference : nearestOnGrid value - value =
      (nearestEven (value * 2 ^ (-spacing value)) - value * 2 ^ (-spacing value)) *
        2 ^ spacing value := by
    rw [sub_mul, ← scaled, nearestOnGrid_eq]
  rw [difference, abs_mul, abs_of_pos unit]
  have error := nearestEven_error (value * 2 ^ (-spacing value))
  linarith [mul_le_mul_of_nonneg_right error unit.le]

/-- From two to the fifty-three on a part of one is rounded off. -/
theorem OnGrid.nearest_add_part {value part : ℚ} (grid : OnGrid value) (large : 2 ^ 53 ≤ value)
    (nonneg : 0 ≤ part) (less : part < 1) : nearestOnGrid (value + part) = value := by
  obtain ⟨low, high⟩ := binade_spec grid.positive
  have unit := two_zpow_pos (spacing value)
  have coarse : (2 : ℚ) ≤ 2 ^ spacing value := by
    have power : (2 : ℚ) ^ (53 : ℤ) ≤ value := by exact_mod_cast large
    have exponents := two_zpow_lt_iff.mp (power.trans_lt high)
    have positive : 1 ≤ spacing value := by
      rw [spacing]
      omega
    calc (2 : ℚ) = 2 ^ (1 : ℤ) := (zpow_one 2).symm
      _ ≤ 2 ^ spacing value := zpow_le_zpow_right₀ (by norm_num) positive
  have same : spacing (value + part) = spacing value := by
    have room := grid.add_unit_le
    have below : value + part < 2 ^ (binade value + 1) := by linarith
    rw [spacing, spacing, binade_eq (low.trans (le_add_of_nonneg_right nonneg)) below]
  apply le_antisymm
  · -- The nearest point is closer to the value than the next point of the grid is.
    have error := (abs_le.mp (nearestOnGrid_error (value + part))).2
    obtain ⟨count, multiple⟩ := grid.exists_count
    rw [nearestOnGrid_eq, same] at error ⊢
    generalize nearestEven ((value + part) * 2 ^ (-spacing value)) = nearest at error ⊢
    have closer : (nearest : ℚ) * 2 ^ spacing value < ((count + 1 : ℤ) : ℚ) * 2 ^ spacing value := by
      rw [Int.cast_add, Int.cast_one, add_mul, one_mul, ← multiple]
      linarith
    have fewer : nearest < count + 1 := by
      exact_mod_cast lt_of_mul_lt_mul_right closer unit.le
    calc (nearest : ℚ) * 2 ^ spacing value ≤ count * 2 ^ spacing value :=
          mul_le_mul_of_nonneg_right (by exact_mod_cast Int.lt_add_one_iff.mp fewer) unit.le
      _ = value := multiple.symm
  · have nearest := nearestOnGrid_mono grid.positive (le_add_of_nonneg_right nonneg)
    rwa [grid.kept] at nearest

theorem OnGrid.round_add_part {value part : ℚ} (grid : OnGrid value) (large : 2 ^ 53 ≤ value)
    (nonneg : 0 ≤ part) (less : part < 1) : round (value + part) = round value := by
  rw [round_of_positive (add_pos_of_pos_of_nonneg grid.positive nonneg),
    grid.nearest_add_part large nonneg less, round_of_positive grid.positive, grid.kept]

theorem onGrid_nearestOnGrid {value : ℚ} (positive : 0 < value) (some : 0 < nearestOnGrid value) :
    OnGrid (nearestOnGrid value) := by
  -- Up to this power of two the grid is at least as fine as at the value.
  obtain ⟨next, above⟩ : ∃ next, next = max (binade value + 1) (-1074) := ⟨_, rfl⟩
  have below : value ≤ 2 ^ next := by
    have powers : (2 : ℚ) ^ (binade value + 1) ≤ 2 ^ next :=
      zpow_le_zpow_right₀ (by norm_num) (above ▸ le_max_left _ _)
    exact (binade_spec positive).2.le.trans powers
  have fine : spacing value ≤ next := by
    rw [spacing]
    omega
  have bounded : nearestOnGrid value ≤ 2 ^ next := by
    rw [two_zpow_on_grid fine] at below ⊢
    exact nearestOnGrid_le below
  rcases bounded.eq_or_lt with same | less
  · rw [same]
    exact onGrid_two_zpow (by omega)
  · have low := (binade_spec some).1
    have exponents := two_zpow_lt_iff.mp (low.trans_lt less)
    have finer : spacing (nearestOnGrid value) ≤ spacing value := by
      simp only [spacing]
      omega
    have multiple : nearestOnGrid value =
        ((nearestEven (value * 2 ^ (-spacing value)) *
          2 ^ (spacing value - spacing (nearestOnGrid value)).toNat : ℤ) : ℚ) *
          2 ^ spacing (nearestOnGrid value) := by
      have units := two_zpow_on_grid finer
      rw [Int.cast_mul, mul_assoc, ← units, ← nearestOnGrid_eq]
    exact onGrid_of_multiple some multiple

/-! ### Rounding beside such a number -/

variable {value point : ℚ}

theorem round_le_onGrid (nonneg : 0 ≤ value) (grid : OnGrid point) (order : value ≤ point)
    (fits : point < overflowBound) :
    ∃ rounded, round value = finite rounded ∧ 0 ≤ rounded ∧ rounded ≤ point := by
  obtain ⟨rounded, nearest⟩ : ∃ rounded, (if value = 0 then 0 else nearestOnGrid value) = rounded :=
    ⟨_, rfl⟩
  have bounds : 0 ≤ rounded ∧ rounded ≤ point := by
    rw [← nearest]
    split
    · exact ⟨le_rfl, grid.positive.le⟩
    · rename_i nonzero
      have positive : 0 < value := lt_of_le_of_ne nonneg (Ne.symm nonzero)
      have start : ((0 : ℤ) : ℚ) * 2 ^ spacing value ≤ value := by
        rw [Int.cast_zero, zero_mul]
        exact nonneg
      have low := le_nearestOnGrid start
      have high := nearestOnGrid_mono positive order
      rw [Int.cast_zero, zero_mul] at low
      rw [grid.kept] at high
      exact ⟨low, high⟩
  refine ⟨rounded, ?_, bounds⟩
  rw [round, if_neg (not_lt.mpr nonneg), ofMagnitude_nonnegative nearest,
    if_neg (not_le.mpr (bounds.2.trans_lt fits))]

theorem round_reaches_nearest {least : ℚ} (positive : 0 < least) (order : least ≤ value) :
    (round value).Reaches (nearestOnGrid least) := by
  rw [round_of_positive (positive.trans_le order)]
  split
  · rfl
  · exact nearestOnGrid_mono positive order

theorem round_reaches_onGrid (grid : OnGrid point) (order : point ≤ value) :
    (round value).Reaches point := by
  have nearest := round_reaches_nearest grid.positive order
  rwa [grid.kept] at nearest

theorem signed_le_onGrid (nonneg : 0 ≤ value) (grid : OnGrid point) (order : value ≤ point)
    (fits : point < overflowBound) :
    ∃ rounded, signed false value = finite rounded ∧ 0 ≤ rounded ∧ rounded ≤ point := by
  rw [signed]
  split
  · exact ⟨0, rfl, le_rfl, grid.positive.le⟩
  · exact round_le_onGrid nonneg grid order fits

theorem signed_reaches_nearest {least : ℚ} (positive : 0 < least) (order : least ≤ value)
    (negative : Bool) : (signed negative value).Reaches (nearestOnGrid least) := by
  rw [signed, if_neg (positive.trans_le order).ne']
  exact round_reaches_nearest positive order

theorem signed_reaches_onGrid (grid : OnGrid point) (order : point ≤ value) (negative : Bool) :
    (signed negative value).Reaches point := by
  have nearest := signed_reaches_nearest grid.positive order negative
  rwa [grid.kept] at nearest

/-- A rational is a double when rounding keeps it; what is no rational is one. -/
def IsDouble : Binary64 → Prop
  | finite value => round value = finite value
  | nan | infinite _ | negativeZero => True

theorem onGrid_of_round (positive : 0 < value) (double : round value = finite value) :
    OnGrid value where
  positive := positive
  kept := by
    rw [round_of_positive positive] at double
    split at double
    · cases double
    · exact finite.inj double

end CachingGateway.Binary64
