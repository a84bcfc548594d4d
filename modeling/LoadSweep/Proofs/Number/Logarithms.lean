import LoadSweep.Proofs.Number.Ceilings

/-!
# Scales from imprecise logarithms

The exponent of a scale is the floor of a logarithm, and how precise that is depends on where it
comes from.  A logarithm that is off in its last places may lead to another floor, but only next to
a power of ten: the maximum is not far below the power that was found, nor far above ten times this
power (`bounds_of_close`).  The correctly rounded logarithm of the definitions is one of those that
are close enough (`Scaled.exists_close`).

From above the scale cannot be missed by much.  The powers that are computed are off by a few
roundings (`power_lower`), and the last of the steps is ten; so a scale from any of these exponents
reaches the maximum, up to a trifle (`ceiling_of_close_logarithm`).
-/

namespace LoadSweep.Number

set_option autoImplicit false

/-! ## Powers -/

/-- A power of ten that is computed is less than the exact one by a small part at most. -/
theorem power_lower {exponent : Int} (low : -308 ≤ exponent) (high : exponent ≤ 308) :
    10 ^ exponent * (1 - 2 ^ (-44 : Int)) ≤ value (powerOfTen exponent) := by
  rcases low.lt_or_eq with normal | rfl
  · have lower := (powerKnown (by omega) high).lower
    have few : (roundings exponent : ℚ) ≤ 309 := by
      have whole : roundings exponent ≤ 309 := by
        rw [roundings]
        split <;> omega
      exact mod_cast whole
    refine le_trans ?_ lower
    gcongr
    calc (roundings exponent : ℚ) * unit
        ≤ 309 * unit := by
          have positive := unit_pos
          gcongr
      _ ≤ 2 ^ (-44 : Int) := by
        rw [unit]
        norm_num
  · have read : Binary.ofFloat (powerOfTen (-308)) = .finite false 2024022533073105 (-1074) := by
      decide +kernel
    have whole : 17592186044415 * 2 ^ 1074 ≤ 2024022533073105 * 17592186044416 * 10 ^ 308 := by
      decide +kernel
    have cast : (17592186044415 : ℚ) * 2 ^ 1074 ≤
        2024022533073105 * 17592186044416 * 10 ^ 308 := by
      exact mod_cast whole
    rw [(positive_of_ofFloat read (by decide)).2, zpow_neg, zpow_neg, zpow_neg, zpow_ofNat,
      zpow_ofNat, zpow_ofNat]
    have tens : (0 : ℚ) < 10 ^ 308 := by positivity
    have twos : (0 : ℚ) < 2 ^ 1074 := by positivity
    generalize (10 : ℚ) ^ 308 = power at *
    generalize (2 : ℚ) ^ 1074 = parts at *
    rw [inv_mul_eq_div, Nat.cast_ofNat, ← div_eq_mul_inv, div_le_div_iff₀ tens twos]
    norm_num
    linarith

/-- From five halves of the least power on, numbers are normal. -/
theorem least_normal_le : (2 : ℚ) ^ (-1022 : Int) ≤
    5 / 2 * (10 ^ (-308 : Int) * (1 - 2 ^ (-44 : Int))) := by
  have whole : 2 * 17592186044416 * 10 ^ 308 ≤ 5 * 17592186044415 * 2 ^ 1022 := by
    decide +kernel
  have cast : (2 : ℚ) * 17592186044416 * 10 ^ 308 ≤ 5 * 17592186044415 * 2 ^ 1022 := by
    exact mod_cast whole
  rw [zpow_neg, zpow_neg, zpow_neg, zpow_ofNat, zpow_ofNat, zpow_ofNat]
  have tens : (0 : ℚ) < 10 ^ 308 := by positivity
  have twos : (0 : ℚ) < 2 ^ 1022 := by positivity
  generalize (10 : ℚ) ^ 308 = power at *
  generalize (2 : ℚ) ^ 1022 = parts at *
  have right : 5 / 2 * (power⁻¹ * (1 - ((2 : ℚ) ^ 44)⁻¹)) =
      5 * 17592186044415 / (2 * 17592186044416 * power) := by
    field_simp
    norm_num
  rw [right, inv_eq_one_div, div_le_div_iff₀ twos (by positivity)]
  linarith

/-! ## Scales from any exponent -/

/-- A scale that ends at `top` almost holds the values up to `max`: it can be divided by, and falls
short of the maximum by a small part at most. -/
structure AlmostHolds (top max : Float) : Prop where
  finite : isFinite top = true
  positive : 0.0 < top
  reaches : value max ≤ value top * (1 + 2 ^ (-39 : Int))

/-- All steps but the first two are at least five halves. -/
theorem step_cases {step : Float} (listed : step ∈ niceSteps) :
    step = 1.0 ∨ step = 2.0 ∨ 5 / 2 ≤ value step := by
  simp only [niceSteps, List.mem_cons, List.not_mem_nil, or_false] at listed
  rcases listed with rfl | rfl | rfl | rfl | rfl
  · exact .inl rfl
  · exact .inr (.inl rfl)
  · have read : Binary.ofFloat 2.5 = .finite false (5 * 2 ^ 50) (-51) := by decide +kernel
    rw [(positive_of_ofFloat read (by decide)).2]
    norm_num
  · have read : Binary.ofFloat 5.0 = .finite false (5 * 2 ^ 50) (-50) := by decide +kernel
    rw [(positive_of_ofFloat read (by decide)).2]
    norm_num
  · rw [positive_ten.2]
    norm_num

namespace Stepped

variable {max step : Float} {exponent : Int}

/-- The rounding of a product with a step takes half a unit away at most, for it is exact where
numbers are not normal. -/
theorem product_le (stepped : Stepped max exponent step) (positive : Positive max)
    (low : -308 ≤ exponent) (high : exponent ≤ 308) (bounded : max ≤ greatest) :
    value step * value (powerOfTen exponent) * (1 - unit) ≤ value (ceilingFrom exponent max) := by
  obtain ⟨-, rounds⟩ := stepped.rounds positive low high bounded
  have power := (scaleKnown low high).positive
  have above := power.above
  have shrinks : 1 - unit ≤ 1 := sub_le_self 1 unit_pos.le
  rcases step_cases stepped.listed with rfl | rfl | large
  · rw [positive_one.2, one_mul] at rounds ⊢
    rw [rounds.eq_of_representable power.representable]
    exact mul_le_of_le_one_right above.le shrinks
  · rw [value_two] at rounds ⊢
    rw [rounds.eq_of_representable power.representable.double]
    exact mul_le_of_le_one_right (by positivity) shrinks
  · refine (rounds.bounds ?_).1
    calc (2 : ℚ) ^ (-1022 : Int)
        ≤ 5 / 2 * (10 ^ (-308 : Int) * (1 - 2 ^ (-44 : Int))) := least_normal_le
      _ ≤ 5 / 2 * (10 ^ exponent * (1 - 2 ^ (-44 : Int))) := by
        gcongr
        norm_num
      _ ≤ 5 / 2 * value (powerOfTen exponent) := by
        gcongr
        exact power_lower low high
      _ ≤ value step * value (powerOfTen exponent) := by gcongr

/-- A maximum that is hardly above the next power is hardly above the step times the power. -/
theorem le_product (stepped : Stepped max exponent step) (positive : Positive max)
    (low : -308 ≤ exponent) (high : exponent ≤ 308)
    (near : value max ≤ 10 ^ (exponent + 1) * (1 + 2 ^ (-40 : Int))) :
    value max ≤
      value step * value (powerOfTen exponent) * (1 + 2 ^ (-40 : Int) + 2 ^ (-42 : Int)) := by
  have power := (scaleKnown low high).positive
  have above := power.above
  have steps := (stepKnown stepped.listed).positive.above
  rcases stepped.fits with fits | rfl
  · have small : 1 + unit ≤ 1 + 2 ^ (-40 : Int) + 2 ^ (-42 : Int) := by
      rw [unit]
      norm_num
    refine (stepped.le_of_fits positive power fits).trans ?_
    exact mul_le_mul_of_nonneg_left small (by positivity)
  · have lower := power_lower low high
    have tens : (0 : ℚ) < 10 ^ exponent := by positivity
    rw [positive_ten.2]
    calc value max
        ≤ 10 ^ exponent * 10 * (1 + 2 ^ (-40 : Int)) := by
          rwa [← zpow_add_one₀ (by norm_num)]
      _ ≤ 10 * (10 ^ exponent * (1 - 2 ^ (-44 : Int))) *
            (1 + 2 ^ (-40 : Int) + 2 ^ (-42 : Int)) := by
        rw [mul_comm _ (10 : ℚ), ← mul_assoc, mul_assoc (10 * 10 ^ exponent)]
        gcongr
        norm_num
      _ ≤ 10 * value (powerOfTen exponent) * (1 + 2 ^ (-40 : Int) + 2 ^ (-42 : Int)) := by
        gcongr

end Stepped

/-- **From the power below it, or next to it, a maximum is rounded to a scale that almost holds
it.** -/
theorem almostHolds_ceilingFrom {max : Float} {exponent : Int} (positive : Positive max)
    (low : -308 ≤ exponent) (high : exponent ≤ 308) (bounded : max ≤ greatest)
    (near : value max ≤ 10 ^ (exponent + 1) * (1 + 2 ^ (-40 : Int))) :
    AlmostHolds (ceilingFrom exponent max) max := by
  obtain ⟨step, stepped⟩ := stepped_ceilingFrom max exponent
  obtain ⟨known, -⟩ := stepped.rounds positive low high bounded
  obtain ⟨finite, some⟩ := positive_iff.mp known
  have product := stepped.product_le positive low high bounded
  have steps := (stepKnown stepped.listed).positive.above
  have above := (scaleKnown low high).positive.above
  refine ⟨finite, some, ?_⟩
  calc value max
      ≤ value step * value (powerOfTen exponent) * (1 + 2 ^ (-40 : Int) + 2 ^ (-42 : Int)) :=
        stepped.le_product positive low high near
    _ ≤ value step * value (powerOfTen exponent) * ((1 - unit) * (1 + 2 ^ (-39 : Int))) := by
      gcongr
      rw [unit]
      norm_num
    _ = value step * value (powerOfTen exponent) * (1 - unit) * (1 + 2 ^ (-39 : Int)) := by
      rw [mul_assoc _ (1 - unit)]
    _ ≤ value (ceilingFrom exponent max) * (1 + 2 ^ (-39 : Int)) := by gcongr

/-! ## Logarithms -/

/-- A logarithm is close to that of a number: it is off by four units in the last place at most
where logarithms are largest. -/
def CloseLogarithm (x : ℚ) (logarithm : ℝ) : Prop :=
  |logarithm - Real.logb 10 x| ≤ 2 ^ (-42 : Int)

theorem log_ten_bounds : 2 ≤ Real.log 10 ∧ Real.log 10 ≤ 3 := by
  have lower := Real.log_two_gt_d9
  have upper := Real.log_two_lt_d9
  constructor
  · calc (2 : ℝ) ≤ 3 * Real.log 2 := by linarith
      _ = Real.log (2 ^ 3) := by rw [Real.log_pow, Nat.cast_ofNat]
      _ ≤ Real.log 10 := Real.log_le_log (by norm_num) (by norm_num)
  · calc Real.log 10
        ≤ Real.log (2 ^ 4) := Real.log_le_log (by norm_num) (by norm_num)
      _ = 4 * Real.log 2 := by rw [Real.log_pow, Nat.cast_ofNat]
      _ ≤ 3 := by linarith

/-- What a logarithm is off by makes a small part of the number. -/
theorem ten_rpow_le : (10 : ℝ) ^ ((2 : ℝ) ^ (-42 : Int)) ≤ 1 + 2 ^ (-40 : Int) := by
  obtain ⟨lower, upper⟩ := log_ten_bounds
  have most : Real.log 10 * 2 ^ (-42 : Int) ≤ 3 * 2 ^ (-42 : Int) := by gcongr
  calc (10 : ℝ) ^ ((2 : ℝ) ^ (-42 : Int))
      = Real.exp (Real.log 10 * 2 ^ (-42 : Int)) := Real.rpow_def_of_pos (by norm_num) _
    _ ≤ Real.exp (3 * 2 ^ (-42 : Int)) := Real.exp_le_exp.mpr most
    _ ≤ 1 / (1 - 3 * 2 ^ (-42 : Int)) :=
      Real.exp_bound_div_one_sub_of_interval (by positivity) (by norm_num)
    _ ≤ 1 + 2 ^ (-40 : Int) := by norm_num

theorem ten_rpow_neg_le : (10 : ℝ) ^ (-(2 : ℝ) ^ (-42 : Int)) ≤ 1 - 3 * 2 ^ (-44 : Int) := by
  obtain ⟨lower, upper⟩ := log_ten_bounds
  have least : 2 * 2 ^ (-42 : Int) ≤ Real.log 10 * 2 ^ (-42 : Int) := by gcongr
  have grown : 1 + 2 * 2 ^ (-42 : Int) ≤ (10 : ℝ) ^ ((2 : ℝ) ^ (-42 : Int)) := by
    rw [Real.rpow_def_of_pos (by norm_num)]
    linarith [Real.add_one_le_exp (Real.log 10 * 2 ^ (-42 : Int))]
  rw [Real.rpow_neg (by norm_num)]
  calc ((10 : ℝ) ^ ((2 : ℝ) ^ (-42 : Int)))⁻¹
      ≤ (1 + 2 * 2 ^ (-42 : Int))⁻¹ := inv_anti₀ (by positivity) grown
    _ ≤ 1 - 3 * 2 ^ (-44 : Int) := by norm_num

/-- The floor of a logarithm that is close leads to a power that is not far above the number, and
the number is not far above the next power. -/
theorem bounds_of_close {x : ℚ} {logarithm : ℝ} (some : 0 < x)
    (close : CloseLogarithm x logarithm) :
    10 ^ ⌊logarithm⌋ ≤ x * (1 + 2 ^ (-40 : Int)) ∧
      x ≤ 10 ^ (⌊logarithm⌋ + 1) * (1 + 2 ^ (-40 : Int)) := by
  have above : (0 : ℝ) < x := mod_cast some
  have ten : (0 : ℝ) < 10 := by norm_num
  obtain ⟨lower, upper⟩ := abs_le.mp close
  have floor := Int.floor_le logarithm
  have next := Int.lt_floor_add_one logarithm
  have exactly : (10 : ℝ) ^ Real.logb 10 x = x := Real.rpow_logb ten (by norm_num) above
  constructor
  · have real : (10 : ℝ) ^ ⌊logarithm⌋ ≤ x * (1 + 2 ^ (-40 : Int)) := by
      calc (10 : ℝ) ^ ⌊logarithm⌋
          = (10 : ℝ) ^ (⌊logarithm⌋ : ℝ) := (Real.rpow_intCast 10 _).symm
        _ ≤ (10 : ℝ) ^ (Real.logb 10 x + 2 ^ (-42 : Int)) :=
          Real.rpow_le_rpow_of_exponent_le (by norm_num) (by linarith)
        _ = x * (10 : ℝ) ^ ((2 : ℝ) ^ (-42 : Int)) := by rw [Real.rpow_add ten, exactly]
        _ ≤ x * (1 + 2 ^ (-40 : Int)) := by
          gcongr
          exact ten_rpow_le
    rw [← Rat.cast_le (K := ℝ)]
    push_cast
    exact real
  · have real : (x : ℝ) ≤ 10 ^ (⌊logarithm⌋ + 1) * (1 + 2 ^ (-40 : Int)) := by
      calc (x : ℝ)
          = (10 : ℝ) ^ Real.logb 10 x := exactly.symm
        _ ≤ (10 : ℝ) ^ (((⌊logarithm⌋ + 1 : Int) : ℝ) + 2 ^ (-42 : Int)) := by
          refine Real.rpow_le_rpow_of_exponent_le (by norm_num) ?_
          push_cast
          linarith
        _ = 10 ^ (⌊logarithm⌋ + 1) * (10 : ℝ) ^ ((2 : ℝ) ^ (-42 : Int)) := by
          rw [Real.rpow_add ten, Real.rpow_intCast]
        _ ≤ 10 ^ (⌊logarithm⌋ + 1) * (1 + 2 ^ (-40 : Int)) := by
          gcongr
          exact ten_rpow_le
    rw [← Rat.cast_le (K := ℝ)]
    push_cast
    exact real

/-- The exponent that is chosen is the floor of a logarithm that is close. -/
theorem Scaled.exists_close {max : Float} {exponent : Int} (scaled : Scaled max exponent)
    (positive : Positive max) :
    ∃ logarithm, CloseLogarithm (value max) logarithm ∧ ⌊logarithm⌋ = exponent := by
  have above : (0 : ℝ) < value max := mod_cast positive.above
  have ten : (1 : ℝ) < 10 := by norm_num
  rcases le_or_gt (exponent : ℝ) (Real.logb 10 (value max)) with reached | short
  · refine ⟨Real.logb 10 (value max), by simp [CloseLogarithm], ?_⟩
    rw [Int.floor_eq_iff]
    refine ⟨reached, ?_⟩
    have missed := scaled.missed.trans_le (threshold_le (exponent + 1))
    rw [← Rat.cast_lt (K := ℝ)] at missed
    push_cast at missed
    rw [Real.logb_lt_iff_lt_rpow ten above]
    rwa [← Int.cast_one, ← Int.cast_add, Real.rpow_intCast]
  · -- The number counts as the power, although it is below it.
    refine ⟨exponent, ?_, Int.floor_intCast exponent⟩
    have low := scaled.low
    have high := scaled.high
    have few : slack exponent ≤ 3 * 2 ^ (-44 : Int) := slack_le (by omega)
    have reached : 10 ^ exponent * (1 - 3 * 2 ^ (-44 : Int)) ≤ value max := by
      refine le_trans ?_ scaled.reached
      rw [threshold]
      gcongr
    rw [← Rat.cast_le (K := ℝ)] at reached
    push_cast at reached
    have near : (exponent : ℝ) - 2 ^ (-42 : Int) ≤ Real.logb 10 (value max) := by
      rw [Real.le_logb_iff_rpow_le ten above, sub_eq_add_neg, Real.rpow_add (by norm_num),
        Real.rpow_intCast]
      refine le_trans ?_ reached
      gcongr
      exact ten_rpow_neg_le
    rw [CloseLogarithm, abs_of_pos (sub_pos.mpr short)]
    linarith

/-- The ceiling of a positive number comes from a logarithm that is close. -/
theorem niceCeiling_eq_ceilingFrom {max : Float} (positive : Positive max) :
    ∃ logarithm, CloseLogarithm (value max) logarithm ∧
      niceCeiling max = ceilingFrom ⌊logarithm⌋ max := by
  obtain ⟨exponent, scaled⟩ := scaled_of_positive positive
  obtain ⟨logarithm, close, rfl⟩ := scaled.exists_close positive
  exact ⟨logarithm, close, scaled.rounded⟩

/-- **Whatever logarithm the exponent comes from, the scale almost holds the maximum.**  The
logarithm may be off by four units in its last place; as long as the power of ten is not zero, the
scale is finite and above zero, and falls short of the maximum by a small part at most.  It holds
the maximum in full if that does not exceed ten times the power. -/
theorem ceiling_of_close_logarithm {max : Float} {logarithm : ℝ} (positive : Positive max)
    (bounded : max ≤ greatest) (close : CloseLogarithm (value max) logarithm)
    (low : -308 ≤ ⌊logarithm⌋) :
    AlmostHolds (ceilingFrom ⌊logarithm⌋ max) max ∧
      (value max ≤ 10 * value (powerOfTen ⌊logarithm⌋) →
        Holds (ceilingFrom ⌊logarithm⌋ max) max) := by
  obtain ⟨lower, upper⟩ := bounds_of_close positive.above close
  have high : ⌊logarithm⌋ ≤ 308 := by
    by_contra beyond
    have power : (10 : ℚ) ^ (309 : Int) ≤ 10 ^ ⌊logarithm⌋ := by
      gcongr
      · norm_num
      · omega
    have twice : value max * (1 + 2 ^ (-40 : Int)) ≤ limit * 2 := by
      have small : (1 : ℚ) + 2 ^ (-40 : Int) ≤ 2 := by norm_num
      exact mul_le_mul positive.below.le small (by positivity) limit_pos.le
    exact absurd twice_limit_lt (not_lt.mpr (power.trans (lower.trans twice)))
  exact ⟨almostHolds_ceilingFrom positive low high bounded upper,
    fun within => holds_ceilingFrom positive ⟨low, high, within⟩ bounded⟩

/-- Next to a power of ten, either exponent may be found, and leads to a scale that reaches the
maximum. -/
example : ∀ exponent ∈ [-15, -14],
    9.99999999999998e-15 ≤ ceilingFrom exponent 9.99999999999998e-15 := by
  decide +kernel

end LoadSweep.Number
