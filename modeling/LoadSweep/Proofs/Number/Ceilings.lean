import LoadSweep.Proofs.Number.Decades

/-!
# Rounded maxima

A maximum is divided by a power of ten, and the first step that the quotient does not exceed is
multiplied by the power.  Both operations are rounded.  The quotient may be rounded down to the
step, so the maximum may exceed the exact product by half a unit in the last place
(`Stepped.le_half_unit`); then no representable number lies between the rounded product and the
maximum (`Stepped.justBelow`).  The products by 1 and 2 are exact, and ten times the power is not
below the maximum if the power is that of a suitable exponent (`Stepped.le_mul`).  So the scale
holds the maximum whenever the exponent is suitable (`holds_ceilingFrom`).

The exponent that is chosen is suitable between two numbers (`holds_niceCeiling`).  Below the least
of them the power of ten is zero (`niceCeiling_eq_zero`), and beyond the greatest the product is
infinite (`niceCeiling_infinite`).
-/

namespace LoadSweep.Number

set_option autoImplicit false

/-- There is no number between these two. -/
def JustBelow (x y : Float) : Prop :=
  x < y ∧ ∀ z, x < z → y ≤ z

/-! ## Steps -/

/-- A step within a decade, with the representable magnitude after it. -/
structure StepKnown (step : Float) : Prop where
  positive : Positive step
  one_le : 1 ≤ value step
  le_ten : value step ≤ 10
  one_or_two : step = 1.0 ∨ 2 ≤ value step
  next : ∃ next, Representable next ∧ value step < next ∧ next ≤ value step * (1 + 2 * unit)

theorem stepKnown_of_ofFloat (step : Float) (mantissa : Nat) (exponent : Int)
    (read : Binary.ofFloat step = .finite false mantissa exponent ∧ 2 ^ 52 ≤ mantissa ∧
      mantissa + 1 < 2 ^ 53 ∧ -1074 ≤ exponent)
    (range : 1 ≤ (mantissa : ℚ) * 2 ^ exponent ∧ (mantissa : ℚ) * 2 ^ exponent ≤ 10)
    (one_or_two : step = 1.0 ∨ 2 ≤ (mantissa : ℚ) * 2 ^ exponent) : StepKnown step := by
  obtain ⟨read, full, room, low⟩ := read
  obtain ⟨positive, shown⟩ := positive_of_ofFloat read (by omega)
  rw [← shown] at range one_or_two
  refine ⟨positive, range.1, range.2, one_or_two, (mantissa + 1 : Nat) * 2 ^ exponent,
    ⟨mantissa + 1, exponent, room, low, rfl⟩, ?_, ?_⟩ <;> rw [shown]
  · gcongr
    omega
  · have cast : (2 : ℚ) ^ 52 ≤ mantissa := mod_cast full
    have part : 1 ≤ (mantissa : ℚ) * (2 * unit) := by
      have whole : (2 : ℚ) ^ 52 * (2 * unit) = 1 := by
        rw [unit]
        norm_num
      rw [← whole]
      have positive := unit_pos
      gcongr
    calc ((mantissa + 1 : Nat) : ℚ) * 2 ^ exponent
        = (mantissa + 1) * 2 ^ exponent := by rw [Nat.cast_succ]
      _ ≤ (mantissa + mantissa * (2 * unit)) * 2 ^ exponent := by gcongr
      _ = mantissa * 2 ^ exponent * (1 + 2 * unit) := by ring

theorem stepKnown {step : Float} (listed : step ∈ niceSteps) : StepKnown step := by
  simp only [niceSteps, List.mem_cons, List.not_mem_nil, or_false] at listed
  rcases listed with rfl | rfl | rfl | rfl | rfl
  · exact stepKnown_of_ofFloat 1.0 (2 ^ 52) (-52) (by decide +kernel) (by norm_num) (.inl rfl)
  · exact stepKnown_of_ofFloat 2.0 (2 ^ 52) (-51) (by decide +kernel) (by norm_num)
      (.inr (by norm_num))
  · exact stepKnown_of_ofFloat 2.5 (5 * 2 ^ 50) (-51) (by decide +kernel) (by norm_num)
      (.inr (by norm_num))
  · exact stepKnown_of_ofFloat 5.0 (5 * 2 ^ 50) (-50) (by decide +kernel) (by norm_num)
      (.inr (by norm_num))
  · exact stepKnown_of_ofFloat 10.0 (5 * 2 ^ 50) (-49) (by decide +kernel) (by norm_num)
      (.inr (by norm_num))

theorem value_two : value 2.0 = 2 := by
  have read : Binary.ofFloat 2.0 = .finite false (2 ^ 52) (-51) := by decide +kernel
  exact (positive_of_ofFloat read (by decide)).2.trans (by norm_num)

section Magnitudes

variable {x y r step top : ℚ}

/-- A quotient that is not rounded beyond a step exceeds it by half a unit at most. -/
theorem le_of_rounds_le {next : ℚ} (rounds : Rounds x r) (small : r ≤ step)
    (representable : Representable next) (above : step < next)
    (close : next ≤ step * (1 + 2 * unit)) : x ≤ step * (1 + unit) := by
  by_contra beyond
  have far : step + next < 2 * x := by linarith
  have nearer := rounds.nearest next representable
  rw [abs_of_nonpos (by linarith)] at nearer
  rcases abs_cases (next - x) with ⟨same, -⟩ | ⟨same, -⟩ <;> rw [same] at nearer <;> linarith

/-- What exceeds a representable magnitude by half a unit at most does not exceed it. -/
theorem le_of_le_half_unit (exact : Representable y) (representable : Representable x)
    (near : x ≤ y * (1 + unit)) : x ≤ y := by
  by_contra beyond
  have apart := exact.gap representable (not_le.mp beyond)
  exact absurd near (not_le.mpr apart)

/-- What exceeds a magnitude by half a unit at most is not beyond the next one after its
rounding. -/
theorem le_of_rounded_lt (rounds : Rounds y top) (representable : Representable x)
    (near : x ≤ y * (1 + unit)) {z : ℚ} (other : Representable z) (above : top < z) : x ≤ z := by
  have beyond : y < z := by
    by_contra within
    exact absurd (rounds.ge_of_ge other (not_lt.mp within)) (not_le.mpr above)
  by_contra less
  have apart := other.gap representable (not_le.mp less)
  have grows : 0 < 1 + unit := add_pos one_pos unit_pos
  have wide : y * (1 + unit) < z * (1 + unit) := by gcongr
  exact absurd (near.trans_lt wide) (not_lt.mpr apart.le)

end Magnitudes

/-! ## The choice of a step -/

/-- The greatest number that is rounded to a finite one. -/
def greatest : Float := powerOfTen 308

/-- How a maximum is rounded up from the power of ten with an exponent. -/
structure Stepped (max : Float) (exponent : Int) (step : Float) : Prop where
  listed : step ∈ niceSteps
  fits : max / powerOfTen exponent ≤ step ∨ step = 10.0
  first : max / powerOfTen exponent ≤ 1.0 → step = 1.0
  rounded : ceilingFrom exponent max = step * powerOfTen exponent

theorem find_step (fits : Float → Bool) :
    let step := (niceSteps.find? fits).getD 10.0
    step ∈ niceSteps ∧ (fits step = true ∨ step = 10.0) ∧ (fits 1.0 = true → step = 1.0) := by
  cases found : niceSteps.find? fits with
  | none =>
    refine ⟨by simp [niceSteps], .inr rfl, fun first => ?_⟩
    simp [niceSteps, first] at found
  | some step =>
    refine ⟨List.mem_of_find?_eq_some found, .inl (List.find?_some found), fun first => ?_⟩
    simp [niceSteps, first] at found
    exact found.symm

theorem stepped_ceilingFrom (max : Float) (exponent : Int) : ∃ step, Stepped max exponent step := by
  obtain ⟨listed, chosen, first⟩ :=
    find_step fun step => decide (max / powerOfTen exponent ≤ step)
  refine ⟨_, listed, chosen.imp_left of_decide_eq_true, fun small => ?_, rfl⟩
  exact first (decide_eq_true small)

/-- An exponent is suitable for a maximum if its power of ten is positive, and the maximum does not
exceed ten times this power. -/
structure Suitable (max : Float) (exponent : Int) : Prop where
  low : -308 ≤ exponent
  high : exponent ≤ 308
  within : value max ≤ 10 * value (powerOfTen exponent)

namespace Stepped

variable {max step : Float} {exponent : Int}

/-- A maximum whose quotient does not exceed the step is at most the step times the power, up to
half a unit. -/
theorem le_of_fits (stepped : Stepped max exponent step) (positive : Positive max)
    (power : Positive (powerOfTen exponent)) (fits : max / powerOfTen exponent ≤ step) :
    value max ≤ value step * value (powerOfTen exponent) * (1 + unit) := by
  obtain ⟨number, r, rounds, shown⟩ := positive.div power
  have steps := stepKnown stepped.listed
  rw [le_iff_value number steps.positive.number, shown] at fits
  have small : r ≤ value step :=
    (min_le_iff.mp fits).resolve_right (not_le.mpr steps.positive.below)
  obtain ⟨next, representable, beyond, close⟩ := steps.next
  have quotient := le_of_rounds_le rounds small representable beyond close
  rw [div_le_iff₀ power.above] at quotient
  linarith

/-- A maximum is at most its step times the power, up to half a unit. -/
theorem le_half_unit (stepped : Stepped max exponent step) (positive : Positive max)
    (suitable : Suitable max exponent) :
    value max ≤ value step * value (powerOfTen exponent) * (1 + unit) := by
  have known := scaleKnown suitable.low suitable.high
  have above := known.positive.above
  rcases stepped.fits with fits | rfl
  · exact stepped.le_of_fits positive known.positive fits
  · have wide := suitable.within
    rw [positive_ten.2]
    nlinarith [unit_pos]

/-- A step that keeps the power representable is not exceeded at all. -/
theorem le_mul (stepped : Stepped max exponent step) (positive : Positive max)
    (suitable : Suitable max exponent) (exact : step = 1.0 ∨ step = 2.0 ∨ step = 10.0) :
    value max ≤ value step * value (powerOfTen exponent) := by
  have near := stepped.le_half_unit positive suitable
  have representable := (scaleKnown suitable.low suitable.high).positive.representable
  rcases exact with rfl | rfl | rfl
  · rw [positive_one.2, one_mul] at near ⊢
    exact le_of_le_half_unit representable positive.representable near
  · rw [value_two] at near ⊢
    exact le_of_le_half_unit representable.double positive.representable near
  · rw [positive_ten.2]
    exact suitable.within

/-- A maximum that does not exceed its power is rounded to the power. -/
theorem step_eq_one (stepped : Stepped max exponent step) (positive : Positive max)
    (power : Positive (powerOfTen exponent)) (bounded : max ≤ powerOfTen exponent) :
    step = 1.0 := by
  rw [le_iff_value positive.number power.number] at bounded
  obtain ⟨number, r, rounds, shown⟩ := positive.div power
  have small := rounds.le_of_le representable_one ((div_le_one power.above).mpr bounded)
  refine stepped.first ((le_iff_value number positive_one.1.number).mpr ?_)
  rw [shown, positive_one.2]
  exact min_le_of_left_le small

/-- A maximum up to the largest power is rounded to a finite number, from whatever power. -/
theorem rounds (stepped : Stepped max exponent step) (positive : Positive max)
    (low : -308 ≤ exponent) (high : exponent ≤ 308) (bounded : max ≤ greatest) :
    Positive (ceilingFrom exponent max) ∧
      Rounds (value step * value (powerOfTen exponent)) (value (ceilingFrom exponent max)) := by
  have known := scaleKnown low high
  have steps := stepKnown stepped.listed
  have above := known.positive.above
  obtain ⟨number, r, rounds, shown⟩ := steps.positive.mul known.positive
  have grown : value (powerOfTen exponent) ≤ r :=
    rounds.ge_of_ge known.positive.representable (le_mul_of_one_le_left above.le steps.one_le)
  have below : r < limit := by
    rcases high.lt_or_eq with less | rfl
    · have most : value step * value (powerOfTen exponent) ≤ 10 * value (powerOfTen exponent) :=
        mul_le_mul_of_nonneg_right steps.le_ten above.le
      by_cases normal : 2 ^ (-1022 : Int) ≤ value step * value (powerOfTen exponent)
      · have grows : 0 < 1 + unit := add_pos one_pos unit_pos
        calc r ≤ value step * value (powerOfTen exponent) * (1 + unit) := (rounds.bounds normal).2
          _ ≤ 10 * value (powerOfTen exponent) * (1 + unit) :=
            mul_le_mul_of_nonneg_right most grows.le
          _ < limit := known.room (by omega)
      · have small := (not_le.mp normal).le.trans least_normal_le_one
        exact (rounds.le_of_le representable_one small).trans_lt one_lt_limit
    · obtain rfl := stepped.step_eq_one positive known.positive bounded
      rw [positive_one.2, one_mul] at rounds
      rw [rounds.eq_of_representable known.positive.representable]
      exact known.positive.below
  rw [← stepped.rounded] at number shown
  obtain ⟨known, same⟩ := positive_of_min number shown (above.trans_le grown) below
  rw [same]
  exact ⟨known, rounds⟩

/-- What lies above a rounded maximum lies above the maximum. -/
theorem justBelow (stepped : Stepped max exponent step) (positive : Positive max)
    (suitable : Suitable max exponent) (bounded : max ≤ greatest)
    (short : ¬ max ≤ ceilingFrom exponent max) : JustBelow (ceilingFrom exponent max) max := by
  obtain ⟨known, rounds⟩ := stepped.rounds positive suitable.low suitable.high bounded
  rw [le_iff_value positive.number known.number, not_le] at short
  refine ⟨(lt_iff_value known.number positive.number).mpr short, fun z above => ?_⟩
  have number := (numbers_of_lt above).2
  rw [lt_iff_value known.number number] at above
  rw [le_iff_value positive.number number]
  rcases lt_or_ge (value z) limit with finite | infinite
  · have other : Positive z := ⟨number, known.above.trans above, finite⟩
    exact le_of_rounded_lt rounds positive.representable (stepped.le_half_unit positive suitable)
      other.representable above
  · exact positive.below.le.trans infinite

end Stepped

/-- A scale that ends at `top` holds the values up to `max`: it can be divided by, and reaches the
maximum or the number before it. -/
structure Holds (top max : Float) : Prop where
  finite : isFinite top = true
  positive : 0.0 < top
  /-- The scale falls short only where the maximum is rounded to 2.5 or 5 times a power of ten. -/
  reaches : max ≤ top ∨ JustBelow top max ∧
    ∃ exponent, top = 2.5 * powerOfTen exponent ∨ top = 5.0 * powerOfTen exponent

/-- **From a suitable power of ten a maximum is rounded to a scale that holds it.** -/
theorem holds_ceilingFrom {max : Float} {exponent : Int} (positive : Positive max)
    (suitable : Suitable max exponent) (bounded : max ≤ greatest) :
    Holds (ceilingFrom exponent max) max := by
  obtain ⟨step, stepped⟩ := stepped_ceilingFrom max exponent
  obtain ⟨known, rounds⟩ := stepped.rounds positive suitable.low suitable.high bounded
  obtain ⟨finite, some⟩ := positive_iff.mp known
  refine ⟨finite, some, ?_⟩
  by_cases exact : step = 1.0 ∨ step = 2.0 ∨ step = 10.0
  · left
    rw [le_iff_value positive.number known.number]
    exact rounds.ge_of_ge positive.representable (stepped.le_mul positive suitable exact)
  · refine or_iff_not_imp_left.mpr fun short => ?_
    refine ⟨stepped.justBelow positive suitable bounded short, exponent, ?_⟩
    have listed := stepped.listed
    simp only [niceSteps, List.mem_cons, List.not_mem_nil, or_false] at listed
    rw [stepped.rounded]
    rcases listed with rfl | rfl | rfl | rfl | rfl
    · exact absurd (.inl rfl) exact
    · exact absurd (.inr (.inl rfl)) exact
    · exact .inl rfl
    · exact .inr rfl
    · exact absurd (.inr (.inr rfl)) exact

/-! ## The choice of an exponent -/

/-- The exponent that is chosen for a maximum. -/
structure Scaled (max : Float) (exponent : Int) : Prop where
  low : -324 ≤ exponent
  high : exponent ≤ 308
  reached : threshold exponent ≤ value max
  missed : value max < threshold (exponent + 1)
  rounded : niceCeiling max = ceilingFrom exponent max

theorem scaled_of_positive {max : Float} (positive : Positive max) :
    ∃ exponent, Scaled max exponent := by
  obtain ⟨mantissa, place, some, read, shown⟩ := positive.ofFloat
  have least := positive.representable.least_le positive.above
  have below := positive.below
  rw [shown] at least below
  obtain ⟨⟨low, high⟩, reached, missed⟩ := floorLog10_bounds least below
  rw [← shown] at reached missed
  refine ⟨_, low, high, reached, missed, ?_⟩
  rw [niceCeiling, read]
  exact if_neg (by simpa using Nat.ne_of_gt some)

/-- The exponent that is chosen is suitable, unless its power of ten is zero. -/
theorem Scaled.suitable {max : Float} {exponent : Int} (scaled : Scaled max exponent)
    (low : -308 ≤ exponent) : Suitable max exponent :=
  ⟨low, scaled.high, scaled.missed.le.trans (scaleKnown low scaled.high).reaches⟩

/-! ## Rounding a maximum -/

/-- The least number whose power of ten is not zero. -/
def least : Float := 9.999999999999347e-309

theorem positive_least : Positive least ∧ value least = 2024022533072974 * 2 ^ (-1074 : Int) := by
  have read : Binary.ofFloat least = .finite false 2024022533072974 (-1074) := by decide +kernel
  exact positive_of_ofFloat read (by decide)

theorem positive_greatest :
    Positive greatest ∧ value greatest = 5010420900022435 * 2 ^ (971 : Int) := by
  have read : Binary.ofFloat greatest = .finite false 5010420900022435 971 := by decide +kernel
  exact positive_of_ofFloat read (by decide)

/-- The least number reaches its threshold, and no smaller one does. -/
theorem least_le_iff {max : Float} (positive : Positive max) :
    least ≤ max ↔ threshold (-308) ≤ value max := by
  have reached : logarithmReaches (-308) 2024022533072974 (-1074) = true := by decide +kernel
  have missed : ¬ logarithmReaches (-308) 2024022533072973 (-1074) = true := by decide +kernel
  rw [logarithmReaches_iff (by decide)] at reached missed
  rw [le_iff_value positive_least.1.number positive.number, positive_least.2]
  constructor
  · exact reached.trans
  · intro above
    obtain ⟨n, shown⟩ := positive.representable.multiple
    rw [shown] at above ⊢
    have more := (not_le.mp missed).trans_le above
    have scale : (0 : ℚ) < 2 ^ (-1074 : Int) := by positivity
    have whole : 2024022533072973 < n := Nat.cast_lt.mp (lt_of_mul_lt_mul_right more scale.le)
    have cast : (2024022533072974 : ℚ) ≤ n := mod_cast whole
    gcongr

/-- The greatest number counts as its power of ten. -/
theorem threshold_le_greatest : threshold 308 ≤ value greatest := by
  have reached : logarithmReaches 308 5010420900022435 971 = true := by decide +kernel
  rw [logarithmReaches_iff (by decide)] at reached
  rw [positive_greatest.2]
  exact reached

section Ranges

variable {max : Float}

/-- A number below the least is divided by zero, and zero is rounded up to zero. -/
theorem niceCeiling_eq_zero (positive : Positive max) (below : max < least) :
    niceCeiling max = 0.0 := by
  obtain ⟨exponent, scaled⟩ := scaled_of_positive positive
  have missed : value max < threshold (-308) := by
    rw [lt_iff_value positive.number positive_least.1.number, ← not_le,
      ← le_iff_value positive_least.1.number positive.number, least_le_iff positive] at below
    exact not_le.mp below
  have low := scaled.low
  have high := scaled.high
  have small : exponent ≤ -309 := by
    by_contra large
    have mono : threshold (-308) ≤ threshold exponent := threshold_mono (by omega) (by omega)
    exact absurd (mono.trans scaled.reached) (not_le.mpr missed)
  obtain ⟨step, stepped⟩ := stepped_ceilingFrom max exponent
  rw [scaled.rounded, stepped.rounded, powerOfTen_eq_zero low small]
  have listed := stepped.listed
  simp only [niceSteps, List.mem_cons, List.not_mem_nil, or_false] at listed
  rcases listed with rfl | rfl | rfl | rfl | rfl <;> decide +kernel

theorem low_of_least_le {exponent : Int} (scaled : Scaled max exponent)
    (positive : Positive max) (above : least ≤ max) : -308 ≤ exponent := by
  have low := scaled.low
  rw [least_le_iff positive] at above
  by_contra small
  have mono : threshold (exponent + 1) ≤ threshold (-308) := threshold_mono (by omega) (by decide)
  exact absurd (above.trans_lt scaled.missed) (not_lt.mpr mono)

/-- A number beyond the greatest is rounded to twice the largest power at least. -/
theorem niceCeiling_infinite (positive : Positive max) (beyond : greatest < max) :
    Binary.ofFloat (niceCeiling max) = .infinite false := by
  obtain ⟨exponent, scaled⟩ := scaled_of_positive positive
  rw [lt_iff_value positive_greatest.1.number positive.number] at beyond
  have low := scaled.low
  have high := scaled.high
  obtain rfl : exponent = 308 := by
    by_contra other
    have mono : threshold (exponent + 1) ≤ threshold 308 := threshold_mono (by omega) (by decide)
    have less := (threshold_le_greatest.trans_lt beyond).trans scaled.missed
    exact absurd less (not_lt.mpr mono)
  obtain ⟨step, stepped⟩ := stepped_ceilingFrom max 308
  have steps := stepKnown stepped.listed
  have twice : 2 ≤ value step := by
    refine steps.one_or_two.resolve_left ?_
    rintro rfl
    have most := stepped.le_mul positive (scaled.suitable (by decide)) (.inl rfl)
    rw [positive_one.2, one_mul] at most
    exact absurd beyond (not_lt.mpr most)
  obtain ⟨number, r, rounds, shown⟩ := steps.positive.mul positive_greatest.1
  have reached : limit ≤ r := by
    have representable : Representable limit :=
      ⟨1, 1024, by decide, by decide, by rw [limit, Nat.cast_one, one_mul, zpow_ofNat]⟩
    refine rounds.ge_of_ge representable ?_
    calc limit = 2 ^ 53 * 2 ^ (971 : Int) := by rw [limit, zpow_ofNat, ← pow_add]
      _ ≤ 2 * value greatest := by
        rw [positive_greatest.2, ← mul_assoc]
        gcongr
        norm_num
      _ ≤ value step * value greatest :=
        mul_le_mul_of_nonneg_right twice positive_greatest.1.above.le
  rw [scaled.rounded, stepped.rounded]
  exact ofFloat_of_limit number (shown.trans (min_eq_right reached))

/-- A number between the least and the greatest is rounded to a scale that holds it. -/
theorem holds_niceCeiling (positive : Positive max) (above : least ≤ max) (below : max ≤ greatest) :
    Holds (niceCeiling max) max := by
  obtain ⟨exponent, scaled⟩ := scaled_of_positive positive
  have low := low_of_least_le scaled positive above
  rw [scaled.rounded]
  exact holds_ceilingFrom positive (scaled.suitable low) below

end Ranges

end LoadSweep.Number
