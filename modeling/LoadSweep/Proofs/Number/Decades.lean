import LoadSweep.Proofs.Number.Powers

/-!
# The power of ten below a number

The exponent of the power that a scale starts from is the floor of a rounded logarithm.  A number
slightly below a power of ten counts as the power: the least number that does is its threshold
(`threshold`), and the test on natural numbers compares with it (`logarithmReaches_iff`).  So the
exponent is the one whose threshold is the last that the number reaches (`floorLog10_bounds`).

The powers themselves are computed with roundings and may be too small.  But what the logarithm
takes for the next power grows with the exponent faster than the roundings do
(`roundings_le_slack`); a number that does not reach the next threshold is at most ten times the
power that was computed (`scaleKnown`).  The few exponents where this is not so, and the one whose
power is subnormal, are decided by the program's own test.
-/

namespace LoadSweep.Number

set_option autoImplicit false

/-! ## The decimal order -/

theorem scaledQuotient_eq (base n : Nat) (exponent : Int) (some : 0 < base) :
    0 < (scaledQuotient base n exponent).2 ∧
      ((scaledQuotient base n exponent).1 : ℚ) / (scaledQuotient base n exponent).2 =
        n * (base : ℚ) ^ exponent := by
  have cast : (base : ℚ) ≠ 0 := mod_cast Nat.ne_of_gt some
  cases exponent with
  | ofNat up =>
    refine ⟨one_pos, ?_⟩
    simp [scaledQuotient]
  | negSucc down =>
    refine ⟨Nat.pow_pos some, ?_⟩
    simp [scaledQuotient, zpow_negSucc, div_eq_mul_inv]

/-- A natural number lies between the powers of ten that its digits tell. -/
theorem digits_bounds {n : Nat} (some : 0 < n) :
    10 ^ ((Nat.toDigits 10 n).length - 1) ≤ n ∧ n < 10 ^ (Nat.toDigits 10 n).length := by
  have length : 0 < (Nat.toDigits 10 n).length := List.length_pos_iff.mpr Nat.toDigits_ne_nil
  constructor
  · by_contra less
    rcases Nat.eq_zero_or_pos ((Nat.toDigits 10 n).length - 1) with one | more
    · rw [one] at less
      omega
    · have shorter := (Nat.length_toDigits_le_iff (by decide) more).mpr (Nat.lt_of_not_le less)
      omega
  · exact (Nat.length_toDigits_le_iff (by decide) length).mp le_rfl

/-- A quotient lies between the same powers as its whole part. -/
theorem digits_quotient_bounds {numerator denominator : Nat} (divisor : 0 < denominator)
    (whole : denominator ≤ numerator) :
    ∃ count, (Nat.toDigits 10 (numerator / denominator)).length = count + 1 ∧
      (10 : ℚ) ^ count ≤ numerator / denominator ∧
      (numerator : ℚ) / denominator < 10 ^ (count + 1) := by
  have cast : (0 : ℚ) < denominator := mod_cast divisor
  obtain ⟨lower, upper⟩ := digits_bounds (Nat.div_pos whole divisor)
  have length : 0 < (Nat.toDigits 10 (numerator / denominator)).length :=
    List.length_pos_iff.mpr Nat.toDigits_ne_nil
  obtain ⟨count, same⟩ : ∃ count, (Nat.toDigits 10 (numerator / denominator)).length = count + 1 :=
    ⟨_, (Nat.succ_pred_eq_of_pos length).symm⟩
  rw [same] at lower upper
  refine ⟨count, same, ?_, ?_⟩
  · have least : 10 ^ count * denominator ≤ numerator := (Nat.le_div_iff_mul_le divisor).mp lower
    rw [le_div_iff₀ cast]
    exact mod_cast least
  · have most := (Nat.div_lt_iff_lt_mul divisor).mp upper
    rw [div_lt_iff₀ cast]
    exact mod_cast most

/-- The decimal order is the exponent of the greatest power of ten that a number reaches. -/
theorem decimalOrder_bounds {mantissa : Nat} {exponent : Int}
    (reached : 1 ≤ (mantissa : ℚ) * 2 ^ exponent * 10 ^ 324) :
    (10 : ℚ) ^ decimalOrder mantissa exponent ≤ mantissa * 2 ^ exponent ∧
      (mantissa : ℚ) * 2 ^ exponent < 10 ^ (decimalOrder mantissa exponent + 1) := by
  -- The shift is generalized, for it is too large to be computed with.
  obtain ⟨places, known⟩ : ∃ places, places = 324 := ⟨_, rfl⟩
  rw [decimalOrder]
  rw [← known] at reached ⊢
  obtain ⟨divisor, quotient⟩ :=
    scaledQuotient_eq 2 (mantissa * Nat.pow 10 places) exponent (by decide)
  generalize scaledQuotient 2 (mantissa * Nat.pow 10 places) exponent = parts at divisor quotient ⊢
  obtain ⟨numerator, denominator⟩ := parts
  dsimp only at divisor quotient ⊢
  have scaled : (numerator : ℚ) / denominator = mantissa * 2 ^ exponent * 10 ^ places := by
    rw [quotient, Nat.pow_eq]
    push_cast
    ring
  have cast : (0 : ℚ) < denominator := mod_cast divisor
  rw [← scaled, one_le_div cast] at reached
  obtain ⟨count, length, lower, upper⟩ := digits_quotient_bounds divisor (mod_cast reached)
  rw [scaled] at lower upper
  have below : ((count + 1 : Nat) : Int) - 325 = count - places := by omega
  have above : ((count + 1 : Nat) : Int) - 325 + 1 = (count + 1 : Nat) - places := by omega
  have ten : (10 : ℚ) ≠ 0 := by norm_num
  have shift : (0 : ℚ) < 10 ^ places := by positivity
  rw [length, above, below, zpow_sub₀ ten, zpow_sub₀ ten, zpow_natCast, zpow_natCast, zpow_natCast,
    div_le_iff₀ shift, lt_div_iff₀ shift]
  exact ⟨lower, upper⟩

/-! ## Where the logarithm rounds up -/

/-- The natural logarithm of ten, to eighteen places. -/
def logOfTen : ℚ := naturalLogOfTen / 10 ^ 18

/-- Half the gap below the logarithm of a power of ten, as a part of the power. -/
def slack (exponent : Int) : ℚ :=
  if exponent = 0 then 0 else logOfTen * 2 ^ halfGapBelow exponent

/-- The least magnitude that counts as a power of ten. -/
def threshold (exponent : Int) : ℚ :=
  10 ^ exponent * (1 - slack exponent)

/-- A power is one of a natural number over another. -/
theorem zpow_eq_div {base : ℚ} (some : base ≠ 0) (exponent : Int) :
    base ^ exponent = base ^ exponent.toNat / base ^ (-exponent).toNat := by
  rw [← zpow_natCast, ← zpow_natCast, ← zpow_sub₀ some, Int.toNat_sub_toNat_neg]

/-- The test on natural numbers compares a magnitude with a threshold. -/
theorem logarithmReaches_iff {target : Int} (some : target ≠ 0) (mantissa : Nat) (exponent : Int) :
    logarithmReaches target mantissa exponent = true ↔
      threshold target ≤ mantissa * 2 ^ exponent := by
  have two : (2 : ℚ) ≠ 0 := by norm_num
  have ten : (10 : ℚ) ≠ 0 := by norm_num
  rw [logarithmReaches, if_neg (by simpa using some), decide_eq_true_iff, threshold, slack,
    if_neg some, logOfTen, zpow_eq_div two exponent, zpow_eq_div ten target,
    zpow_eq_div two (halfGapBelow target)]
  simp only [Nat.pow_eq]
  rw [mul_assoc, Nat.sub_mul, Nat.sub_le_iff_le_add, ← Nat.cast_le (α := ℚ)]
  push_cast
  -- The common denominator of both sides is positive.
  have places : (10 : ℚ) ^ 18 = 1000000000000000000 := by norm_num
  have scale : (0 : ℚ) < 1000000000000000000 := by norm_num
  have above : (0 : ℚ) < 10 ^ (-target).toNat := by positivity
  have below : (0 : ℚ) < 2 ^ (-exponent).toNat := by positivity
  have narrow : (0 : ℚ) < 2 ^ (-halfGapBelow target).toNat := by positivity
  rw [places]
  generalize (1000000000000000000 : ℚ) = s at *
  generalize (10 : ℚ) ^ target.toNat = a at *
  generalize (10 : ℚ) ^ (-target).toNat = b at *
  generalize (2 : ℚ) ^ exponent.toNat = c at *
  generalize (2 : ℚ) ^ (-exponent).toNat = d at *
  generalize (2 : ℚ) ^ (halfGapBelow target).toNat = p at *
  generalize (2 : ℚ) ^ (-halfGapBelow target).toNat = q at *
  have left : a / b * (1 - naturalLogOfTen / s * (p / q)) =
      (a * d * (s * q) - naturalLogOfTen * (a * d) * p) / (b * d * (s * q)) := by
    field_simp
  have right : (mantissa : ℚ) * (c / d) = mantissa * c * b * (s * q) / (b * d * (s * q)) := by
    field_simp
  rw [left, right, div_le_div_iff_of_pos_right (by positivity), sub_le_iff_le_add']

/-! ## Thresholds -/

theorem logOfTen_bounds : 2302585 / 1000000 ≤ logOfTen ∧ logOfTen ≤ 3 := by
  constructor <;> norm_num [logOfTen, naturalLogOfTen]

theorem slack_nonneg (exponent : Int) : 0 ≤ slack exponent := by
  rw [slack]
  split
  · exact le_rfl
  · have positive := logOfTen_bounds.1
    positivity

theorem slack_le {exponent : Int} (small : exponent.natAbs < 2 ^ 10) :
    slack exponent ≤ 3 * 2 ^ (-44 : Int) := by
  rw [slack]
  split
  · positivity
  · rename_i some
    have size : exponent.natAbs.log2 < 10 := (Nat.log2_lt (by omega)).mpr small
    have narrow : halfGapBelow exponent ≤ -44 := by
      simp only [halfGapBelow]
      split <;> omega
    have most := logOfTen_bounds.2
    gcongr
    norm_num

theorem slack_le_half {exponent : Int} (small : exponent.natAbs < 2 ^ 10) :
    slack exponent ≤ 1 / 2 :=
  (slack_le small).trans (by norm_num)

theorem threshold_le (exponent : Int) : threshold exponent ≤ 10 ^ exponent :=
  mul_le_of_le_one_right (by positivity) (sub_le_self 1 (slack_nonneg exponent))

theorem half_le_threshold {exponent : Int} (small : exponent.natAbs < 2 ^ 10) :
    10 ^ exponent * (1 / 2) ≤ threshold exponent := by
  have half := slack_le_half small
  rw [threshold]
  gcongr
  linarith

theorem lt_threshold_succ {exponent : Int} (small : (exponent + 1).natAbs < 2 ^ 10) :
    10 ^ exponent < threshold (exponent + 1) := by
  refine lt_of_lt_of_le ?_ (half_le_threshold small)
  have positive : (0 : ℚ) < 10 ^ exponent := by positivity
  rw [zpow_add_one₀ (by norm_num)]
  linarith

/-- Thresholds increase. -/
theorem threshold_mono {low high : Int} (less : low ≤ high) (small : high.natAbs < 2 ^ 10) :
    threshold low ≤ threshold high := by
  rcases less.eq_or_lt with rfl | less
  · exact le_rfl
  · have same : (high - 1 + 1).natAbs < 2 ^ 10 := by rwa [Int.sub_add_cancel]
    calc threshold low
        ≤ 10 ^ low := threshold_le low
      _ ≤ 10 ^ (high - 1) := by gcongr <;> [norm_num; omega]
      _ ≤ threshold (high - 1 + 1) := (lt_threshold_succ same).le
      _ = threshold high := by rw [Int.sub_add_cancel]

/-- The gap below a whole number that is not a power of two. -/
theorem halved_le_gap (n : Nat) : ((n : ℚ) + 1) / 2 * unit ≤ 2 ^ ((n.log2 : Int) - 52 - 1) := by
  have size : (n : ℚ) + 1 ≤ 2 ^ (n.log2 + 1) := mod_cast Nat.lt_log2_self
  have gap : (2 : ℚ) ^ ((n.log2 : Int) - 52 - 1) = 2 ^ (n.log2 + 1) / 2 * unit := by
    rw [sub_sub, zpow_sub₀ two_ne_zero, zpow_natCast, pow_succ, unit]
    norm_num
    ring
  rw [gap]
  gcongr
  exact unit_pos.le

theorem le_halfGapBelow_neg (n : Nat) : ((n : ℚ) + 1) / 2 * unit ≤ 2 ^ halfGapBelow (-n) := by
  have gap : halfGapBelow (-n) = (n.log2 : Int) - 52 - 1 := by
    simp [halfGapBelow]
  rw [gap]
  exact halved_le_gap n

theorem le_halfGapBelow (n : Nat) : (n : ℚ) / 2 * unit ≤ 2 ^ halfGapBelow n := by
  simp only [halfGapBelow, Int.natAbs_natCast]
  split
  · rename_i power
    have exactly : n = 2 ^ n.log2 := by
      simp only [Bool.and_eq_true, beq_iff_eq] at power
      exact power.2
    have cast : (n : ℚ) = 2 ^ n.log2 := mod_cast exactly
    have gap : (2 : ℚ) ^ ((n.log2 : Int) - 52 - 2) = n / 2 * unit := by
      rw [sub_sub, zpow_sub₀ two_ne_zero, zpow_natCast, cast, unit]
      norm_num
      ring
    exact gap.ge
  · refine le_trans ?_ (halved_le_gap n)
    have positive := unit_pos
    gcongr
    linarith

/-- The slack outweighs the roundings of a power, except for small negative exponents. -/
theorem roundings_le_slack {exponent : Int} (large : 0 ≤ exponent ∨ exponent ≤ -7) :
    roundings exponent * unit ≤ slack (exponent + 1) := by
  have most := logOfTen_bounds.1
  have positive := unit_pos
  rw [slack, if_neg (by omega), roundings]
  rcases large with natural | negative
  · obtain ⟨size, rfl⟩ : ∃ size : Nat, exponent = size := ⟨exponent.natAbs, by omega⟩
    have gap := le_halfGapBelow (size + 1)
    rw [if_neg (by omega), Int.natAbs_natCast]
    push_cast at gap
    have parts : 0 ≤ (size : ℚ) * unit := by positivity
    calc (size : ℚ) * unit
        ≤ 2302585 / 1000000 * (((size : ℚ) + 1) / 2 * unit) := by linarith
      _ ≤ logOfTen * 2 ^ halfGapBelow (size + 1) := by gcongr
  · obtain ⟨size, rfl⟩ : ∃ size : Nat, exponent = -(size + 1 : Nat) :=
      ⟨exponent.natAbs - 1, by omega⟩
    have gap := le_halfGapBelow_neg size
    have same : -((size + 1 : Nat) : Int) + 1 = -size := by omega
    have many : (6 : ℚ) ≤ size := by
      have whole : 6 ≤ size := by omega
      exact mod_cast whole
    have parts : 6 * unit ≤ size * unit := by gcongr
    rw [if_pos (by omega), Int.natAbs_neg, Int.natAbs_natCast, same]
    push_cast
    calc ((size : ℚ) + 1 + 1) * unit
        ≤ 2302585 / 1000000 * (((size : ℚ) + 1) / 2 * unit) := by linarith
      _ ≤ logOfTen * 2 ^ halfGapBelow (-size) := by gcongr

/-! ## The power of ten below a number -/

/-- What is known of the power of ten that the scale of a chart starts from.  Numbers that do not
count as the next power are at most ten times this one. -/
structure ScaleKnown (exponent : Int) : Prop where
  positive : Positive (powerOfTen exponent)
  reaches : threshold (exponent + 1) ≤ 10 * value (powerOfTen exponent)
  room : exponent ≤ 307 → 10 * value (powerOfTen exponent) * (1 + unit) < limit

theorem scaleKnown_of_roundings {exponent : Int} (low : -307 ≤ exponent) (high : exponent ≤ 308)
    (large : 0 ≤ exponent ∨ exponent ≤ -7) : ScaleKnown exponent := by
  obtain ⟨positive, lower, room⟩ := powerKnown low high
  have enough := roundings_le_slack large
  refine ⟨positive, ?_, room⟩
  calc threshold (exponent + 1)
      = 10 * (10 ^ exponent * (1 - slack (exponent + 1))) := by
        rw [threshold, zpow_add_one₀ (by norm_num)]
        ring
    _ ≤ 10 * (10 ^ exponent * (1 - roundings exponent * unit)) := by gcongr
    _ ≤ 10 * value (powerOfTen exponent) := by gcongr

theorem scaleKnown_of_ofFloat {exponent place : Int} {mantissa : Nat}
    (read : Binary.ofFloat (powerOfTen exponent) = .finite false mantissa place)
    (some : 0 < mantissa) (small : powerOfTen exponent ≤ 1.0)
    (reaches : threshold (exponent + 1) ≤ (10 * mantissa : Nat) * 2 ^ place) :
    ScaleKnown exponent := by
  obtain ⟨positive, shown⟩ := positive_of_ofFloat read some
  rw [le_iff_value positive.number positive_one.1.number, positive_one.2] at small
  refine ⟨positive, reaches.trans_eq ?_, fun _ => room_of_le_one small⟩
  rw [shown]
  push_cast
  ring

/-- Where the slack does not outweigh the roundings, the program's own test decides. -/
theorem scaleKnown_of_logarithm (exponent : Int) (mantissa : Nat) (place : Int)
    (known : Binary.ofFloat (powerOfTen exponent) = .finite false mantissa place ∧ 0 < mantissa ∧
      powerOfTen exponent ≤ 1.0 ∧ exponent + 1 ≠ 0 ∧
        logarithmReaches (exponent + 1) (10 * mantissa) place = true) :
    ScaleKnown exponent := by
  obtain ⟨read, some, small, other, reached⟩ := known
  exact scaleKnown_of_ofFloat read some small ((logarithmReaches_iff other _ _).mp reached)

/-- A tenth is rounded up, and the next power is reached exactly. -/
theorem scaleKnown_tenth : ScaleKnown (-1) := by
  have read : Binary.ofFloat (powerOfTen (-1)) = .finite false 7205759403792794 (-56) := by
    decide +kernel
  refine scaleKnown_of_ofFloat read (by decide) (by decide +kernel) ((threshold_le _).trans ?_)
  norm_num

/-- **The power of ten below a number that is not too small is positive, and close enough to the
next power.** -/
theorem scaleKnown {exponent : Int} (low : -308 ≤ exponent) (high : exponent ≤ 308) :
    ScaleKnown exponent := by
  have cases : (-307 ≤ exponent ∧ (0 ≤ exponent ∨ exponent ≤ -7)) ∨ exponent = -1 ∨
      exponent = -2 ∨ exponent = -3 ∨ exponent = -4 ∨ exponent = -5 ∨ exponent = -6 ∨
      exponent = -308 := by omega
  -- The slack fails to outweigh the roundings of the first few, and the last power is subnormal.
  rcases cases with ⟨normal, large⟩ | rfl | rfl | rfl | rfl | rfl | rfl | rfl
  · exact scaleKnown_of_roundings normal high large
  · exact scaleKnown_tenth
  · exact scaleKnown_of_logarithm (-2) 5764607523034235 (-59) (by decide +kernel)
  · exact scaleKnown_of_logarithm (-3) 4611686018427388 (-62) (by decide +kernel)
  · exact scaleKnown_of_logarithm (-4) 7378697629483821 (-66) (by decide +kernel)
  · exact scaleKnown_of_logarithm (-5) 5902958103587057 (-69) (by decide +kernel)
  · exact scaleKnown_of_logarithm (-6) 4722366482869645 (-72) (by decide +kernel)
  · exact scaleKnown_of_logarithm (-308) 2024022533073105 (-1074) (by decide +kernel)

/-- Powers of ten below the range vanish. -/
theorem powerOfTen_eq_zero {exponent : Int} (low : -324 ≤ exponent) (high : exponent ≤ -309) :
    powerOfTen exponent = 0.0 := by
  interval_cases exponent <;> decide +kernel

/-! ## The floor of the logarithm -/

section Floor

variable {mantissa : Nat} {exponent : Int}

/-- The least positive number is above this power of ten. -/
theorem power_lt_least : (10 : ℚ) ^ (-324 : Int) < 2 ^ (-1074 : Int) := by
  have whole : 2 ^ 1074 < 10 ^ 324 := by decide +kernel
  rw [zpow_neg, zpow_neg, inv_lt_inv₀ (by positivity) (by positivity)]
  exact mod_cast whole

/-- No number is near this power of ten. -/
theorem twice_limit_lt : limit * 2 < 10 ^ (309 : Int) := by
  have whole : 2 ^ 1024 * 2 < 10 ^ 309 := by decide +kernel
  rw [limit]
  exact mod_cast whole

/-- No number counts as this power of ten. -/
theorem limit_lt_threshold : limit < threshold 309 := by
  have twice := twice_limit_lt
  have half : 10 ^ (309 : Int) * (1 / 2) ≤ threshold 309 := half_le_threshold (by decide)
  linarith

theorem decimalOrder_range (above : 2 ^ (-1074 : Int) ≤ (mantissa : ℚ) * 2 ^ exponent)
    (below : (mantissa : ℚ) * 2 ^ exponent < limit) :
    (-324 ≤ decimalOrder mantissa exponent ∧ decimalOrder mantissa exponent ≤ 308) ∧
      (10 : ℚ) ^ decimalOrder mantissa exponent ≤ mantissa * 2 ^ exponent ∧
      (mantissa : ℚ) * 2 ^ exponent < 10 ^ (decimalOrder mantissa exponent + 1) := by
  have ten : (1 : ℚ) < 10 := by norm_num
  have some := power_lt_least.trans_le above
  have reached : 1 ≤ (mantissa : ℚ) * 2 ^ exponent * 10 ^ 324 := by
    have shift : (10 : ℚ) ^ (-324 : Int) * 10 ^ 324 = 1 := by
      rw [zpow_neg]
      exact inv_mul_cancel₀ (by positivity)
    rw [← shift]
    gcongr
  obtain ⟨lower, upper⟩ := decimalOrder_bounds reached
  have least := (zpow_lt_zpow_iff_right₀ ten).mp (some.trans upper)
  have top := below.trans (limit_lt_threshold.trans_le (threshold_le 309))
  have most := (zpow_lt_zpow_iff_right₀ ten).mp (lower.trans_lt top)
  exact ⟨⟨by omega, by omega⟩, lower, upper⟩

/-- The floor of the logarithm is found between two thresholds. -/
theorem floorLog10_bounds (above : 2 ^ (-1074 : Int) ≤ (mantissa : ℚ) * 2 ^ exponent)
    (below : (mantissa : ℚ) * 2 ^ exponent < limit) :
    (-324 ≤ floorLog10 mantissa exponent ∧ floorLog10 mantissa exponent ≤ 308) ∧
      threshold (floorLog10 mantissa exponent) ≤ mantissa * 2 ^ exponent ∧
      (mantissa : ℚ) * 2 ^ exponent < threshold (floorLog10 mantissa exponent + 1) := by
  obtain ⟨⟨least, most⟩, lower, upper⟩ := decimalOrder_range above below
  rw [floorLog10]
  generalize decimalOrder mantissa exponent = order at *
  split
  · rename_i reaches
    have other : order + 1 ≠ 0 := by
      rintro zero
      rw [zero] at reaches
      cases reaches
    rw [logarithmReaches_iff other] at reaches
    refine ⟨⟨by omega, ?_⟩, reaches, upper.trans (lt_threshold_succ (by omega))⟩
    by_contra beyond
    obtain rfl : order = 308 := by omega
    exact lt_irrefl _ ((below.trans limit_lt_threshold).trans_le reaches)
  · rename_i missed
    refine ⟨⟨least, most⟩, (threshold_le order).trans lower, ?_⟩
    by_cases one : order + 1 = 0
    · rw [one] at upper ⊢
      simpa [threshold, slack] using upper
    · rwa [logarithmReaches_iff one, not_le] at missed

end Floor

end LoadSweep.Number
