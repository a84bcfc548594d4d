import LoadSweep.Number.Decade
import LoadSweep.Proofs.Number.Rounding

/-!
# Powers of ten by repeated squaring

Every product on the way to a power is rounded.  A number approximates a value after so many
roundings if it is off by so many half units at most (`Approximates`), and a product has the
roundings of both factors and one more.  Repeated squaring keeps the sum of all roundings that are
still to come, so a power has at most as many as it has factors (`approximates_powerBySquaring`).
A negative power has one more for the reciprocal.

Up to `10 ^ 308` this stays below infinity; therefore the powers that the program computes are
positive, and they fall short of the exact ones by their roundings at most (`powerKnown`).
-/

namespace LoadSweep.Number

set_option autoImplicit false

/-! ## Roundings -/

/-- A number that stands for a value of at least one, after so many roundings of it. -/
structure Approximates (count : Nat) (exact : ℚ) (x : Float) : Prop where
  positive : Positive x
  one_le : 1 ≤ value x
  one_le_exact : 1 ≤ exact
  lower : exact * (1 - unit) ^ count ≤ value x
  upper : value x ≤ exact * (1 + unit) ^ count

theorem one_lt_limit : 1 < limit := by
  rw [limit]
  exact one_lt_pow₀ one_lt_two (by decide)

theorem shrunk_pos (count : Nat) : 0 < (1 - unit) ^ count :=
  pow_pos (sub_pos.mpr unit_lt_one) count

theorem one_le_grown (count : Nat) : 1 ≤ (1 + unit) ^ count :=
  one_le_pow₀ (le_add_of_nonneg_right unit_pos.le)

theorem least_normal_le_one : (2 : ℚ) ^ (-1022 : Int) ≤ 1 :=
  zpow_le_one_of_nonpos₀ one_le_two (by decide)

/-- A rounded number that is not subnormal is off by one rounding. -/
theorem Rounds.bounds {x r : ℚ} (rounds : Rounds x r) (normal : 2 ^ (-1022 : Int) ≤ x) :
    x * (1 - unit) ≤ r ∧ r ≤ x * (1 + unit) := by
  have close := abs_le.mp (rounds.close normal)
  constructor <;> linarith

/-- A result that stays between zero and the limit is positive. -/
theorem positive_of_min {x : Float} {r : ℚ} (number : x.isNaN = false)
    (shown : value x = min r limit) (above : 0 < r) (below : r < limit) :
    Positive x ∧ value x = r := by
  rw [min_eq_left below.le] at shown
  exact ⟨⟨number, shown ▸ above, shown ▸ below⟩, shown⟩

namespace Approximates

variable {count other : Nat} {exact factor : ℚ} {x y : Float}

/-- A product has the roundings of its factors and one more. -/
theorem mul (left : Approximates count exact x) (right : Approximates other factor y)
    (bounded : exact * factor * (1 + unit) ^ (count + other + 1) < limit) :
    Approximates (count + other + 1) (exact * factor) (x * y) := by
  obtain ⟨number, r, rounds, shown⟩ := left.positive.mul right.positive
  have one_le : 1 ≤ value x * value y := one_le_mul_of_one_le_of_one_le left.one_le right.one_le
  obtain ⟨lower, upper⟩ := rounds.bounds (least_normal_le_one.trans one_le)
  have below : value x * value y ≤ exact * factor * (1 + unit) ^ (count + other) := by
    calc value x * value y
        ≤ exact * (1 + unit) ^ count * (factor * (1 + unit) ^ other) :=
          mul_le_mul left.upper right.upper right.positive.above.le
            (left.positive.above.le.trans left.upper)
      _ = exact * factor * (1 + unit) ^ (count + other) := by rw [pow_add]; ring
  have above : exact * factor * (1 - unit) ^ (count + other) ≤ value x * value y := by
    calc exact * factor * (1 - unit) ^ (count + other)
        = exact * (1 - unit) ^ count * (factor * (1 - unit) ^ other) := by rw [pow_add]; ring
      _ ≤ value x * value y :=
          mul_le_mul left.lower right.lower
            (mul_nonneg (zero_le_one.trans right.one_le_exact) (shrunk_pos other).le)
            left.positive.above.le
  have upper : r ≤ exact * factor * (1 + unit) ^ (count + other + 1) := by
    rw [pow_succ, ← mul_assoc]
    exact upper.trans (mul_le_mul_of_nonneg_right below (add_pos one_pos unit_pos).le)
  have lower : exact * factor * (1 - unit) ^ (count + other + 1) ≤ r := by
    rw [pow_succ, ← mul_assoc]
    exact (mul_le_mul_of_nonneg_right above (sub_pos.mpr unit_lt_one).le).trans lower
  have grown : 1 ≤ r := rounds.ge_of_ge representable_one one_le
  obtain ⟨positive, same⟩ := positive_of_min number shown
    (one_pos.trans_le grown) (upper.trans_lt bounded)
  refine ⟨positive, ?_, ?_, ?_, ?_⟩
  · rwa [same]
  · exact one_le_mul_of_one_le_of_one_le left.one_le_exact right.one_le_exact
  · rwa [same]
  · rwa [same]

end Approximates

/-! ## Repeated squaring -/

section Squaring

variable {count other exponent : Nat} {exact factor : ℚ} {result base : Float}

/-- No product on the way to a power exceeds the power. -/
theorem product_le_power (one_le : 1 ≤ exact) (one_le_factor : 1 ≤ factor) (some : 1 ≤ exponent) :
    exact * factor * (1 + unit) ^ (count + other + 1) ≤
      exact * factor ^ exponent * (1 + unit) ^ (count + (other + 1) * exponent) := by
  have grows : 1 ≤ 1 + unit := le_add_of_nonneg_right unit_pos.le
  have most : other + 1 ≤ (other + 1) * exponent := Nat.le_mul_of_pos_right _ some
  calc exact * factor * (1 + unit) ^ (count + other + 1)
      = exact * factor ^ 1 * (1 + unit) ^ (count + (other + 1)) := by rw [pow_one, add_assoc]
    _ ≤ exact * factor ^ exponent * (1 + unit) ^ (count + (other + 1) * exponent) := by gcongr

/-- Taking out the odd factor of a power leaves a power of the square. -/
theorem approximates_odd_factor (start : Approximates count exact result)
    (powers : Approximates other factor base)
    (bounded : exact * factor ^ exponent * (1 + unit) ^ (count + (other + 1) * exponent) < limit) :
    ∃ count' exact',
      Approximates count' exact' (if exponent % 2 == 1 then result * base else result) ∧
      exact' * (factor * factor) ^ (exponent / 2) = exact * factor ^ exponent ∧
      count' + (other + other + 1 + 1) * (exponent / 2) = count + (other + 1) * exponent := by
  rcases Nat.even_or_odd' exponent with ⟨half, rfl | rfl⟩
  · have parity : (2 * half % 2 == 1) = false := by
      rw [beq_eq_false_iff_ne]
      omega
    rw [parity, Nat.mul_div_cancel_left half two_pos]
    refine ⟨count, exact, start, ?_, by ring⟩
    rw [pow_mul, sq]
  · have parity : ((2 * half + 1) % 2 == 1) = true := by
      rw [beq_iff_eq]
      omega
    have halved : (2 * half + 1) / 2 = half := by omega
    rw [parity, halved]
    refine ⟨count + other + 1, exact * factor, start.mul powers ?_, ?_, by ring⟩
    · exact (product_le_power start.one_le_exact powers.one_le_exact (by omega)).trans_lt bounded
    · rw [pow_succ, pow_mul, sq]
      ring

/-- Repeated squaring computes the power, and rounds at most once for each factor. -/
theorem approximates_powerBySquaring (bound : Nat) (start : Approximates count exact result)
    (powers : Approximates other factor base) (enough : exponent < 2 ^ bound)
    (bounded : exact * factor ^ exponent * (1 + unit) ^ (count + (other + 1) * exponent) < limit) :
    Approximates (count + (other + 1) * exponent) (exact * factor ^ exponent)
      (powerBySquaring bound result base exponent) := by
  induction bound generalizing count other exact factor result base exponent with
  | zero =>
    obtain rfl : exponent = 0 := by omega
    simpa [powerBySquaring] using start
  | succ bound ih =>
    obtain ⟨count', exact', taken, samePower, sameCount⟩ :=
      approximates_odd_factor start powers bounded
    rw [powerBySquaring, ← samePower, ← sameCount]
    rw [← samePower, ← sameCount] at bounded
    by_cases last : exponent / 2 = 0
    · rw [last]
      simpa using taken
    · rw [if_neg (by simpa using last)]
      refine ih taken (powers.mul powers ?_) (by omega) bounded
      have grows : 1 ≤ 1 + unit := le_add_of_nonneg_right unit_pos.le
      have square := one_le_mul_of_one_le_of_one_le powers.one_le_exact powers.one_le_exact
      have more : factor * factor ≤ exact' * (factor * factor) :=
        le_mul_of_one_le_left (by linarith) taken.one_le_exact
      have few : (1 + unit) ^ (other + other + 1) ≤
          (1 + unit) ^ (count' + (other + other + 1) + 1) :=
        pow_le_pow_right₀ grows (by omega)
      have some := one_le_grown (other + other + 1)
      calc factor * factor * (1 + unit) ^ (other + other + 1)
          ≤ exact' * (factor * factor) * (1 + unit) ^ (count' + (other + other + 1) + 1) :=
            mul_le_mul more few (zero_le_one.trans some) (by linarith)
        _ < limit := (product_le_power taken.one_le_exact square (by omega)).trans_lt bounded

end Squaring

/-! ## Powers of ten -/

theorem positive_one : Positive 1.0 ∧ value 1.0 = 1 := by
  have read : Binary.ofFloat 1.0 = .finite false (2 ^ 52) (-52) := by decide +kernel
  obtain ⟨positive, shown⟩ := positive_of_ofFloat read (by norm_num)
  exact ⟨positive, shown.trans (by norm_num)⟩

theorem positive_ten : Positive 10.0 ∧ value 10.0 = 10 := by
  have read : Binary.ofFloat 10.0 = .finite false (5 * 2 ^ 50) (-49) := by decide +kernel
  obtain ⟨positive, shown⟩ := positive_of_ofFloat read (by norm_num)
  exact ⟨positive, shown.trans (by norm_num)⟩

/-- A number approximates its own value. -/
theorem Positive.approximates {x : Float} (positive : Positive x) (one_le : 1 ≤ value x) :
    Approximates 0 (value x) x := by
  refine ⟨positive, one_le, one_le, ?_, ?_⟩ <;> rw [pow_zero, mul_one]

/-- The largest power of ten below infinity has room for its roundings. -/
theorem power_lt_limit {exponent : Nat} (small : exponent ≤ 308) :
    10 ^ exponent * (1 + unit) ^ exponent < limit := by
  have grows : 1 ≤ 1 + unit := le_add_of_nonneg_right unit_pos.le
  have quarter : 10 ^ 77 * (1 + unit) ^ 77 < 2 ^ 256 := by
    rw [unit]
    norm_num
  calc 10 ^ exponent * (1 + unit) ^ exponent
      ≤ 10 ^ 308 * (1 + unit) ^ 308 := by gcongr; norm_num
    _ = (10 ^ 77 * (1 + unit) ^ 77) ^ 4 := by rw [mul_pow, ← pow_mul, ← pow_mul]
    _ < (2 ^ 256) ^ 4 := by gcongr
    _ = limit := by rw [limit, ← pow_mul]

/-- A power of ten is rounded at most as often as it has factors. -/
theorem approximates_power {exponent : Nat} (small : exponent ≤ 308) :
    Approximates exponent (10 ^ exponent) (powerBySquaring 64 1.0 10.0 exponent) := by
  have one := positive_one.1.approximates positive_one.2.ge
  have ten := positive_ten.1.approximates (by rw [positive_ten.2]; norm_num)
  rw [positive_one.2] at one
  rw [positive_ten.2] at ten
  have room := power_lt_limit small
  simpa using approximates_powerBySquaring 64 one ten (by omega) (by simpa using room)

/-- A reciprocal that is not subnormal has one more rounding. -/
theorem Approximates.reciprocal {count : Nat} {exact : ℚ} {x : Float}
    (power : Approximates count exact x) (room : exact * (1 + unit) ^ count ≤ 2 ^ 1022) :
    Positive (1.0 / x) ∧ (1 - unit) ^ (count + 1) / exact ≤ value (1.0 / x) ∧
      value (1.0 / x) ≤ 1 := by
  obtain ⟨number, r, rounds, shown⟩ := positive_one.1.div power.positive
  rw [positive_one.2] at rounds
  have above := power.positive.above
  have normal : (2 : ℚ) ^ (-1022 : Int) ≤ 1 / value x := by
    rw [zpow_neg, ← one_div, zpow_ofNat]
    exact one_div_le_one_div_of_le above (power.upper.trans room)
  have lower := (rounds.bounds normal).1
  have shrinks : (1 - unit) ^ count * (1 + unit) ^ count ≤ 1 := by
    rw [← mul_pow]
    refine pow_le_one₀ ?_ ?_ <;> nlinarith [unit_pos, unit_lt_one]
  have exactly : 0 < exact := one_pos.trans_le power.one_le_exact
  have kept : (1 - unit) ^ (count + 1) / exact ≤ r := by
    calc (1 - unit) ^ (count + 1) / exact
        = (1 - unit) ^ count / exact * (1 - unit) := by rw [pow_succ]; ring
      _ ≤ 1 / value x * (1 - unit) := by
        refine mul_le_mul_of_nonneg_right ?_ (sub_pos.mpr unit_lt_one).le
        rw [div_le_div_iff₀ exactly above, one_mul]
        calc (1 - unit) ^ count * value x
            ≤ (1 - unit) ^ count * (exact * (1 + unit) ^ count) :=
              mul_le_mul_of_nonneg_left power.upper (shrunk_pos count).le
          _ = exact * ((1 - unit) ^ count * (1 + unit) ^ count) := by ring
          _ ≤ exact := mul_le_of_le_one_right exactly.le shrinks
      _ ≤ r := lower
  have positive : 0 < r := (div_pos (shrunk_pos (count + 1)) exactly).trans_le kept
  have small : r ≤ 1 := rounds.le_of_le representable_one ((div_le_one above).mpr power.one_le)
  obtain ⟨known, same⟩ := positive_of_min number shown positive (small.trans_lt one_lt_limit)
  rw [same]
  exact ⟨known, kept, small⟩

/-- One less a small part to a power is at least one less so many parts. -/
theorem one_sub_mul_le (count : Nat) : 1 - count * unit ≤ (1 - unit) ^ count := by
  have bernoulli := one_add_mul_le_pow (show -2 ≤ -unit by linarith [unit_lt_one]) count
  rwa [mul_neg, ← sub_eq_add_neg, ← sub_eq_add_neg] at bernoulli

/-- How often a power of ten is rounded at most. -/
def roundings (exponent : Int) : Nat :=
  if exponent < 0 then exponent.natAbs + 1 else exponent.natAbs

/-- What is known of a power of ten that is computed. -/
structure PowerKnown (exponent : Int) : Prop where
  positive : Positive (powerOfTen exponent)
  lower : 10 ^ exponent * (1 - roundings exponent * unit) ≤ value (powerOfTen exponent)
  /-- The next power is finite, and so is its rounding. -/
  room : exponent ≤ 307 → 10 * value (powerOfTen exponent) * (1 + unit) < limit

theorem ten_mul_lt_limit {exponent : Nat} (small : exponent ≤ 307) :
    10 * (10 ^ exponent * (1 + unit) ^ exponent) * (1 + unit) < limit := by
  have next : exponent + 1 ≤ 308 := by omega
  calc 10 * (10 ^ exponent * (1 + unit) ^ exponent) * (1 + unit)
      = 10 ^ (exponent + 1) * (1 + unit) ^ (exponent + 1) := by rw [pow_succ, pow_succ]; ring
    _ < limit := power_lt_limit next

/-- Up to one there is room for the next power. -/
theorem room_of_le_one {x : ℚ} (small : x ≤ 1) : 10 * x * (1 + unit) < limit := by
  have large : 10 * 1 * (1 + 1) < limit := by
    rw [limit]
    exact mod_cast (by decide +kernel : 10 * 1 * (1 + 1) < 2 ^ 1024)
  have less := unit_lt_one
  have grows := unit_pos
  refine lt_of_le_of_lt ?_ large
  gcongr

theorem powerKnown_natural {exponent : Nat} (small : exponent ≤ 308) : PowerKnown exponent := by
  have power := approximates_power small
  have same : powerOfTen exponent = powerBySquaring 64 1.0 10.0 exponent := by
    rw [powerOfTen, if_neg (by omega), Int.natAbs_natCast]
  have count : roundings exponent = exponent := by
    rw [roundings, if_neg (by omega), Int.natAbs_natCast]
  rw [← same] at power
  refine ⟨power.positive, ?_, fun less => ?_⟩
  · rw [count, zpow_natCast]
    exact (mul_le_mul_of_nonneg_left (one_sub_mul_le exponent) (by positivity)).trans power.lower
  · have grows : 0 ≤ 1 + unit := (add_pos one_pos unit_pos).le
    refine lt_of_le_of_lt ?_ (ten_mul_lt_limit (show exponent ≤ 307 by omega))
    gcongr
    exact power.upper

theorem powerKnown_negative {size : Nat} (some : 0 < size) (small : size ≤ 307) :
    PowerKnown (-size) := by
  have negative : -(size : Int) < 0 := by omega
  have same : powerOfTen (-size) = 1.0 / powerBySquaring 64 1.0 10.0 size := by
    rw [powerOfTen, if_pos negative, Int.natAbs_neg, Int.natAbs_natCast]
  have count : roundings (-size) = size + 1 := by
    rw [roundings, if_pos negative, Int.natAbs_neg, Int.natAbs_natCast]
  have room : (10 : ℚ) ^ size * (1 + unit) ^ size ≤ 2 ^ 1022 := by
    have bounded := ten_mul_lt_limit small
    have positive := unit_pos
    have quarter : limit = 4 * 2 ^ 1022 := by
      rw [limit, pow_add 2 1022 2, mul_comm]
      norm_num
    rw [quarter] at bounded
    have least : 0 < 10 ^ size * (1 + unit) ^ size := by positivity
    generalize (10 : ℚ) ^ size * (1 + unit) ^ size = power at *
    generalize (2 : ℚ) ^ 1022 = most at *
    nlinarith
  have power := approximates_power (show size ≤ 308 by omega)
  obtain ⟨positive, lower, upper⟩ := power.reciprocal room
  rw [← same] at positive lower upper
  refine ⟨positive, le_trans ?_ lower, fun _ => room_of_le_one upper⟩
  rw [count, zpow_neg, zpow_natCast, inv_mul_eq_div]
  gcongr
  exact one_sub_mul_le (size + 1)

/-- **A power of ten that is not too small is positive, and falls short by its roundings at
most.** -/
theorem powerKnown {exponent : Int} (low : -307 ≤ exponent) (high : exponent ≤ 308) :
    PowerKnown exponent := by
  rcases lt_or_ge exponent 0 with negative | natural
  · obtain ⟨size, rfl⟩ : ∃ size : Nat, exponent = -size := ⟨exponent.natAbs, by omega⟩
    exact powerKnown_negative (by omega) (by omega)
  · obtain ⟨size, rfl⟩ : ∃ size : Nat, exponent = size := ⟨exponent.natAbs, by omega⟩
    exact powerKnown_natural (by omega)

end LoadSweep.Number
