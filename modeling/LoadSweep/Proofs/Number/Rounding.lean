import LoadSweep.Proofs.Number.Values

/-!
# Rounding

A magnitude is representable if it has few enough bits and a place that is not too low.  The product
and the quotient of two numbers are the representable magnitudes nearest to the exact ones
(`value_mul`, `value_div`), up to the limit.  What is computed on the way is a mantissa with two
residual bits, which stand for all that was cut off (`Stands`): a shift to the right keeps what they
stand for, and rounding them goes to the nearer neighbour.

Three consequences are all that later bounds rest on.  Rounding does not pass a representable
magnitude (`Rounds.le_of_le`, `Rounds.ge_of_ge`), it is off by at most half a unit in the last place
above the least normal magnitude (`Rounds.close`), and neighbours are more than half a unit apart
(`Representable.gap`).
-/

namespace LoadSweep.Number

open Float.Model
open UnpackedFloat hiding unpack pack

set_option autoImplicit false

/-! ## Nearest magnitudes -/

/-- A magnitude with at most as many bits as a mantissa, not below the least exponent. -/
def Representable (r : ℚ) : Prop :=
  ∃ (mantissa : Nat) (exponent : Int),
    mantissa < 2 ^ 53 ∧ -1074 ≤ exponent ∧ r = mantissa * 2 ^ exponent

/-- Half a unit in the last place, as a part of the number: what one rounding adds or takes away at
most. -/
def unit : ℚ := 2 ^ (-53 : Int)

/-- A magnitude is rounded to one that no representable magnitude is nearer to.  Above the least
normal magnitude it is off by at most half a unit in the last place. -/
structure Rounds (x r : ℚ) : Prop where
  representable : Representable r
  nearest : ∀ y, Representable y → |r - x| ≤ |y - x|
  close : 2 ^ (-1022 : Int) ≤ x → |r - x| ≤ unit * x

/-- A multiple of a place is one of every lower place. -/
theorem mul_shift (n shift : Nat) (place : Int) :
    (n : ℚ) * 2 ^ (place + shift) = (n * 2 ^ shift : Nat) * 2 ^ place := by
  rw [zpow_add₀ two_ne_zero, zpow_natCast]
  push_cast
  ring

theorem unit_pos : 0 < unit := by
  rw [unit]
  positivity

theorem unit_lt_one : unit < 1 := by
  rw [unit]
  norm_num

theorem representable_one : Representable 1 :=
  ⟨1, 0, by norm_num, by norm_num, by norm_num⟩

theorem Canonical.representable {mantissa : Nat} {exponent : Int}
    (canonical : Canonical mantissa exponent) :
    Representable (mantissa * 2 ^ exponent) :=
  ⟨mantissa, exponent, canonical.fits, canonical.low, rfl⟩

section Nearest

variable {x r y : ℚ}

theorem Representable.nonneg (representable : Representable r) : 0 ≤ r := by
  obtain ⟨mantissa, exponent, -, -, rfl⟩ := representable
  positivity

/-- Representable magnitudes are multiples of the least one. -/
theorem Representable.multiple (representable : Representable r) :
    ∃ n : Nat, r = n * 2 ^ (-1074 : Int) := by
  obtain ⟨mantissa, exponent, -, low, rfl⟩ := representable
  obtain ⟨shift, rfl⟩ : ∃ shift : Nat, exponent = -1074 + shift :=
    ⟨(exponent + 1074).toNat, by omega⟩
  exact ⟨mantissa * 2 ^ shift, mul_shift mantissa shift _⟩

theorem Representable.least_le (representable : Representable r) (positive : 0 < r) :
    2 ^ (-1074 : Int) ≤ r := by
  obtain ⟨n, rfl⟩ := representable.multiple
  have some : n ≠ 0 := by
    rintro rfl
    simp at positive
  have one : (1 : ℚ) ≤ n := mod_cast Nat.one_le_iff_ne_zero.mpr some
  exact le_mul_of_one_le_left (by positivity) one

/-- Twice a representable magnitude is representable. -/
theorem Representable.double (representable : Representable r) : Representable (2 * r) := by
  obtain ⟨mantissa, exponent, fits, low, rfl⟩ := representable
  refine ⟨mantissa, exponent + 1, fits, by omega, ?_⟩
  rw [zpow_add_one₀ two_ne_zero]
  ring

/-- Rounding does not pass a representable magnitude. -/
theorem Rounds.le_of_le (rounds : Rounds x r) (representable : Representable y) (above : x ≤ y) :
    r ≤ y := by
  by_contra beyond
  rw [not_le] at beyond
  have nearer := rounds.nearest y representable
  rw [abs_of_nonneg (by linarith), abs_of_nonneg (by linarith)] at nearer
  linarith

theorem Rounds.ge_of_ge (rounds : Rounds x r) (representable : Representable y) (below : y ≤ x) :
    y ≤ r := by
  by_contra beyond
  rw [not_le] at beyond
  have nearer := rounds.nearest y representable
  rw [abs_of_nonpos (by linarith), abs_of_nonpos (by linarith)] at nearer
  linarith

/-- A representable magnitude stays. -/
theorem Rounds.eq_of_representable (rounds : Rounds x r) (representable : Representable x) :
    r = x :=
  le_antisymm (rounds.le_of_le representable le_rfl) (rounds.ge_of_ge representable le_rfl)

/-- Of two representable magnitudes the greater is greater by more than half a unit in the last
place. -/
theorem Representable.gap (below : Representable x) (above : Representable y) (less : x < y) :
    x * (1 + unit) < y := by
  -- Both are multiples of the smaller place, and the lesser has few bits there.
  have multiples {n k : Nat} {place : Int} (fits : n < 2 ^ 53)
      (fewer : (n : ℚ) * 2 ^ place < k * 2 ^ place) :
      (n : ℚ) * 2 ^ place * (1 + unit) < k * 2 ^ place := by
    have scale : (0 : ℚ) < 2 ^ place := by positivity
    have whole : n + 1 ≤ k := mod_cast lt_of_mul_lt_mul_right fewer scale.le
    have next : (n : ℚ) + 1 ≤ k := mod_cast whole
    have part : (n : ℚ) * unit < 1 := by
      have cast : (n : ℚ) < 2 ^ 53 := mod_cast fits
      have positive := unit_pos
      calc (n : ℚ) * unit
          < 2 ^ 53 * unit := by gcongr
        _ = 1 := by rw [unit]; norm_num
    calc (n : ℚ) * 2 ^ place * (1 + unit)
        = (n + n * unit) * 2 ^ place := by ring
      _ < k * 2 ^ place := by gcongr; linarith
  obtain ⟨mantissa, exponent, fits, -, rfl⟩ := below
  obtain ⟨mantissa', exponent', fits', -, rfl⟩ := above
  rcases le_total exponent exponent' with lower | lower
  · obtain ⟨shift, rfl⟩ : ∃ shift : Nat, exponent' = exponent + shift :=
      ⟨(exponent' - exponent).toNat, by omega⟩
    rw [mul_shift] at less ⊢
    exact multiples fits less
  · obtain ⟨shift, rfl⟩ : ∃ shift : Nat, exponent = exponent' + shift :=
      ⟨(exponent - exponent').toNat, by omega⟩
    rw [mul_shift] at less ⊢
    have scale : (0 : ℚ) < 2 ^ exponent' := by positivity
    have fewer : mantissa * 2 ^ shift < mantissa' :=
      Nat.cast_lt.mp (lt_of_mul_lt_mul_right less scale.le)
    exact multiples (fewer.trans fits') less

end Nearest

/-- No natural number is nearer than one that is at most a half away. -/
theorem nearest_of_half {n k : Nat} {z : ℚ} (near : |(n : ℚ) - z| ≤ 1 / 2) :
    |(n : ℚ) - z| ≤ |(k : ℚ) - z| := by
  rcases eq_or_ne n k with rfl | other
  · exact le_rfl
  · have apart : (1 : ℚ) ≤ |(k : ℚ) - n| := by
      have whole : (1 : Int) ≤ |(k : Int) - n| := Int.one_le_abs (by omega)
      exact mod_cast whole
    have between : |(k : ℚ) - n| ≤ |(k : ℚ) - z| + |(n : ℚ) - z| := by
      rw [abs_sub_comm (n : ℚ) z]
      exact abs_sub_le _ _ _
    linarith

section Places

variable {n : Nat} {z : ℚ} {place : Int}

/-- A mantissa that rounding has made too long by one still has few bits. -/
theorem representable_of_le (small : n ≤ 2 ^ 53) (low : -1074 ≤ place) :
    Representable (n * 2 ^ place) := by
  rcases small.lt_or_eq with fits | rfl
  · exact ⟨n, place, fits, low, rfl⟩
  · refine ⟨2 ^ 52, place + 1, by norm_num, by omega, ?_⟩
    rw [zpow_add_one₀ two_ne_zero]
    push_cast
    ring

theorem abs_sub_scaled (a b : ℚ) (place : Int) :
    |a * 2 ^ place - b * 2 ^ place| = |a - b| * 2 ^ place := by
  have scale : (0 : ℚ) < 2 ^ place := by positivity
  rw [← sub_mul, abs_mul, abs_of_pos scale]

theorem nearest_multiple (near : |(n : ℚ) - z| ≤ 1 / 2) (k : Nat) :
    |(n : ℚ) * 2 ^ place - z * 2 ^ place| ≤ |(k : ℚ) * 2 ^ place - z * 2 ^ place| := by
  rw [abs_sub_scaled, abs_sub_scaled]
  exact mul_le_mul_of_nonneg_right (nearest_of_half near) (by positivity)

/-- A magnitude with a lower place lies below the full mantissas with this one. -/
theorem finer_le {mantissa : Nat} {exponent : Int} (fits : mantissa < 2 ^ 53)
    (finer : exponent < place) : (mantissa : ℚ) * 2 ^ exponent ≤ 2 ^ 52 * 2 ^ place := by
  have cast : (mantissa : ℚ) ≤ 2 ^ 53 := mod_cast fits.le
  calc (mantissa : ℚ) * 2 ^ exponent
      ≤ 2 ^ 53 * 2 ^ exponent := by gcongr
    _ = 2 ^ 52 * 2 ^ (exponent + 1) := by rw [zpow_add_one₀ two_ne_zero]; ring
    _ ≤ 2 ^ 52 * 2 ^ place := by gcongr <;> [norm_num; omega]

/-- No representable magnitude is nearer than the nearest multiple of the last place. -/
theorem nearest_representable (near : |(n : ℚ) - z| ≤ 1 / 2)
    (full : 2 ^ 52 ≤ z ∨ place = -1074) {y : ℚ} (representable : Representable y) :
    |(n : ℚ) * 2 ^ place - z * 2 ^ place| ≤ |y - z * 2 ^ place| := by
  obtain ⟨mantissa, exponent, fits, possible, rfl⟩ := representable
  by_cases finer : exponent < place
  · have full : (2 : ℚ) ^ 52 ≤ z := full.resolve_right (by omega)
    have below := finer_le fits finer
    have above : (2 : ℚ) ^ 52 * 2 ^ place ≤ z * 2 ^ place := by gcongr
    calc |(n : ℚ) * 2 ^ place - z * 2 ^ place|
        ≤ |((2 ^ 52 : Nat) : ℚ) * 2 ^ place - z * 2 ^ place| := nearest_multiple near _
      _ = z * 2 ^ place - 2 ^ 52 * 2 ^ place := by
        rw [Nat.cast_pow, Nat.cast_ofNat, abs_sub_comm, abs_of_nonneg (sub_nonneg.mpr above)]
      _ ≤ z * 2 ^ place - mantissa * 2 ^ exponent := sub_le_sub_left below _
      _ ≤ |(mantissa : ℚ) * 2 ^ exponent - z * 2 ^ place| := by
        rw [abs_sub_comm]
        exact le_abs_self _
  · obtain ⟨shift, rfl⟩ : ∃ shift : Nat, exponent = place + shift :=
      ⟨(exponent - place).toNat, by omega⟩
    rw [mul_shift]
    exact nearest_multiple near _

/-- The multiple of a power of two that is nearest to a magnitude is its rounding, if the power is
that of the last place. -/
theorem rounds_of_near (near : |(n : ℚ) - z| ≤ 1 / 2) (small : n ≤ 2 ^ 53) (low : -1074 ≤ place)
    (full : 2 ^ 52 ≤ z ∨ place = -1074) : Rounds (z * 2 ^ place) (n * 2 ^ place) := by
  refine ⟨representable_of_le small low, fun _ => nearest_representable near full, fun normal => ?_⟩
  have full : (2 : ℚ) ^ 52 ≤ z := by
    rcases full with full | rfl
    · exact full
    · have least : (2 : ℚ) ^ (-1022 : Int) = 2 ^ 52 * 2 ^ (-1074 : Int) := by
        rw [← zpow_natCast, ← zpow_add₀ two_ne_zero]
        norm_num
      rw [least] at normal
      exact le_of_mul_le_mul_right normal (by positivity)
  have half : 1 / 2 ≤ unit * z := by
    have exactly : unit * 2 ^ 52 = 1 / 2 := by
      rw [unit]
      norm_num
    have positive := unit_pos
    rw [← exactly]
    gcongr
  rw [abs_sub_scaled, ← mul_assoc]
  gcongr
  exact near.trans half

end Places

/-! ## Mantissas with residual bits -/

/-- What an extended mantissa stands for: itself, or something between it and the next one, on one
side of the middle or in it. -/
def Stands (extended : ExtendedMantissa) (z : ℚ) : Prop :=
  match extended.roundBit, extended.stickyBit with
  | false, false => z = extended.mantissa
  | false, true => extended.mantissa < z ∧ z < extended.mantissa + 1 / 2
  | true, false => z = extended.mantissa + 1 / 2
  | true, true => extended.mantissa + 1 / 2 < z ∧ z < extended.mantissa + 1

namespace Stands

variable {extended : ExtendedMantissa} {z : ℚ}

theorem bounds (stands : Stands extended z) :
    (extended.mantissa : ℚ) ≤ z ∧ z < extended.mantissa + 1 := by
  obtain ⟨mantissa, round, sticky⟩ := extended
  cases round <;> cases sticky <;> simp only [Stands] at stands ⊢ <;> constructor <;> linarith

/-- Rounding goes to the nearer neighbour. -/
theorem rounded (stands : Stands extended z) : |(extended.roundedMantissa : ℚ) - z| ≤ 1 / 2 := by
  obtain ⟨mantissa, round, sticky⟩ := extended
  cases round <;> cases sticky <;>
    simp only [Stands, ExtendedMantissa.roundedMantissa, ExtendedMantissa.accuracy,
      Accuracy.roundToNearestEven] at stands ⊢ <;> rw [abs_le]
  · constructor <;> linarith
  · constructor <;> linarith
  · rcases Nat.mod_two_eq_zero_or_one mantissa with even | odd
    · rw [even]
      constructor <;> norm_num <;> linarith
    · rw [odd]
      constructor <;> push_cast <;> linarith
  · push_cast
    constructor <;> linarith

/-- A shift halves what is stood for. -/
theorem shiftRightOne (stands : Stands extended z) : Stands extended.shiftRightOne (z / 2) := by
  obtain ⟨mantissa, round, sticky⟩ := extended
  have halves : (mantissa : ℚ) = 2 * (mantissa / 2 : Nat) + (mantissa % 2 : Nat) :=
    mod_cast (Nat.div_add_mod mantissa 2).symm
  -- The bit that is shifted out becomes the round bit, and the other two become sticky.
  rcases Nat.mod_two_eq_zero_or_one mantissa with parity | parity <;>
    rw [parity] at halves <;> cases round <;> cases sticky <;>
      simp only [Stands, ExtendedMantissa.shiftRightOne, parity, bne_self_eq_false, Nat.reduceBNe]
        at stands ⊢ <;>
        norm_num at halves ⊢ <;>
          first
          | linarith
          | exact ⟨by linarith, by linarith⟩

theorem shiftRight (stands : Stands extended z) (count : Nat) :
    Stands (extended >>> count) (z / 2 ^ count) := by
  change Stands (count.repeat ExtendedMantissa.shiftRightOne extended) _
  induction count with
  | zero => simpa [Nat.repeat] using stands
  | succ count ih =>
    rw [pow_succ, ← div_div]
    exact ih.shiftRightOne

end Stands

theorem mantissa_shiftRight (extended : ExtendedMantissa) (count : Nat) :
    (extended >>> count).mantissa = extended.mantissa / 2 ^ count := by
  change (count.repeat ExtendedMantissa.shiftRightOne extended).mantissa = _
  induction count with
  | zero => simp [Nat.repeat]
  | succ count ih =>
    rw [Nat.repeat, ExtendedMantissa.shiftRightOne, ih, Nat.div_div_eq_div_mul, Nat.pow_succ]

theorem roundedMantissa_le (extended : ExtendedMantissa) :
    extended.mantissa ≤ extended.roundedMantissa ∧
      extended.roundedMantissa ≤ extended.mantissa + 1 := by
  obtain ⟨mantissa, round, sticky⟩ := extended
  cases round <;> cases sticky <;>
    simp only [ExtendedMantissa.roundedMantissa, ExtendedMantissa.accuracy,
      Accuracy.roundToNearestEven] <;> omega

theorem mantissa_ofMantissaAndAccuracy (mantissa : Nat) (accuracy : Accuracy) :
    (ExtendedMantissa.ofMantissaAndAccuracy mantissa accuracy).mantissa = mantissa := by
  rcases accuracy with _ | _ | _ | _ <;> rfl

/-! ## Rounding to the format -/

/-- The exponent of the last place that there is room for. -/
def lastPlace (mantissa : Nat) (exponent : Int) : Int :=
  max (mantissa.log2 + exponent - 52) (-1074)

theorem targetExponent_eq (mantissa : Nat) (exponent : Int) :
    Format.binary64.targetExponent (totalExponent mantissa exponent) =
      lastPlace mantissa exponent := by
  have width : (Format.binary64.mantissaBits : Int) = 53 := rfl
  have least : Format.binary64.minExponent = -1074 := rfl
  rw [Format.targetExponent, totalExponent, width, least, lastPlace]
  congr 1
  omega

/-- A mantissa shifted to the last place fits, and is full above the least exponent. -/
theorem shifted_fits {mantissa : Nat} {exponent : Int} {count : Nat}
    (reached : exponent + count = lastPlace mantissa exponent) :
    mantissa / 2 ^ count < 2 ^ 53 ∧
      (2 ^ 52 ≤ mantissa / 2 ^ count ∨ lastPlace mantissa exponent = -1074) := by
  have size : mantissa.log2 ≤ 52 + count := by
    rw [lastPlace] at reached
    omega
  constructor
  · rw [Nat.div_lt_iff_lt_mul (by positivity), ← Nat.pow_add]
    exact Nat.lt_of_lt_of_le Nat.lt_log2_self (Nat.pow_le_pow_right (by decide) (by omega))
  · by_cases least : lastPlace mantissa exponent = -1074
    · exact .inr least
    · have full : mantissa.log2 = 52 + count := by
        rw [lastPlace] at reached least
        omega
      have some : mantissa ≠ 0 := by
        rintro rfl
        rw [Nat.log2_zero] at full
        omega
      refine .inl ?_
      rw [Nat.le_div_iff_mul_le (by positivity), ← Nat.pow_add, ← full]
      exact Nat.log2_self_le some

/-- A rounded mantissa is shifted once more if it has become too long, and keeps its value. -/
theorem shiftToTargetExponent_exact {mantissa : Nat} {exponent : Int} (small : mantissa ≤ 2 ^ 53)
    (low : -1074 ≤ exponent) (full : 2 ^ 52 ≤ mantissa ∨ exponent = -1074) :
    ∃ (shifted : ExtendedMantissa) (place : Int),
      shiftToTargetExponent Format.binary64 mantissa exponent .exact = (shifted, place) ∧
        Canonical shifted.mantissa place ∧
        (shifted.mantissa : ℚ) * 2 ^ place = mantissa * 2 ^ exponent := by
  refine ⟨_, _, rfl, ?_⟩
  rw [targetExponent_eq, mantissa_shiftRight, mantissa_ofMantissaAndAccuracy]
  rcases small.lt_or_eq with fits | rfl
  · have size : mantissa.log2 ≤ 52 := by
      rcases Nat.eq_zero_or_pos mantissa with rfl | positive
      · decide
      · exact Nat.le_of_lt_succ ((Nat.log2_lt (Nat.ne_of_gt positive)).mpr fits)
    have count : (lastPlace mantissa exponent - exponent).toNat = 0 := by
      rw [lastPlace]
      omega
    rw [count, Nat.pow_zero, Nat.div_one, Nat.cast_zero, add_zero]
    exact ⟨⟨fits, low, full⟩, rfl⟩
  · have count : (lastPlace (2 ^ 53) exponent - exponent).toNat = 1 := by
      rw [lastPlace, Nat.log2_two_pow]
      omega
    rw [count]
    refine ⟨⟨by norm_num, by omega, .inl (by norm_num)⟩, ?_⟩
    rw [Nat.cast_one, zpow_add_one₀ (by norm_num)]
    norm_num
    ring

section Format

variable {mantissa : Nat} {exponent : Int} {accuracy : Accuracy} {z : ℚ}

/-- A shift to the last place stands for the same magnitude in units of that place. -/
theorem shiftToTargetExponent_stands (stands : Stands (.ofMantissaAndAccuracy mantissa accuracy) z)
    (room : exponent ≤ lastPlace mantissa exponent) :
    ∃ (extended : ExtendedMantissa) (place : Int),
      shiftToTargetExponent Format.binary64 mantissa exponent accuracy = (extended, place) ∧
        (extended.mantissa < 2 ^ 53 ∧ -1074 ≤ place ∧
          (2 ^ 52 ≤ extended.mantissa ∨ place = -1074)) ∧
        ∃ w, Stands extended w ∧ w * 2 ^ place = z * 2 ^ exponent := by
  obtain ⟨count, reached⟩ : ∃ count : Nat, exponent + count = lastPlace mantissa exponent :=
    ⟨(lastPlace mantissa exponent - exponent).toNat, by omega⟩
  obtain ⟨fits, full⟩ := shifted_fits reached
  have same : (ExtendedMantissa.ofMantissaAndAccuracy mantissa accuracy >>> count).mantissa =
      mantissa / 2 ^ count := by
    rw [mantissa_shiftRight, mantissa_ofMantissaAndAccuracy]
  rw [← same] at fits full
  refine ⟨_, lastPlace mantissa exponent, ?_, ⟨fits, le_max_right _ _, full⟩, _,
    stands.shiftRight count, ?_⟩
  · have amount : (lastPlace mantissa exponent - exponent).toNat = count := by omega
    rw [shiftToTargetExponent, targetExponent_eq, shiftToExponent, amount, reached]
  · rw [← reached, zpow_add₀ two_ne_zero, zpow_natCast]
    field_simp

/-- A magnitude that is brought into the format is rounded. -/
theorem roundWithAccuracy_rounds (sign : Sign)
    (stands : Stands (.ofMantissaAndAccuracy mantissa accuracy) z)
    (room : exponent ≤ lastPlace mantissa exponent) :
    ∃ (rounded : Nat) (place : Int), Canonical rounded place ∧
      Rounds (z * 2 ^ exponent) (rounded * 2 ^ place) ∧
      roundWithAccuracy Format.binary64 sign mantissa exponent accuracy =
        if zero : rounded = 0 then .zero sign
        else .finite sign rounded place (Nat.pos_of_ne_zero zero) := by
  obtain ⟨extended, place, first, ⟨fits, low, full⟩, w, shifted, scaled⟩ :=
    shiftToTargetExponent_stands stands room
  obtain ⟨atLeast, atMost⟩ := roundedMantissa_le extended
  have small : extended.roundedMantissa ≤ 2 ^ 53 := by omega
  have rounds : Rounds (z * 2 ^ exponent) (extended.roundedMantissa * 2 ^ place) := by
    rw [← scaled]
    refine rounds_of_near shifted.rounded small low (full.imp_left fun enough => ?_)
    have cast : (2 : ℚ) ^ 52 ≤ extended.mantissa := mod_cast enough
    exact cast.trans shifted.bounds.1
  -- The second shift keeps the rounded magnitude.
  obtain ⟨final, finalPlace, second, canonical, kept⟩ :=
    shiftToTargetExponent_exact small low (full.imp_left fun enough => enough.trans atLeast)
  refine ⟨final.mantissa, finalPlace, canonical, ?_, ?_⟩
  · rwa [kept]
  · simp only [roundWithAccuracy, first, second]

theorem value_zero (sign : Sign) : value (.ofModel (.pack (.zero sign))) = 0 := by
  change valueOf (UnpackedFloat.unpack Format.binary64 (packedZero Format.binary64 sign)) = 0
  rw [unpack_packedZero]
  rfl

/-- The value of a magnitude that is brought into the format, up to the limit. -/
theorem value_round (sign : Sign) (stands : Stands (.ofMantissaAndAccuracy mantissa accuracy) z)
    (room : exponent ≤ lastPlace mantissa exponent) :
    ∃ r, Rounds (z * 2 ^ exponent) r ∧
      value (.ofModel (.pack (roundWithAccuracy Format.binary64 sign mantissa exponent accuracy))) =
        factor sign * min r limit := by
  obtain ⟨rounded, place, canonical, rounds, result⟩ :=
    roundWithAccuracy_rounds sign stands room
  refine ⟨rounded * 2 ^ place, rounds, ?_⟩
  rw [result]
  split
  · rename_i zero
    rw [value_zero, zero, Nat.cast_zero, zero_mul, min_eq_left limit_pos.le, mul_zero]
  · exact value_pack canonical

end Format

/-! ## Products and quotients -/

/-- The residual bits of a quotient stand for it. -/
theorem stands_accuracyOfFraction (whole : Nat) {rest divisor : Nat} (less : rest < divisor) :
    Stands (.ofMantissaAndAccuracy whole (accuracyOfFraction rest divisor))
      (whole + rest / divisor) := by
  have scale : (0 : ℚ) < divisor := mod_cast Nat.zero_lt_of_lt less
  have below : (rest : ℚ) / divisor < 1 := by
    rw [div_lt_one scale]
    exact mod_cast less
  rw [accuracyOfFraction]
  split
  · rename_i exact
    simp [Stands, ExtendedMantissa.ofMantissaAndAccuracy, exact]
  · rename_i some
    have positive : (0 : ℚ) < rest / divisor := by
      have rest : (0 : ℚ) < rest := mod_cast Nat.pos_of_ne_zero some
      positivity
    rcases lt_trichotomy (2 * rest) divisor with less | middle | greater
    · have half : (rest : ℚ) / divisor < 1 / 2 := by
        have cast : (2 : ℚ) * rest < divisor := mod_cast less
        rw [div_lt_iff₀ scale]
        linarith
      rw [compare_lt_iff_lt.mpr less]
      change (whole : ℚ) < whole + rest / divisor ∧ (whole : ℚ) + rest / divisor < whole + 1 / 2
      exact ⟨by linarith, by linarith⟩
    · have half : (rest : ℚ) / divisor = 1 / 2 := by
        have cast : (2 : ℚ) * rest = divisor := mod_cast middle
        rw [div_eq_iff scale.ne']
        linarith
      rw [compare_eq_iff_eq.mpr middle]
      exact congrArg _ half
    · have half : 1 / 2 < (rest : ℚ) / divisor := by
        have cast : (divisor : ℚ) < 2 * rest := mod_cast greater
        rw [lt_div_iff₀ scale]
        linarith
      rw [compare_gt_iff_gt.mpr greater]
      change (whole : ℚ) + 1 / 2 < whole + rest / divisor ∧ (whole : ℚ) + rest / divisor < whole + 1
      exact ⟨by linarith, by linarith⟩

section Operations

variable {mantissa mantissa' : Nat} {exponent exponent' : Int}

/-- A product has no more bits than there is room for in front of its exponent. -/
theorem mul_room (canonical : Canonical mantissa exponent)
    (canonical' : Canonical mantissa' exponent') (positive : 0 < mantissa)
    (positive' : 0 < mantissa') :
    exponent + exponent' ≤ lastPlace (mantissa * mantissa') (exponent + exponent') := by
  have some : mantissa * mantissa' ≠ 0 := Nat.ne_of_gt (Nat.mul_pos positive positive')
  rw [lastPlace]
  rcases canonical.full with full | least
  · have size : 52 ≤ (mantissa * mantissa').log2 := by
      rw [Nat.le_log2 some]
      exact full.trans (Nat.le_mul_of_pos_right _ positive')
    omega
  · rcases canonical'.full with full | least'
    · have size : 52 ≤ (mantissa * mantissa').log2 := by
        rw [Nat.le_log2 some]
        exact full.trans (Nat.le_mul_of_pos_left _ positive)
      omega
    · omega

/-- A long numerator gives a full mantissa. -/
theorem full_quotient {shift : Nat} (positive : 0 < mantissa) (positive' : 0 < mantissa')
    (amount : 53 + mantissa'.log2 ≤ mantissa.log2 + shift) :
    52 ≤ (mantissa * 2 ^ shift / mantissa').log2 := by
  have long : 2 ^ 52 * mantissa' ≤ mantissa * 2 ^ shift := by
    calc 2 ^ 52 * mantissa'
        ≤ 2 ^ 52 * 2 ^ (mantissa'.log2 + 1) := by gcongr; exact Nat.lt_log2_self.le
      _ = 2 ^ (53 + mantissa'.log2) := by rw [← pow_add]; congr 1; omega
      _ ≤ 2 ^ (mantissa.log2 + shift) := by gcongr; decide
      _ = 2 ^ mantissa.log2 * 2 ^ shift := pow_add ..
      _ ≤ mantissa * 2 ^ shift := by gcongr; exact Nat.log2_self_le (Nat.ne_of_gt positive)
  have full : 2 ^ 52 ≤ mantissa * 2 ^ shift / mantissa' :=
    (Nat.le_div_iff_mul_le positive').mpr long
  rwa [Nat.le_log2 (by omega)]

/-- A quotient is computed to as many bits as there is room for. -/
theorem divCore_eq (exponent exponent' : Int) (positive : 0 < mantissa)
    (positive' : 0 < mantissa') :
    ∃ (numerator : Nat) (place : Int),
      divCore Format.binary64 mantissa exponent mantissa' exponent' =
        (numerator / mantissa', place, accuracyOfFraction (numerator % mantissa') mantissa') ∧
      place ≤ lastPlace (numerator / mantissa') place ∧
      (numerator : ℚ) * 2 ^ place = mantissa * 2 ^ exponent / 2 ^ exponent' := by
  have target : Format.binary64.targetExponent
      (totalExponent mantissa exponent - totalExponent mantissa' exponent') =
      max (mantissa.log2 + exponent - (mantissa'.log2 + exponent') - 53) (-1074) := by
    have width : (Format.binary64.mantissaBits : Int) = 53 := rfl
    have least : Format.binary64.minExponent = -1074 := rfl
    rw [Format.targetExponent, totalExponent, totalExponent, width, least]
    congr 1
    omega
  refine ⟨_, _, rfl, ?_, ?_⟩ <;> rw [target]
  all_goals
    generalize least : min (exponent - exponent') (max (_ : Int) (-1074)) = place
    obtain ⟨shift, reached⟩ : ∃ shift : Nat, (exponent - exponent' - place).toNat = shift ∧
        place + shift = exponent - exponent' := ⟨_, rfl, by omega⟩
    rw [reached.1, Nat.shiftLeft_eq]
  · by_cases low : place ≤ -1074
    · exact le_trans low (le_max_right _ _)
    · have full : 52 ≤ (mantissa * 2 ^ shift / mantissa').log2 :=
        full_quotient positive positive' (by omega)
      rw [lastPlace]
      omega
  · have power : (2 : ℚ) ^ place * 2 ^ shift = 2 ^ exponent / 2 ^ exponent' := by
      rw [← zpow_natCast, ← zpow_add₀ (by norm_num), ← zpow_sub₀ (by norm_num), reached.2]
    push_cast
    rw [mul_div_assoc, ← power]
    ring

section Values

variable {x y : Float} {sign sign' : Sign} {positive : 0 < mantissa} {positive' : 0 < mantissa'}

/-- The product of two finite numbers is rounded. -/
theorem value_mul (left : x.toModel.unpack = .finite sign mantissa exponent positive)
    (right : y.toModel.unpack = .finite sign' mantissa' exponent' positive') :
    (x * y).isNaN = false ∧ ∃ r,
      Rounds (mantissa * 2 ^ exponent * (mantissa' * 2 ^ exponent')) r ∧
        value (x * y) = factor (sign * sign') * min r limit := by
  have product : x * y = .ofModel (.pack (roundWithAccuracy Format.binary64 (sign * sign')
      (mantissa * mantissa') (exponent + exponent') .exact)) := by
    change Float.ofModel (.pack (UnpackedFloat.mul _ x.toModel.unpack y.toModel.unpack)) = _
    rw [left, right]
    rfl
  have room :=
    mul_room (canonical_of_unpack left).1 (canonical_of_unpack right).1 positive positive'
  have stands : Stands (.ofMantissaAndAccuracy (mantissa * mantissa') .exact)
      (mantissa * mantissa' : Nat) := rfl
  obtain ⟨r, rounds, result⟩ := value_round (sign * sign') stands room
  have magnitude : ((mantissa * mantissa' : Nat) : ℚ) * 2 ^ (exponent + exponent') =
      mantissa * 2 ^ exponent * (mantissa' * 2 ^ exponent') := by
    rw [zpow_add₀ (by norm_num)]
    push_cast
    ring
  rw [magnitude] at rounds
  rw [product]
  exact ⟨isNaN_pack isNaN_roundWithAccuracy, r, rounds, result⟩

/-- The quotient of two finite numbers is rounded. -/
theorem value_div (left : x.toModel.unpack = .finite sign mantissa exponent positive)
    (right : y.toModel.unpack = .finite sign' mantissa' exponent' positive') :
    (x / y).isNaN = false ∧ ∃ r,
      Rounds (mantissa * 2 ^ exponent / (mantissa' * 2 ^ exponent')) r ∧
        value (x / y) = factor (sign / sign') * min r limit := by
  obtain ⟨numerator, place, core, room, magnitude⟩ :=
    divCore_eq exponent exponent' positive positive'
  have quotient : x / y = .ofModel (.pack (roundWithAccuracy Format.binary64 (sign / sign')
      (numerator / mantissa') place (accuracyOfFraction (numerator % mantissa') mantissa'))) := by
    change Float.ofModel (.pack (UnpackedFloat.div _ x.toModel.unpack y.toModel.unpack)) = _
    rw [left, right, UnpackedFloat.div, core]
  have stands := stands_accuracyOfFraction (numerator / mantissa') (Nat.mod_lt numerator positive')
  obtain ⟨r, rounds, result⟩ := value_round (sign / sign') stands room
  have cast : (0 : ℚ) < mantissa' := mod_cast positive'
  have whole : ((numerator / mantissa' : Nat) : ℚ) + (numerator % mantissa' : Nat) / mantissa' =
      numerator / mantissa' := by
    have parts : (numerator : ℚ) =
        mantissa' * (numerator / mantissa' : Nat) + (numerator % mantissa' : Nat) :=
      mod_cast (Nat.div_add_mod numerator mantissa').symm
    rw [eq_div_iff cast.ne', add_mul, div_mul_cancel₀ _ cast.ne', parts]
    ring
  have scaled : (numerator : ℚ) / mantissa' * 2 ^ place =
      mantissa * 2 ^ exponent / (mantissa' * 2 ^ exponent') := by
    rw [div_mul_eq_mul_div, magnitude, div_div, mul_comm (2 ^ exponent' : ℚ)]
  rw [whole, scaled] at rounds
  rw [quotient]
  exact ⟨isNaN_pack isNaN_roundWithAccuracy, r, rounds, result⟩

theorem isNaN_nan_div (left : x.toModel.unpack = .notANumber) : (x / y).isNaN = true := by
  have quotient : x / y = .ofModel (.pack .notANumber) := by
    change Float.ofModel (.pack (UnpackedFloat.div _ x.toModel.unpack y.toModel.unpack)) = _
    rw [left]
    rfl
  rw [quotient]
  decide +kernel

theorem value_zero_div (left : x.toModel.unpack = .zero sign)
    (right : y.toModel.unpack = .finite sign' mantissa' exponent' positive') :
    value (x / y) = 0 := by
  have quotient : x / y = .ofModel (.pack (.zero (sign / sign'))) := by
    change Float.ofModel (.pack (UnpackedFloat.div _ x.toModel.unpack y.toModel.unpack)) = _
    rw [left, right]
    rfl
  rw [quotient, value_zero]

theorem value_infinity_div (left : x.toModel.unpack = .infinity sign)
    (right : y.toModel.unpack = .finite sign' mantissa' exponent' positive') :
    value (x / y) = factor (sign / sign') * limit := by
  have quotient : x / y = .ofModel (.pack (.infinity (sign / sign'))) := by
    change Float.ofModel (.pack (UnpackedFloat.div _ x.toModel.unpack y.toModel.unpack)) = _
    rw [left, right]
    rfl
  rw [quotient]
  change valueOf (UnpackedFloat.unpack Format.binary64 (packedInfinity Format.binary64 _)) = _
  rw [unpack_packedInfinity, valueOf]

end Values

end Operations

/-! ## Positive numbers -/

/-- A number between zero and infinity. -/
structure Positive (x : Float) : Prop where
  number : x.isNaN = false
  above : 0 < value x
  below : value x < limit

section Positive

variable {x y : Float}

theorem positive_of_unpack {mantissa : Nat} {exponent : Int} {some : 0 < mantissa}
    (unpacked : x.toModel.unpack = .finite .positive mantissa exponent some) :
    Positive x ∧ value x = mantissa * 2 ^ exponent := by
  have shown : value x = mantissa * 2 ^ exponent := by
    rw [value, unpacked, valueOf, factor, one_mul]
  obtain ⟨canonical, bounded⟩ := canonical_of_unpack unpacked
  refine ⟨⟨?_, ?_, ?_⟩, shown⟩
  · change x.toModel.unpack.isNaN = false
    rw [unpacked]
    rfl
  · rw [shown]
    exact magnitude_pos some
  · rw [shown]
    exact magnitude_lt_limit canonical bounded

theorem Positive.unpacked (positive : Positive x) :
    ∃ mantissa exponent some, x.toModel.unpack = .finite .positive mantissa exponent some ∧
      value x = mantissa * 2 ^ exponent := by
  obtain ⟨number, above, below⟩ := positive
  change x.toModel.unpack.isNaN = false at number
  rw [value] at above below ⊢
  generalize x.toModel.unpack = unpacked at *
  cases unpacked with
  | notANumber => cases number
  | zero => exact absurd above (lt_irrefl 0)
  | infinity sign =>
    cases sign <;> simp only [valueOf, factor] at above below <;> linarith [limit_pos]
  | finite sign mantissa exponent some =>
    cases sign with
    | positive => exact ⟨mantissa, exponent, some, rfl, one_mul _⟩
    | negative =>
      simp only [valueOf, factor] at above
      have magnitude : (0 : ℚ) < mantissa * 2 ^ exponent := magnitude_pos some
      linarith

theorem Positive.representable (positive : Positive x) : Representable (value x) := by
  obtain ⟨mantissa, exponent, some, unpacked, shown⟩ := positive.unpacked
  rw [shown]
  exact (canonical_of_unpack unpacked).1.representable

/-- The product of positive numbers is rounded, and stays below infinity if it can. -/
theorem Positive.mul (left : Positive x) (right : Positive y) :
    (x * y).isNaN = false ∧ ∃ r, Rounds (value x * value y) r ∧ value (x * y) = min r limit := by
  obtain ⟨mantissa, exponent, some, unpacked, shown⟩ := left.unpacked
  obtain ⟨mantissa', exponent', some', unpacked', shown'⟩ := right.unpacked
  obtain ⟨number, r, rounds, result⟩ := value_mul unpacked unpacked'
  rw [← shown, ← shown'] at rounds
  exact ⟨number, r, rounds, result.trans (one_mul _)⟩

/-- The quotient of positive numbers is rounded, and stays below infinity if it can. -/
theorem Positive.div (left : Positive x) (right : Positive y) :
    (x / y).isNaN = false ∧ ∃ r, Rounds (value x / value y) r ∧ value (x / y) = min r limit := by
  obtain ⟨mantissa, exponent, some, unpacked, shown⟩ := left.unpacked
  obtain ⟨mantissa', exponent', some', unpacked', shown'⟩ := right.unpacked
  obtain ⟨number, r, rounds, result⟩ := value_div unpacked unpacked'
  rw [← shown, ← shown'] at rounds
  exact ⟨number, r, rounds, result.trans (one_mul _)⟩

/-- A number that the program takes apart into a mantissa above zero is positive. -/
theorem positive_of_ofFloat {mantissa : Nat} {exponent : Int}
    (read : Binary.ofFloat x = .finite false mantissa exponent) (some : 0 < mantissa) :
    Positive x ∧ value x = mantissa * 2 ^ exponent := by
  rw [ofFloat_eq] at read
  cases unpacked : x.toModel.unpack with
  | finite sign mantissa' exponent' some' =>
    rw [unpacked, partsOf, Binary.finite.injEq] at read
    obtain ⟨sign', rfl, rfl⟩ := read
    obtain rfl : sign = .positive := by
      cases sign with
      | positive => rfl
      | negative => cases sign'
    exact positive_of_unpack unpacked
  | zero =>
    rw [unpacked, partsOf, Binary.finite.injEq] at read
    omega
  | _ =>
    rw [unpacked, partsOf] at read
    cases read

theorem Positive.ofFloat (positive : Positive x) :
    ∃ mantissa exponent, 0 < mantissa ∧ Binary.ofFloat x = .finite false mantissa exponent ∧
      value x = mantissa * 2 ^ exponent := by
  obtain ⟨mantissa, exponent, some, unpacked, shown⟩ := positive.unpacked
  refine ⟨mantissa, exponent, some, ?_, shown⟩
  rw [ofFloat_eq, unpacked]
  rfl

/-- The positive numbers are the finite ones above zero. -/
theorem positive_iff : Positive x ↔ isFinite x = true ∧ 0.0 < x := by
  have zero : (0.0 : Float).isNaN = false := rfl
  have none : value 0.0 = 0 := rfl
  constructor
  · intro positive
    obtain ⟨mantissa, exponent, -, read, -⟩ := positive.ofFloat
    refine ⟨by rw [isFinite, read], ?_⟩
    rw [lt_iff_value zero positive.number, none]
    exact positive.above
  · rintro ⟨finite, above⟩
    rw [isFinite, ofFloat_eq] at finite
    have number : x.isNaN = false := by
      change x.toModel.unpack.isNaN = false
      cases unpacked : x.toModel.unpack with
      | notANumber =>
        rw [unpacked] at finite
        cases finite
      | _ => rfl
    rw [lt_iff_value zero number, none] at above
    refine ⟨number, above, ?_⟩
    rw [value] at above ⊢
    have known : InFormat x.toModel.unpack := inFormat_unpack _
    generalize x.toModel.unpack = unpacked at *
    cases unpacked with
    | notANumber => cases finite
    | infinity => cases finite
    | zero => exact limit_pos
    | finite sign mantissa exponent some =>
      have below := magnitude_lt_limit known.1 known.2
      have magnitude : (0 : ℚ) < mantissa * 2 ^ exponent := magnitude_pos some
      cases sign <;> simp only [valueOf, factor] at above ⊢ <;> linarith

/-- A number at the limit is infinite. -/
theorem ofFloat_of_limit (number : x.isNaN = false) (top : value x = limit) :
    Binary.ofFloat x = .infinite false := by
  change x.toModel.unpack.isNaN = false at number
  have known : InFormat x.toModel.unpack := inFormat_unpack _
  have some := limit_pos
  rw [value] at top
  rw [ofFloat_eq]
  generalize x.toModel.unpack = unpacked at *
  cases unpacked with
  | notANumber => cases number
  | zero => exact absurd top some.ne
  | infinity sign =>
    cases sign with
    | positive => rfl
    | negative =>
      simp only [valueOf, factor] at top
      linarith
  | finite sign mantissa exponent positive =>
    have below := magnitude_lt_limit known.1 known.2
    have magnitude : (0 : ℚ) < mantissa * 2 ^ exponent := magnitude_pos positive
    cases sign <;> simp only [valueOf, factor] at top <;> linarith

end Positive

end LoadSweep.Number
