import LoadSweep.Number.Binary
import LoadSweep.Proofs.Number.Ordering

/-!
# The values of numbers

A finite number is a sign, a mantissa and an exponent, and its value is a rational number (`value`).
Infinity counts as the power of two that no finite number reaches (`limit`), so that a result that
is too large is a minimum.  The fields of the encoding decide what a number is taken apart into
(`unpack_cases`); the program reads the same fields (`ofFloat_eq`), and what is put together within
the format comes apart as it was (`unpack_pack_finite`).

The encoding keeps mantissas as long as it can.  Therefore the number with the greater exponent is
the greater one, and numbers other than NaN are ordered by their values (`lt_iff_value`,
`le_iff_value`).
-/

namespace LoadSweep.Number

open Float.Model
open UnpackedFloat hiding unpack pack

set_option autoImplicit false

/-- A mantissa and an exponent as the format keeps them: the mantissa has as many bits as there is
room for, unless the exponent is the least there is. -/
structure Canonical (mantissa : Nat) (exponent : Int) : Prop where
  fits : mantissa < 2 ^ 53
  low : -1074 ≤ exponent
  full : 2 ^ 52 ≤ mantissa ∨ exponent = -1074

/-- The power of two that no finite number reaches. -/
def limit : ℚ := 2 ^ 1024

/-- A sign as a factor. -/
def factor : Sign → ℚ
  | .negative => -1
  | .positive => 1

/-- The value of a number that is taken apart.  The limit stands for infinity. -/
def valueOf : UnpackedFloat → ℚ
  | .notANumber => 0
  | .zero _ => 0
  | .infinity sign => factor sign * limit
  | .finite sign mantissa exponent _ => factor sign * (mantissa * 2 ^ exponent)

/-- The value of a number, for one that is not a NaN. -/
def value (x : Float) : ℚ :=
  valueOf x.toModel.unpack

/-- A number that is taken apart as the format keeps it. -/
def InFormat : UnpackedFloat → Prop
  | .finite _ mantissa exponent _ => Canonical mantissa exponent ∧ exponent ≤ 971
  | _ => True

/-! ## Fields of the encoding -/

section Fields

variable (bits : BitVec Format.binary64.numBits)

theorem toNat_unpackMantissa : (unpackMantissa bits).toNat = bits.toNat % 2 ^ 52 := by
  simp [unpackMantissa]

theorem toNat_unpackExponent : (unpackExponent bits).toNat = bits.toNat / 2 ^ 52 % 2 ^ 11 := by
  simp [unpackExponent, Nat.shiftRight_eq_div_pow]

theorem toNat_unpackSign : (unpackSign bits).toNat = bits.toNat / 2 ^ 63 := by
  have bound : bits.toNat < 2 ^ 64 := bits.isLt
  simp [unpackSign, Nat.shiftRight_eq_div_pow]
  omega

theorem toNat_leading :
    (1#1 ++ unpackMantissa bits).toNat = 2 ^ 52 + (unpackMantissa bits).toNat := by
  rw [BitVec.toNat_append, ← Nat.shiftLeft_add_eq_or_of_lt (unpackMantissa bits).isLt]
  simp [Nat.shiftLeft_eq]

/-- What an encoding is taken apart into, by the numbers in its fields. -/
theorem unpack_cases :
    let sign := Sign.ofBitVec (unpackSign bits)
    let exponent := (unpackExponent bits).toNat
    let fraction := (unpackMantissa bits).toNat
    let unpacked := UnpackedFloat.unpack Format.binary64 bits
    (exponent = 2047 ∧ fraction = 0 ∧ unpacked = .infinity sign) ∨
      (exponent = 2047 ∧ fraction ≠ 0 ∧ unpacked = .notANumber) ∨
      (exponent = 0 ∧ fraction = 0 ∧ unpacked = .zero sign) ∨
      (exponent = 0 ∧ ∃ positive, unpacked = .finite sign fraction (-1074) positive) ∨
      (0 < exponent ∧ exponent < 2047 ∧
        ∃ positive, unpacked = .finite sign (2 ^ 52 + fraction) (exponent - 1075) positive) := by
  intro sign exponent fraction unpacked
  have room : exponent < 2 ^ 11 := (unpackExponent bits).isLt
  have top : unpackExponent bits = -1#_ ↔ exponent = 2047 := BitVec.toNat_inj.symm
  have least : unpackExponent bits = 0#_ ↔ exponent = 0 := BitVec.toNat_inj.symm
  have none : unpackMantissa bits = 0#_ ↔ fraction = 0 := BitVec.toNat_inj.symm
  by_cases isTop : exponent = 2047
  · by_cases isNone : fraction = 0
    · exact .inl ⟨isTop, isNone, (if_pos (top.mpr isTop)).trans (if_pos (none.mpr isNone))⟩
    · refine .inr (.inl ⟨isTop, isNone, ?_⟩)
      exact (if_pos (top.mpr isTop)).trans (if_neg (none.not.mpr isNone))
  · have notTop := top.not.mpr isTop
    by_cases isLeast : exponent = 0
    · by_cases isNone : fraction = 0
      · refine .inr (.inr (.inl ⟨isLeast, isNone, ?_⟩))
        exact (if_neg notTop).trans ((if_pos (least.mpr isLeast)).trans (dif_pos (none.mpr isNone)))
      · have read : unpacked = .finite sign fraction (exponent - 1075 + 1) _ :=
          (if_neg notTop).trans
            ((if_pos (least.mpr isLeast)).trans (dif_neg (none.not.mpr isNone)))
        refine .inr (.inr (.inr (.inl ⟨isLeast, Nat.pos_of_ne_zero isNone, read.trans ?_⟩)))
        simp only [isLeast]
        rfl
    · have notLeast := least.not.mpr isLeast
      have read : unpacked = .finite sign (1#1 ++ unpackMantissa bits).toNat (exponent - 1075) _ :=
        (if_neg notTop).trans (if_neg notLeast)
      refine .inr (.inr (.inr (.inr ⟨Nat.pos_of_ne_zero isLeast, by omega, by omega, ?_⟩)))
      rw [read, UnpackedFloat.finite.injEq]
      exact ⟨rfl, toNat_leading bits, rfl⟩

/-- The sign is the first bit. -/
theorem ofBitVec_unpackSign :
    (Sign.ofBitVec (unpackSign bits) == .negative) = (bits.toNat / 2 ^ 63 == 1) := by
  have first : (unpackSign bits).toNat < 2 := (unpackSign bits).isLt
  rw [← toNat_unpackSign, Sign.ofBitVec]
  split
  · rename_i zero
    rw [zero]
    rfl
  · rename_i other
    have one : (unpackSign bits).toNat = 1 := by
      have some : (unpackSign bits).toNat ≠ 0 := fun same => other (BitVec.eq_of_toNat_eq same)
      omega
    rw [one]
    rfl

theorem inFormat_unpack : InFormat (UnpackedFloat.unpack Format.binary64 bits) := by
  have small : (unpackMantissa bits).toNat < 2 ^ 52 := (unpackMantissa bits).isLt
  rcases unpack_cases bits with ⟨-, -, read⟩ | ⟨-, -, read⟩ | ⟨-, -, read⟩ |
      ⟨-, _, read⟩ | ⟨some, below, _, read⟩ <;> rw [read]
  · trivial
  · trivial
  · trivial
  · exact ⟨⟨by omega, Int.le_refl _, .inr rfl⟩, by decide⟩
  · exact ⟨⟨by omega, by omega, .inl (Nat.le_add_right _ _)⟩, by omega⟩

/-- A number that is taken apart, as the program has it. -/
def partsOf : UnpackedFloat → Binary
  | .notANumber => .nan
  | .infinity sign => .infinite (sign == .negative)
  | .zero sign => .finite (sign == .negative) 0 (-1074)
  | .finite sign mantissa exponent _ => .finite (sign == .negative) mantissa exponent

theorem partsOf_unpack :
    partsOf (UnpackedFloat.unpack Format.binary64 bits) =
      let negative := bits.toNat / 2 ^ 63 == 1
      let exponent : Nat := bits.toNat / 2 ^ 52 % 2 ^ 11
      let fraction := bits.toNat % 2 ^ 52
      if exponent == 2 ^ 11 - 1 then
        if fraction == 0 then .infinite negative else .nan
      else if exponent == 0 then .finite negative fraction (-1074)
      else .finite negative (2 ^ 52 + fraction) ((exponent : Int) - 1075) := by
  rw [← ofBitVec_unpackSign, ← toNat_unpackExponent, ← toNat_unpackMantissa]
  rcases unpack_cases bits with ⟨top, none, read⟩ | ⟨top, some, read⟩ | ⟨least, none, read⟩ |
      ⟨least, _, read⟩ | ⟨some, below, _, read⟩ <;> rw [read]
  · simp [top, none, partsOf]
  · simp [top, some, partsOf]
  · simp [least, none, partsOf]
  · simp [least, partsOf]
  · have notTop : (unpackExponent bits).toNat ≠ 2047 := Nat.ne_of_lt below
    have notLeast : (unpackExponent bits).toNat ≠ 0 := Nat.ne_of_gt some
    simp [notTop, notLeast, partsOf]

end Fields

/-- A finite number is taken apart as the format keeps it. -/
theorem canonical_of_unpack {x : Float} {sign : Sign} {mantissa : Nat} {exponent : Int}
    {positive : 0 < mantissa}
    (unpacked : x.toModel.unpack = .finite sign mantissa exponent positive) :
    Canonical mantissa exponent ∧ exponent ≤ 971 := by
  have known : InFormat x.toModel.unpack := inFormat_unpack x.toModel.toBits.toBitVec
  rw [unpacked] at known
  exact known

/-- The program takes numbers apart as the format says. -/
theorem ofFloat_eq (x : Float) : Binary.ofFloat x = partsOf x.toModel.unpack :=
  (partsOf_unpack x.toModel.toBits.toBitVec).symm

/-! ## The order of values -/

section Magnitudes

variable {mantissa other : Nat} {exponent higher : Int}

theorem magnitude_pos (positive : 0 < mantissa) : 0 < (mantissa : ℚ) * 2 ^ exponent := by
  positivity

/-- A finite number stays below the limit. -/
theorem magnitude_lt_limit (canonical : Canonical mantissa exponent) (bounded : exponent ≤ 971) :
    (mantissa : ℚ) * 2 ^ exponent < limit := by
  have fits : (mantissa : ℚ) < 2 ^ 53 := mod_cast canonical.fits
  calc (mantissa : ℚ) * 2 ^ exponent
      < 2 ^ 53 * 2 ^ exponent := by gcongr
    _ ≤ 2 ^ 53 * 2 ^ (971 : ℤ) := by gcongr; norm_num
    _ = limit := by rw [limit, zpow_ofNat, ← pow_add]

/-- Of two magnitudes the one with the greater exponent is greater. -/
theorem magnitude_lt (canonical : Canonical mantissa exponent) (above : Canonical other higher)
    (below : exponent < higher) :
    (mantissa : ℚ) * 2 ^ exponent < other * 2 ^ higher := by
  have fits : (mantissa : ℚ) < 2 ^ 53 := mod_cast canonical.fits
  have full : (2 : ℚ) ^ 52 ≤ other := by
    have low := canonical.low
    exact mod_cast above.full.resolve_right (by omega)
  calc (mantissa : ℚ) * 2 ^ exponent
      < 2 ^ 53 * 2 ^ exponent := by gcongr
    _ = 2 ^ 52 * 2 ^ (exponent + 1) := by rw [zpow_add_one₀ (by norm_num)]; ring
    _ ≤ other * 2 ^ higher := by gcongr <;> [norm_num; omega]

/-- Magnitudes are compared by their exponents first. -/
theorem cmp_magnitude (canonical : Canonical mantissa exponent) (above : Canonical other higher) :
    cmp ((mantissa : ℚ) * 2 ^ exponent) (other * 2 ^ higher) =
      (compare exponent higher).then (compare mantissa other) := by
  rcases lt_trichotomy exponent higher with below | rfl | beyond
  · rw [compare_lt_iff_lt.mpr below, (magnitude_lt canonical above below).cmp_eq_lt]
    rfl
  · have scale : (0 : ℚ) < 2 ^ exponent := by positivity
    have same : compare exponent exponent = .eq := compare_eq_iff_eq.mpr rfl
    have cast : StrictMono ((↑) : Nat → ℚ) := Nat.strictMono_cast
    rw [cmp_mul_pos_right scale, same, cast.cmp_map_eq, cmp_eq_compare]
    rfl
  · rw [compare_gt_iff_gt.mpr beyond, (magnitude_lt above canonical beyond).cmp_eq_gt]
    rfl

/-- Finite numbers of one sign are compared by their fields. -/
theorem compare_finite (sign : Sign) (canonical : Canonical mantissa exponent)
    (above : Canonical other higher) {positive : 0 < mantissa} {positive' : 0 < other} :
    (finite sign mantissa exponent positive).compare (finite sign other higher positive') =
      some (cmp (factor sign * (mantissa * 2 ^ exponent))
        (factor sign * (other * 2 ^ higher))) := by
  cases sign with
  | positive =>
    rw [factor, one_mul, one_mul, cmp_magnitude canonical above]
    rfl
  | negative =>
    have negative : factor .negative < 0 := neg_one_lt_zero
    rw [cmp_mul_neg_left negative, ← cmp_swap, cmp_magnitude canonical above]
    rfl

end Magnitudes

theorem limit_pos : 0 < limit := by
  rw [limit]
  positivity

/-- The magnitude of a finite number lies between zero and the limit. -/
theorem within_limit {number : UnpackedFloat} (known : InFormat number) :
    match number with
    | .finite _ mantissa exponent _ =>
      0 < (mantissa : ℚ) * 2 ^ exponent ∧ (mantissa : ℚ) * 2 ^ exponent < limit
    | _ => True := by
  cases number with
  | finite _ _ _ positive => exact ⟨magnitude_pos positive, magnitude_lt_limit known.1 known.2⟩
  | _ => trivial

theorem eq_cmp_of_lt {p q : ℚ} (less : p < q) : some Ordering.lt = some (cmp p q) :=
  congrArg some less.cmp_eq_lt.symm

theorem eq_cmp_of_gt {p q : ℚ} (greater : q < p) : some Ordering.gt = some (cmp p q) :=
  congrArg some greater.cmp_eq_gt.symm

/-- Numbers that are taken apart are compared by their values. -/
theorem compare_eq_cmp {a b : UnpackedFloat} (left : InFormat a) (right : InFormat b)
    (number : a.isNaN = false) (other : b.isNaN = false) :
    a.compare b = some (cmp (valueOf a) (valueOf b)) := by
  have top := limit_pos
  have first := within_limit left
  have second := within_limit right
  cases a with
  | notANumber => cases number
  | _ sign =>
    cases b with
    | notANumber => cases other
    | _ sign' =>
      -- Unless both are finite and of one sign, their signs and kinds decide.
      dsimp only at first second
      cases sign <;> cases sign' <;>
        first
        | exact compare_finite _ left.1 right.1
        | exact congrArg some (cmp_self_eq_eq _).symm
        | exact eq_cmp_of_lt (by simp only [valueOf, factor]; linarith)
        | exact eq_cmp_of_gt (by simp only [valueOf, factor]; linarith)

/-- Numbers other than NaN are ordered by their values. -/
theorem order?_eq_cmp {x y : Float} (number : x.isNaN = false) (other : y.isNaN = false) :
    order? x y = some (cmp (value x) (value y)) :=
  compare_eq_cmp (inFormat_unpack _) (inFormat_unpack _) number other

theorem lt_iff_value {x y : Float} (number : x.isNaN = false) (other : y.isNaN = false) :
    x < y ↔ value x < value y := by
  rw [lt_iff, order?_eq_cmp number other, Option.some.injEq, cmp_eq_lt_iff]

theorem le_iff_value {x y : Float} (number : x.isNaN = false) (other : y.isNaN = false) :
    x ≤ y ↔ value x ≤ value y := by
  have same : x ≤ y ↔ (x.toModel.unpack.le y.toModel.unpack) = true := decide_eq_true_iff
  have order : x.toModel.unpack.compare y.toModel.unpack = some (cmp (value x) (value y)) :=
    order?_eq_cmp number other
  rw [same, UnpackedFloat.le, order, Option.any_some, Ordering.isLE_iff_ne_gt]
  exact (not_congr (cmp_eq_gt_iff _ _)).trans not_lt

theorem numbers_of_lt {x y : Float} (less : x < y) : x.isNaN = false ∧ y.isNaN = false := by
  rw [lt_iff] at less
  have ordered : order? x y ≠ none := by
    rw [less]
    exact Option.some_ne_none _
  have numbers := (order?_eq_none_iff x y).not.mp ordered
  simpa using numbers

/-! ## Numbers that are put together -/

section Packing

variable {sign : Sign} {mantissa : Nat} {exponent : Int} {positive : 0 < mantissa}

theorem ofBitVec_unpackSign_packComponents (exponent : BitVec 11) (fraction : BitVec 52) :
    Sign.ofBitVec (unpackSign (packComponents Format.binary64 sign exponent fraction)) = sign := by
  simp only [unpackSign, packComponents, BitVec.extractLsb]
  rw [BitVec.extractLsb'_append_eq_of_le (by omega), BitVec.extractLsb'_append_eq_of_le (by omega)]
  cases sign <;> rfl

/-- What is put together from fields is taken apart by the numbers in them. -/
theorem unpack_packComponents_cases (sign : Sign) (exponent : BitVec 11)
    (fraction : BitVec 52) :
    let unpacked := UnpackedFloat.unpack Format.binary64
      (packComponents Format.binary64 sign exponent fraction)
    (exponent.toNat = 2047 ∧ fraction.toNat = 0 ∧ unpacked = .infinity sign) ∨
      (exponent.toNat = 2047 ∧ fraction.toNat ≠ 0 ∧ unpacked = .notANumber) ∨
      (exponent.toNat = 0 ∧ fraction.toNat = 0 ∧ unpacked = .zero sign) ∨
      (exponent.toNat = 0 ∧
        ∃ positive, unpacked = .finite sign fraction.toNat (-1074) positive) ∨
      (0 < exponent.toNat ∧ exponent.toNat < 2047 ∧ ∃ positive,
        unpacked = .finite sign (2 ^ 52 + fraction.toNat) (exponent.toNat - 1075) positive) := by
  have fields := unpack_cases (packComponents Format.binary64 sign exponent fraction)
  simpa only [unpackExponent_packComponents, unpackMantissa_packComponents,
    ofBitVec_unpackSign_packComponents] using fields

/-- Zero is taken apart as it was put together. -/
theorem unpack_packedZero :
    UnpackedFloat.unpack Format.binary64 (packedZero Format.binary64 sign) = .zero sign := by
  cases sign <;> rfl

theorem unpack_packedInfinity :
    UnpackedFloat.unpack Format.binary64 (packedInfinity Format.binary64 sign) =
      .infinity sign := by
  cases sign <;> rfl

/-- The number in the exponent field. -/
theorem biased_eq (low : -1074 ≤ exponent) :
    ((exponent + Format.binary64.exponentBias + Format.binary64.mantissaBitsWithoutImplicit).toNat :
      Int) = exponent + 1075 := by
  have bias : (Format.binary64.exponentBias : Int) = 1023 := rfl
  have width : (Format.binary64.mantissaBitsWithoutImplicit : Int) = 52 := rfl
  rw [bias, width]
  omega

/-- A normal number is put together without its first bit. -/
theorem unpack_pack_normal (normal : 2 ^ 52 ≤ mantissa) (fits : mantissa < 2 ^ 53)
    (low : -1074 ≤ exponent) (bounded : exponent ≤ 971) :
    UnpackedFloat.unpack Format.binary64
        (UnpackedFloat.pack Format.binary64 (.finite sign mantissa exponent positive)) =
      .finite sign mantissa exponent positive := by
  have field := biased_eq low
  have values : 2 ^ Format.binary64.exponentBits = 2048 := rfl
  have width : Format.binary64.mantissaBits = 53 := rfl
  have bits : mantissa.log2 + 1 = 53 := by
    rw [(Nat.log2_eq_iff (Nat.ne_of_gt positive)).mpr ⟨normal, fits⟩]
  rw [UnpackedFloat.pack]
  generalize (exponent + Format.binary64.exponentBias +
    Format.binary64.mantissaBitsWithoutImplicit).toNat = biased at field
  have room : ¬ 2 ^ Format.binary64.exponentBits ≤ biased + 1 := by omega
  have shown : (BitVec.ofNat 11 biased).toNat = biased := by
    rw [BitVec.toNat_ofNat, Nat.mod_eq_of_lt (by omega)]
  have fraction : (BitVec.ofNat 52 mantissa).toNat = mantissa - 2 ^ 52 := by
    rw [BitVec.toNat_ofNat]
    omega
  rw [if_neg room, width, if_pos bits]
  rcases unpack_packComponents_cases sign (BitVec.ofNat 11 biased) (BitVec.ofNat 52 mantissa) with
    ⟨top, -⟩ | ⟨top, -⟩ | ⟨least, -⟩ | ⟨least, -⟩ | ⟨-, -, leading, read⟩
  · omega
  · omega
  · omega
  · omega
  · refine read.trans ?_
    rw [UnpackedFloat.finite.injEq]
    refine ⟨rfl, ?_, ?_⟩ <;> omega

/-- A subnormal number is put together with all its bits and no exponent. -/
theorem unpack_pack_subnormal (small : mantissa < 2 ^ 52) :
    UnpackedFloat.unpack Format.binary64
        (UnpackedFloat.pack Format.binary64 (.finite sign mantissa (-1074) positive)) =
      .finite sign mantissa (-1074) positive := by
  have bits : ¬ mantissa.log2 + 1 = Format.binary64.mantissaBits := by
    have below := (Nat.log2_lt (Nat.ne_of_gt positive)).mpr small
    have width : Format.binary64.mantissaBits = 53 := rfl
    omega
  have room : ¬ 2 ^ Format.binary64.exponentBits ≤ ((-1074 : Int) + Format.binary64.exponentBias +
      Format.binary64.mantissaBitsWithoutImplicit).toNat + 1 := by decide
  have fraction : (BitVec.ofNat 52 mantissa).toNat = mantissa := by
    rw [BitVec.toNat_ofNat, Nat.mod_eq_of_lt small]
  have shown : (0 : BitVec 11).toNat = 0 := rfl
  rw [UnpackedFloat.pack, if_neg room, if_neg bits]
  rcases unpack_packComponents_cases sign 0 (BitVec.ofNat 52 mantissa) with
    ⟨top, -⟩ | ⟨top, -⟩ | ⟨-, none, -⟩ | ⟨-, leading, read⟩ | ⟨some, -⟩
  · omega
  · omega
  · omega
  · refine read.trans ?_
    rw [UnpackedFloat.finite.injEq]
    exact ⟨rfl, fraction, rfl⟩
  · omega

/-- A finite number within the format is taken apart as it was put together. -/
theorem unpack_pack_finite (canonical : Canonical mantissa exponent) (bounded : exponent ≤ 971) :
    UnpackedFloat.unpack Format.binary64
        (UnpackedFloat.pack Format.binary64 (.finite sign mantissa exponent positive)) =
      .finite sign mantissa exponent positive := by
  by_cases normal : 2 ^ 52 ≤ mantissa
  · exact unpack_pack_normal normal canonical.fits canonical.low bounded
  · obtain rfl := canonical.full.resolve_left normal
    exact unpack_pack_subnormal (Nat.lt_of_not_le normal)

/-- A finite number beyond the format becomes infinite. -/
theorem unpack_pack_beyond (beyond : 972 ≤ exponent) :
    UnpackedFloat.unpack Format.binary64
        (UnpackedFloat.pack Format.binary64 (.finite sign mantissa exponent positive)) =
      .infinity sign := by
  have low : -1074 ≤ exponent := by omega
  have field := biased_eq low
  have values : 2 ^ Format.binary64.exponentBits = 2048 := rfl
  rw [UnpackedFloat.pack, if_pos (by omega), unpack_packedInfinity]

/-- Putting a number together keeps its value up to the limit. -/
theorem value_pack (canonical : Canonical mantissa exponent) :
    value (Float.ofModel (.pack (.finite sign mantissa exponent positive))) =
      factor sign * min ((mantissa : ℚ) * 2 ^ exponent) limit := by
  change valueOf (UnpackedFloat.unpack Format.binary64 (UnpackedFloat.pack Format.binary64
    (.finite sign mantissa exponent positive))) = _
  by_cases bounded : exponent ≤ 971
  · rw [unpack_pack_finite canonical bounded, valueOf,
      min_eq_left (magnitude_lt_limit canonical bounded).le]
  · have beyond : 972 ≤ exponent := by omega
    have full : (2 : ℚ) ^ 52 ≤ mantissa := mod_cast canonical.full.resolve_right (by omega)
    have reached : limit ≤ mantissa * 2 ^ exponent := by
      calc limit = 2 ^ 52 * 2 ^ (972 : ℤ) := by rw [limit, zpow_ofNat, ← pow_add]
        _ ≤ mantissa * 2 ^ exponent := by gcongr; norm_num
    rw [unpack_pack_beyond beyond, valueOf, min_eq_right reached]

end Packing

end LoadSweep.Number
