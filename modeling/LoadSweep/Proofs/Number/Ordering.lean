import LoadSweep.Number.Decimal
import Mathlib

/-!
# Numbers are ordered

Of two floating-point numbers one is less than, equal to or greater than the other, unless one of
them is a NaN: then they have no order at all (`order?_eq_none_iff`).  Exchanging them reverses the
order (`order?_swap`), so the tests for less and for equal are two views of one comparison
(`lt_iff`, `beq_iff`).

A decimal numeral never reads as a NaN (`isNaN_nearest`): the operations that compute its value
divide and multiply by a power of ten, which is neither zero nor infinite.
-/

namespace LoadSweep.Number

open Float.Model

set_option autoImplicit false

/-! ## The order of two numbers -/

/-- How the first of two numbers compares with the second. -/
def order? (x y : Float) : Option Ordering :=
  x.toModel.compare y.toModel

theorem lt_iff (x y : Float) : x < y ↔ order? x y = some .lt := by
  have same : x < y ↔ (x.toModel.unpack.lt y.toModel.unpack) = true := decide_eq_true_iff
  rw [same, UnpackedFloat.lt, beq_iff_eq]
  rfl

theorem beq_iff (x y : Float) : (x == y) = true ↔ order? x y = some .eq := by
  have same : (x == y) = x.toModel.unpack.beq y.toModel.unpack := rfl
  rw [same, UnpackedFloat.beq, beq_iff_eq]
  rfl

theorem compare_swap (a b : UnpackedFloat) : (a.compare b).map Ordering.swap = b.compare a := by
  cases a with
  | notANumber => cases b <;> rfl
  | infinity sign => cases sign <;> rcases b with (_ | _) | _ | _ | _ <;> rfl
  | zero => rcases b with (_ | _) | _ | _ | ⟨_ | _, _⟩ <;> rfl
  | finite sign mantissa exponent =>
    cases b with
    | notANumber => rfl
    | infinity other => cases sign <;> cases other <;> rfl
    | zero => cases sign <;> rfl
    | finite other mantissa' exponent' =>
      have exponents : (compare exponent exponent').swap = compare exponent' exponent :=
        Std.OrientedCmp.eq_swap.symm
      have mantissas : (compare mantissa mantissa').swap = compare mantissa' mantissa :=
        Std.OrientedCmp.eq_swap.symm
      cases sign <;> cases other <;>
        simp [UnpackedFloat.compare, Ordering.swap_then, exponents, mantissas]

/-- Exchanging two numbers reverses their order. -/
theorem order?_swap (x y : Float) : order? y x = (order? x y).map Ordering.swap :=
  (compare_swap _ _).symm

theorem compare_eq_none_iff (a b : UnpackedFloat) :
    a.compare b = none ↔ a.isNaN = true ∨ b.isNaN = true := by
  fun_cases UnpackedFloat.compare a b <;> simp_all [UnpackedFloat.isNaN]

/-- Only a NaN has no order. -/
theorem order?_eq_none_iff (x y : Float) : order? x y = none ↔ x.isNaN = true ∨ y.isNaN = true :=
  compare_eq_none_iff _ _

theorem gt_iff (x y : Float) : y < x ↔ order? x y = some .gt := by
  rw [lt_iff, order?_swap x y]
  rcases order? x y with _ | _ | _ | _ <;> decide

/-- Only a NaN is not equal to itself. -/
theorem beq_self_iff (x : Float) : (x == x) = true ↔ x.isNaN = false := by
  rw [beq_iff]
  constructor
  · intro same
    rw [Bool.eq_false_iff]
    intro nan
    cases same.symm.trans ((order?_eq_none_iff x x).mpr (.inl nan))
  · intro number
    have swapped := order?_swap x x
    cases compared : order? x x with
    | none =>
      rcases (order?_eq_none_iff x x).mp compared with nan | nan <;> cases nan.symm.trans number
    | some order =>
      rw [compared] at swapped
      cases order with
      | eq => rfl
      | lt | gt => cases swapped

/-! ## What packing keeps -/

section Packing

variable {spec : Format}

/-- The bits of a NaN: the greatest exponent and a mantissa that is not zero. -/
theorem isNaN_unpack_iff (bits : BitVec spec.numBits) :
    (UnpackedFloat.unpack spec bits).isNaN = true ↔
      UnpackedFloat.unpackExponent bits = -1#_ ∧ UnpackedFloat.unpackMantissa bits ≠ 0#_ := by
  have never {statement : Prop} : false = true → statement := fun same => absurd same (by decide)
  rw [UnpackedFloat.unpack]
  split
  · rename_i top
    split
    · rename_i zero
      exact ⟨never, fun both => absurd zero both.2⟩
    · rename_i some
      exact ⟨fun _ => ⟨top, some⟩, fun _ => rfl⟩
  · rename_i below
    have other {value : UnpackedFloat} (number : value.isNaN = false) :
        value.isNaN = true ↔
          UnpackedFloat.unpackExponent bits = -1#_ ∧ UnpackedFloat.unpackMantissa bits ≠ 0#_ := by
      rw [number]
      exact ⟨never, fun both => absurd both.1 below⟩
    split
    · split <;> exact other rfl
    · exact other rfl

/-- A number does not become a NaN when it is brought into the format. -/
theorem isNaN_unpack_pack {value : UnpackedFloat} (number : value.isNaN = false) :
    (UnpackedFloat.unpack spec (value.pack spec)).isNaN = false := by
  rw [Bool.eq_false_iff, Ne, isNaN_unpack_iff]
  fun_cases UnpackedFloat.pack spec value with
  | case1 => cases number
  | case2 | case4 =>
    rw [UnpackedFloat.packedInfinity, UnpackedFloat.unpackMantissa_packComponents]
    exact fun both => both.2 rfl
  | case3 =>
    rw [UnpackedFloat.packedZero, UnpackedFloat.unpackMantissa_packComponents]
    exact fun both => both.2 rfl
  | case5 _ _ _ _ _ biased small _ =>
    have below : biased < 2 ^ spec.exponentBits - 1 := by omega
    rw [UnpackedFloat.unpackExponent_packComponents, BitVec.neg_one_eq_allOnes, ← BitVec.toNat_inj,
      BitVec.toNat_ofNat, BitVec.toNat_allOnes, Nat.mod_eq_of_lt (by omega)]
    omega
  | case6 =>
    have some := spec.he
    rw [UnpackedFloat.unpackExponent_packComponents, BitVec.zero_eq_neg_one_iff]
    omega

theorem isNaN_pack {value : UnpackedFloat} (number : value.isNaN = false) :
    (Float.ofModel (.pack value)).isNaN = false :=
  isNaN_unpack_pack number

end Packing

/-! ## Operations without a NaN -/

section Operations

open UnpackedFloat (Sign Accuracy)

variable {spec : Format} {sign : Sign} {mantissa : Nat} {exponent : Int}

theorem isNaN_roundWithAccuracy {accuracy : Accuracy} :
    (UnpackedFloat.roundWithAccuracy spec sign mantissa exponent accuracy).isNaN = false := by
  simp only [UnpackedFloat.roundWithAccuracy]
  split <;> rfl

theorem isNaN_mul {value : UnpackedFloat} (number : value.isNaN = false)
    {positive : 0 < mantissa} :
    (UnpackedFloat.mul spec value (.finite sign mantissa exponent positive)).isNaN = false := by
  cases value with
  | notANumber => cases number
  | finite => exact isNaN_roundWithAccuracy
  | infinity | zero => rfl

theorem isNaN_div {value : UnpackedFloat} (number : value.isNaN = false)
    {positive : 0 < mantissa} :
    (UnpackedFloat.div spec value (.finite sign mantissa exponent positive)).isNaN = false := by
  cases value with
  | notANumber => cases number
  | finite => exact isNaN_roundWithAccuracy
  | infinity | zero => rfl

theorem isNaN_ofInt (n : Int) : (UnpackedFloat.ofInt spec n).isNaN = false := by
  rw [UnpackedFloat.ofInt, UnpackedFloat.normalize]
  split
  · exact isNaN_roundWithAccuracy
  · rfl
  · exact isNaN_roundWithAccuracy

theorem isNaN_scientific (mantissa : Nat) (exponent : Int) :
    (UnpackedFloat.ofScientific spec mantissa exponent).isNaN = false := by
  rw [UnpackedFloat.ofScientific]
  split
  · rfl
  split
  · rfl
  split
  · rfl
  split
  · exact isNaN_mul rfl
  · exact isNaN_div rfl

end Operations

/-! ## Numerals -/

/-- Every tabulated power of ten is finite and not zero. -/
theorem exists_finite_power {exponent : Nat}
    (tabulated : exponent < Float.exactlyRepresentablePowersOfTen.size) :
    ∃ sign mantissa order positive,
      Float.exactlyRepresentablePowersOfTen[exponent].toModel.unpack =
        .finite sign mantissa order positive := by
  have each : ∀ power ∈ Float.exactlyRepresentablePowersOfTen.toList,
      (match power.toModel.unpack with | .finite .. => true | _ => false) = true := by
    decide +kernel
  have finite := each _ (List.getElem_mem (Array.length_toList ▸ tabulated))
  rw [Array.getElem_toList] at finite
  split at finite
  · rename_i unpacked
    exact ⟨_, _, _, _, unpacked⟩
  · cases finite

theorem isNaN_ofScientific (mantissa : Nat) (negative : Bool) (exponent : Nat) :
    (Float.ofScientific mantissa negative exponent).isNaN = false := by
  have whole (n : UInt64) : n.toFloat.toModel.unpack.isNaN = false :=
    isNaN_unpack_pack (isNaN_ofInt n.toNat)
  rw [Float.ofScientific]
  split
  · rename_i small
    have tabulated : exponent < Float.exactlyRepresentablePowersOfTen.size :=
      Nat.lt_succ_of_le small.2
    obtain ⟨_, _, _, _, unpacked⟩ := exists_finite_power tabulated
    split
    · refine isNaN_pack ?_
      rw [unpacked]
      exact isNaN_div (whole _)
    · refine isNaN_pack ?_
      rw [unpacked]
      exact isNaN_mul (whole _)
  · exact isNaN_pack (isNaN_scientific ..)

/-- A decimal numeral is never a NaN. -/
theorem isNaN_nearest (mantissa : Nat) (exponent : Int) :
    (nearest mantissa exponent).isNaN = false := by
  simp only [nearest]
  split
  · decide
  split
  · decide
  split <;> exact isNaN_ofScientific ..

end LoadSweep.Number
