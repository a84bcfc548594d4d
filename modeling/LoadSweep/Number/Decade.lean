import LoadSweep.Number.Binary

/-!
# Powers of ten near a number

The scale of a chart starts from the power of ten below the largest value.  The exponent is the
floor of the decimal logarithm *as a floating-point number*: a value so close below a power of ten
that its logarithm rounds to a whole number counts as having reached it.  The power is computed by
repeated squaring in floating point, a negative one as the reciprocal of the positive one.

The precision of the logarithm is not specified.  Here it is taken as correctly rounded
(`floorLog10`); a library may be off in the last places, and find another floor for a few numbers
just below a power of ten, such as `9.99999999999998e-15`.  What follows from the exponent alone is
kept apart (`ceilingFrom`), so that it can be told what another logarithm leads to
(`ceiling_of_close_logarithm`).
-/

namespace LoadSweep.Number

set_option autoImplicit false

/-- `result · base ^ exponent` by repeated squaring, with a bound on the number of squarings. -/
def powerBySquaring : Nat → Float → Float → Nat → Float
  | 0, result, _, _ => result
  | bound + 1, result, base, exponent =>
    let result := if exponent % 2 == 1 then result * base else result
    if exponent / 2 == 0 then result
    else powerBySquaring bound result (base * base) (exponent / 2)

/-- A whole power of ten. -/
def powerOfTen (exponent : Int) : Float :=
  let power := powerBySquaring 64 1.0 10.0 exponent.natAbs
  if exponent < 0 then 1.0 / power else power

/-- The natural logarithm of ten, in units of `10 ^ -18`. -/
def naturalLogOfTen : Nat := 2302585092994045684

/-- The exponent of the last place of the floats just below a whole number that is not zero, less
one: half the gap to the next smaller float is two to this power. -/
def halfGapBelow (n : Int) : Int :=
  let size := n.natAbs
  let gap : Int := (size.log2 : Int) - 52
  if n > 0 && size == Nat.pow 2 size.log2 then gap - 2 else gap - 1

/-- Whether the decimal logarithm of `mantissa · 2 ^ exponent`, which lies below `10 ^ target`,
rounds to `target`.  To first order the logarithm falls short of it by the relative distance to the
power divided by the natural logarithm of ten. -/
def logarithmReaches (target : Int) (mantissa : Nat) (exponent : Int) : Bool :=
  if target == 0 then false
  else
    let halfGap := halfGapBelow target
    -- the value and the power, over one common denominator
    let value := mantissa * Nat.pow 2 exponent.toNat * Nat.pow 10 (-target).toNat
    let power := Nat.pow 10 target.toNat * Nat.pow 2 (-exponent).toNat
    let shortfall := (power - value) * Nat.pow 10 18 * Nat.pow 2 (-halfGap).toNat
    shortfall ≤ naturalLogOfTen * power * Nat.pow 2 halfGap.toNat

/-- The floor of the decimal logarithm of `mantissa · 2 ^ exponent`, for a positive mantissa. -/
def floorLog10 (mantissa : Nat) (exponent : Int) : Int :=
  let order := decimalOrder mantissa exponent
  if logarithmReaches (order + 1) mantissa exponent then order + 1 else order

/-- The steps that a rounded maximum may take within a decade. -/
def niceSteps : List Float := [1.0, 2.0, 2.5, 5.0, 10.0]

/-- Rounds a number up to 1, 2, 2.5, 5 or 10 times the power of ten with this exponent. -/
def ceilingFrom (exponent : Int) (max : Float) : Float :=
  let magnitude := powerOfTen exponent
  let scaled := max / magnitude
  (niceSteps.find? fun step => scaled ≤ step).getD 10.0 * magnitude

/-- Rounds a positive number up to 1, 2, 2.5, 5 or 10 times a power of ten; anything else gives
one. -/
def niceCeiling (max : Float) : Float :=
  match Binary.ofFloat max with
  | .finite false mantissa exponent =>
    if mantissa == 0 then 1.0 else ceilingFrom (floorLog10 mantissa exponent) max
  | _ => 1.0

end LoadSweep.Number
