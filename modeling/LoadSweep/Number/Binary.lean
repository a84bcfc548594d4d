/-!
# The exact value of a binary floating-point number

Every text that shows a number, and the scale of a chart, are computed from the exact value of the
number and not from another rounded one.  A finite number is `mantissa · 2 ^ exponent` with a sign;
its magnitude is also given as a quotient of natural numbers.
-/

namespace LoadSweep.Number

set_option autoImplicit false

/-- A binary floating-point number, taken apart. -/
inductive Binary where
  | nan
  | infinite (negative : Bool)
  | finite (negative : Bool) (mantissa : Nat) (exponent : Int)
  deriving Repr, DecidableEq

/-- The leading bit of the mantissa of a normal number, which the encoding leaves out. -/
def leadingBit : Nat := 4503599627370496

/-- How many values the exponent field of the encoding has. -/
def exponentValues : Nat := 2048

/-- Takes a number apart.  A subnormal number has the exponent of the smallest normal ones and
lacks their leading bit. -/
def Binary.ofFloat (x : Float) : Binary :=
  let bits := x.toBits.toNat
  let negative := bits / (leadingBit * exponentValues) == 1
  let exponent : Nat := bits / leadingBit % exponentValues
  let fraction := bits % leadingBit
  if exponent == exponentValues - 1 then
    if fraction == 0 then .infinite negative else .nan
  else if exponent == 0 then .finite negative fraction (-1074)
  else .finite negative (leadingBit + fraction) ((exponent : Int) - 1075)

/-- A natural number times a power of a base, as a quotient of natural numbers. -/
def scaledQuotient (base n : Nat) (exponent : Int) : Nat × Nat :=
  match exponent with
  | .ofNat up => (n * Nat.pow base up, 1)
  | .negSucc down => (n, Nat.pow base (down + 1))

/-- The nearest natural number to a quotient; a half goes to the even neighbour. -/
def roundDiv (numerator denominator : Nat) : Nat :=
  let whole := numerator / denominator
  let rest := numerator % denominator
  if 2 * rest < denominator then whole
  else if 2 * rest == denominator then whole + whole % 2
  else whole + 1

/-- The greatest `k` with `10 ^ k ≤ mantissa · 2 ^ exponent`, for a positive mantissa.  Multiplying
by `10 ^ 324` brings every positive number of the format above one. -/
def decimalOrder (mantissa : Nat) (exponent : Int) : Int :=
  let (numerator, denominator) := scaledQuotient 2 (mantissa * Nat.pow 10 324) exponent
  ((Nat.toDigits 10 (numerator / denominator)).length : Int) - 325

/-- Whether a number is neither infinite nor a NaN. -/
def isFinite (x : Float) : Bool :=
  match Binary.ofFloat x with
  | .finite .. => true
  | _ => false

end LoadSweep.Number
