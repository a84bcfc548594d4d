import LoadSweep.Number.Binary

/-!
# The shortest digits of a number

A dataset shows a number with the fewest significant digits that are still read back as the same
number; of two candidates of that length it takes the nearer one.  The reals that are read back as
`m · 2 ^ e` form an interval around it whose ends belong to it exactly when `m` is even.
-/

namespace LoadSweep.Number

set_option autoImplicit false

/-- Decimal digits and the place of the point: `digits · 10 ^ exponent`. -/
structure Digits where
  digits : Nat
  exponent : Int
  deriving Repr, DecidableEq

/-- The interval of reals that are read back as one number, in units of a quarter of its last
place, each multiplied by `scale` to compare it with multiples of `step`. -/
structure Neighbourhood where
  low : Nat
  value : Nat
  high : Nat
  closed : Bool

/-- The interval around `mantissa · 2 ^ exponent`, in quarters of its last place.  Below a power of
two the neighbours are twice as dense, except at the bottom of the format. -/
def Neighbourhood.around (mantissa : Nat) (exponent : Int) : Neighbourhood :=
  let dense := mantissa == leadingBit && exponent != -1074
  { low := 4 * mantissa - (if dense then 1 else 2)
    value := 4 * mantissa
    high := 4 * mantissa + 2
    closed := mantissa % 2 == 0 }

/-- Whether a multiple of a decimal step lies in the interval, where `scale` and `step` bring the
interval and the step to a common unit. -/
def Neighbourhood.contains (interval : Neighbourhood) (scale step multiple : Nat) : Bool :=
  let point := multiple * step
  if interval.closed then interval.low * scale ≤ point && point ≤ interval.high * scale
  else interval.low * scale < point && point < interval.high * scale

/-- The better of the two multiples of `10 ^ place` beside `mantissa · 2 ^ exponent` that are read
back as it: the nearer one, of two equally near ones the even one. -/
def candidateAt? (mantissa : Nat) (exponent place : Int) : Option Nat :=
  let interval := Neighbourhood.around mantissa exponent
  let quarter := exponent - 2
  let scale := Nat.pow 2 quarter.toNat * Nat.pow 10 (-place).toNat
  let step := Nat.pow 10 place.toNat * Nat.pow 2 (-quarter).toNat
  let below := interval.value * scale / step
  let lowFits := interval.contains scale step below
  let highFits := interval.contains scale step (below + 1)
  match lowFits, highFits with
  | true, true => some (roundDiv (interval.value * scale) step)
  | true, false => some below
  | false, true => some (below + 1)
  | false, false => none

/-- Tries places from coarse to fine, with a bound on their number. -/
def shortestFrom (mantissa : Nat) (exponent : Int) : Nat → Int → Digits
  | 0, place => ⟨(candidateAt? mantissa exponent place).getD 0, place⟩
  | bound + 1, place =>
    match candidateAt? mantissa exponent place with
    | some digits => ⟨digits, place⟩
    | none => shortestFrom mantissa exponent bound (place - 1)

/-- Digits without trailing zeros. -/
def Digits.trimmed : Nat → Digits → Digits
  | 0, d => d
  | bound + 1, d =>
    if d.digits != 0 && d.digits % 10 == 0 then Digits.trimmed bound ⟨d.digits / 10, d.exponent + 1⟩
    else d

/-- The shortest digits that are read back as `mantissa · 2 ^ exponent`, for a positive mantissa;
seventeen digits always suffice. -/
def shortest (mantissa : Nat) (exponent : Int) : Digits :=
  Digits.trimmed 17 (shortestFrom mantissa exponent 16 (decimalOrder mantissa exponent))

end LoadSweep.Number
