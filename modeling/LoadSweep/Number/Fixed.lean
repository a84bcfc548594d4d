import LoadSweep.Number.Binary

/-!
# Numbers with a fixed number of places

Tables, logs and charts show a number with a fixed number of decimal places.  The digits come from
the exact binary value, and a half goes to the even neighbour.  The sign bit is shown, also of
zero; a NaN has no sign.
-/

namespace LoadSweep.Number

set_option autoImplicit false

/-- When the sign of a number is shown. -/
inductive SignDisplay where
  | negative
  | always
  deriving Repr, DecidableEq

/-- The sign in front of a number. -/
def SignDisplay.text (display : SignDisplay) (negative : Bool) : String :=
  if negative then "-" else match display with
    | .negative => ""
    | .always => "+"

/-- Decimal digits with a point before the last `places` of them, and zeros in front so that one
digit precedes the point. -/
def withPoint (places units : Nat) : String :=
  let digits := Nat.toDigits 10 units
  let padded := List.replicate (places + 1 - digits.length) '0' ++ digits
  let split := padded.length - places
  if places == 0 then String.ofList padded
  else String.ofList (padded.take split) ++ "." ++ String.ofList (padded.drop split)

/-- The magnitude of a finite number in units of the last of `places` decimal places. -/
def unitsAt (places mantissa : Nat) (exponent : Int) : Nat :=
  let (numerator, denominator) := scaledQuotient 2 (mantissa * Nat.pow 10 places) exponent
  roundDiv numerator denominator

/-- The text of a number with a fixed number of decimal places. -/
def fixedSigned (display : SignDisplay) (places : Nat) (x : Float) : String :=
  match Binary.ofFloat x with
  | .nan => "NaN"
  | .infinite negative => display.text negative ++ "inf"
  | .finite negative mantissa exponent =>
    display.text negative ++ withPoint places (unitsAt places mantissa exponent)

/-- The text of a number with a fixed number of decimal places and a sign only if it is negative. -/
def fixed (places : Nat) (x : Float) : String :=
  fixedSigned .negative places x

end LoadSweep.Number
