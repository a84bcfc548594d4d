import LoadSweep.Number.Binary
import LoadSweep.Text.Digit

/-!
# Reading decimal numerals

A numeral is an optional sign and either a word for infinity or NaN in any letter case, or digits
with an optional point and an optional exponent, at least one digit standing before or after the
point.  Its value is the nearest floating-point number.
-/

namespace LoadSweep.Number

open LoadSweep.Text

set_option autoImplicit false

/-- A finite decimal number `mantissa · 10 ^ exponent` with a sign. -/
structure Decimal where
  negative : Bool
  mantissa : Nat
  exponent : Int
  deriving Repr, DecidableEq

/-- A number with a chosen sign. -/
def withSign (negative : Bool) (magnitude : Float) : Float :=
  if negative then -magnitude else magnitude

/-- Positive infinity. -/
def infinity : Float := Float.ofBits 0x7FF0000000000000

/-- A number that is none. -/
def notANumber : Float := Float.ofBits 0x7FF8000000000000

/-- The nearest floating-point number to `mantissa · 10 ^ exponent`.  A magnitude far beyond either
end of the format is decided without computing the power. -/
def nearest (mantissa : Nat) (exponent : Int) : Float :=
  let order := ((Nat.toDigits 10 mantissa).length : Int) + exponent
  if mantissa == 0 || order < -330 then 0.0
  else if order > 310 then infinity
  else match exponent with
    | .ofNat up => Float.ofScientific mantissa false up
    | .negSucc down => Float.ofScientific mantissa true (down + 1)

/-- The nearest floating-point number. -/
def Decimal.toFloat (d : Decimal) : Float :=
  withSign d.negative (nearest d.mantissa d.exponent)

/-- An optional sign in front of a text: whether it is a minus, and the rest. -/
def splitSign : List Char → Bool × List Char
  | '-' :: rest => (true, rest)
  | '+' :: rest => (false, rest)
  | text => (false, text)

/-- The exponent part that ends a numeral: nothing, or a letter `e` and an integer. -/
def readExponent? : List Char → Option Int
  | [] => some 0
  | letter :: rest =>
    if letter == 'e' || letter == 'E' then
      let (negative, digits) := splitSign rest
      (readNatural? digits).map fun n => if negative then -(n : Int) else n
    else none

/-- The digits after a point, if there is one, and the rest. -/
def splitFraction : List Char → List Char × List Char
  | '.' :: rest => (rest.takeWhile Char.isDigit, rest.dropWhile Char.isDigit)
  | text => ([], text)

/-- Reads digits with an optional point and an optional exponent, without a sign. -/
def readUnsigned? (negative : Bool) (text : List Char) : Option Decimal :=
  let whole := text.takeWhile Char.isDigit
  let (fraction, rest) := splitFraction (text.dropWhile Char.isDigit)
  if whole.isEmpty && fraction.isEmpty then none
  else (readExponent? rest).map fun exponent =>
    ⟨negative, naturalOfDigits (whole ++ fraction), exponent - fraction.length⟩

/-- Reads the words for infinity and NaN. -/
def readWord? (text : List Char) : Option Float :=
  let word := String.ofList (lowerAscii text)
  if word == "inf" || word == "infinity" then some infinity
  else if word == "nan" then some notANumber
  else none

/-- Reads a numeral as the nearest floating-point number. -/
def readFloat? (text : List Char) : Option Float :=
  let (negative, body) := splitSign text
  match readWord? body with
  | some value => some (withSign negative value)
  | none => (readUnsigned? negative body).map Decimal.toFloat

end LoadSweep.Number
