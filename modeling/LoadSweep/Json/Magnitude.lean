import LoadSweep.Json.Value

/-!
# The value of a JSON number

A whole number that fits in 64 bits is that number.  Any other numeral is read in two steps, each
of them rounded: the digits that fit in 64 bits as one number, and then its product with, or its
quotient by, a power of ten.  So a long numeral may differ from the nearest number in the last
place, and one whose product is infinite is refused.
-/

namespace LoadSweep

open LoadSweep.Text LoadSweep.Number

set_option autoImplicit false

/-- What a numeral amounts to. -/
inductive Magnitude where
  | natural (n : Nat)
  | real (x : Float)
  deriving Inhabited

namespace Numeral

/-- The leading digits of a numeral as one number below `2 ^ 64`, and the power of ten to multiply
it by. -/
structure Significand where
  value : Nat
  exponent : Int
  deriving Repr, DecidableEq

/-- Appends a digit, unless the number would no longer fit. -/
def Significand.push? (s : Significand) (digit : Char) : Option Nat :=
  let value := 10 * s.value + (digit.toNat - '0'.toNat)
  if value < UInt64.size then some value else none

/-- Reads digits before the point; those that no longer fit only count as places. -/
def Significand.whole : Significand → List Char → Significand
  | s, [] => s
  | s, digit :: rest =>
    match s.push? digit with
    | some value => Significand.whole { s with value } rest
    | none => { s with exponent := rest.length + 1 }

/-- Reads digits after the point; those from the first that no longer fits are dropped. -/
def Significand.fraction : Significand → List Char → Significand
  | s, [] => s
  | s, digit :: rest =>
    match s.push? digit with
    | some value => Significand.fraction { value, exponent := s.exponent - 1 } rest
    | none => s

/-- The digits that fit, and their power of ten before the exponent is applied. -/
def significand (n : Numeral) : Significand :=
  (Significand.whole ⟨0, 0⟩ n.whole).fraction n.fraction

/-- The product of a number and a power of ten; a power beyond the format is applied in steps of
`10 ^ 308`, with a bound on their number. -/
def scale? : Nat → Float → Int → Option Float
  | 0, _, _ => none
  | bound + 1, x, exponent =>
    if exponent.natAbs ≤ 308 then
      let power := nearest 1 exponent.natAbs
      if exponent ≥ 0 then
        let product := x * power
        if isFinite product then some product else none
      else some (x / power)
    else if x == 0.0 then some x
    else if exponent ≥ 0 then none
    else scale? bound (x / nearest 1 308) (exponent + 308)

/-- The number that a numeral with a point, an exponent or too many digits is read as. -/
def real? (n : Numeral) : Option Float :=
  let s := n.significand
  let written := n.exponent.getD 0
  let magnitude :=
    if written.natAbs ≥ UInt32.size / 2 then
      if s.value != 0 && written > 0 then none else some 0.0
    else scale? 16 (UInt64.ofNat s.value).toFloat (s.exponent + written)
  magnitude.map (withSign n.negative)

/-- Whether a numeral has neither a point nor an exponent. -/
def isWhole (n : Numeral) : Bool :=
  n.fraction.isEmpty && n.exponent.isNone

/-- What a numeral amounts to, unless it is out of range. -/
def magnitude? (n : Numeral) : Option Magnitude :=
  let value := naturalOfDigits n.whole
  if n.isWhole && !n.negative && value < UInt64.size then some (.natural value)
  else if n.isWhole && n.negative && value ≤ UInt64.size / 2 then
    some (.real (withSign true (UInt64.ofNat value).toFloat))
  else n.real?.map .real

end Numeral

end LoadSweep
