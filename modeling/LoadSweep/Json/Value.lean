import LoadSweep.Number.Shortest
import LoadSweep.Number.Decimal

/-!
# JSON values

A value keeps its numbers as they are written, digit by digit, so that what is written can be read
back exactly and so that the reader of a field decides what a number means.  A text is missing when
its escapes name half of a surrogate pair: such a text has no characters, but it does no harm in a
field that nobody reads.
-/

namespace LoadSweep

open LoadSweep.Text LoadSweep.Number

set_option autoImplicit false

/-- A number as it is written: digits before the point, digits after it, and an exponent. -/
structure Numeral where
  negative : Bool
  whole : List Char
  fraction : List Char
  exponent : Option Int
  deriving Repr, DecidableEq, Inhabited

/-- A JSON value; the members of an object keep their order. -/
inductive Json where
  | null
  | flag (value : Bool)
  | number (value : Numeral)
  | text (value : Option String)
  | array (items : List Json)
  | object (members : List (Option String × Json))
  deriving Inhabited

namespace Numeral

/-- The numeral of a natural number. -/
def ofNat (n : Nat) : Numeral :=
  ⟨false, Nat.toDigits 10 n, [], none⟩

/-- The numeral of a finite number from its shortest digits.  It is positional for magnitudes from
`10 ^ -5` up to `10 ^ 16` and then always has a point; otherwise it has one digit before the point
and an exponent. -/
def ofShortest (negative : Bool) (d : Digits) : Numeral :=
  let digits := Nat.toDigits 10 d.digits
  let point : Int := digits.length + d.exponent
  if -5 < point && point ≤ 16 then
    if point ≤ 0 then ⟨negative, ['0'], List.replicate (-point).toNat '0' ++ digits, none⟩
    else
      let whole := digits.take point.toNat
      let fraction := digits.drop point.toNat
      ⟨negative, whole ++ List.replicate (point.toNat - whole.length) '0',
        if fraction.isEmpty then ['0'] else fraction, none⟩
  else ⟨negative, digits.take 1, digits.drop 1, some (point - 1)⟩

/-- The numeral of a number that has one. -/
def ofFloat? (x : Float) : Option Numeral :=
  match Binary.ofFloat x with
  | .finite negative 0 _ => some ⟨negative, ['0'], ['0'], none⟩
  | .finite negative mantissa exponent => some (ofShortest negative (shortest mantissa exponent))
  | _ => none

/-- The natural number that a numeral is, if it has neither sign, point nor exponent. -/
def natural? (n : Numeral) : Option Nat :=
  if n.negative || !n.fraction.isEmpty || n.exponent.isSome then none
  else some (naturalOfDigits n.whole)

end Numeral

namespace Json

/-- The value of a text. -/
def ofString (s : String) : Json := .text (some s)

/-- The value of a natural number. -/
def ofNat (n : Nat) : Json := .number (Numeral.ofNat n)

/-- The value of a number; infinities and NaN have no numeral and are written as null. -/
def ofFloat (x : Float) : Json :=
  match Numeral.ofFloat? x with
  | some numeral => .number numeral
  | none => .null

/-- An object with given members. -/
def ofMembers (members : List (String × Json)) : Json :=
  .object (members.map fun member => (some member.1, member.2))

end Json

end LoadSweep
