import LoadSweep.Number.Decimal

/-!
# What a plain scalar stands for

Where no type is expected, a plain scalar stands for null, a truth value, an integer or a number if
it reads as one, and for its own text otherwise.  Digits after a leading zero are a text, as a
telephone number is.
-/

namespace LoadSweep.Scalar

open LoadSweep.Text LoadSweep.Number

set_option autoImplicit false

/-- What a plain scalar stands for. -/
inductive Meaning where
  | null
  | flag (value : Bool)
  | natural (value : Nat)
  | negative (size : Nat)
  | wide
  | real (value : Float)
  | text

/-- Whether a scalar spells null. -/
def isNull (scalar : String) : Bool :=
  ["null", "Null", "NULL", "~"].contains scalar

/-- The truth value that a scalar spells. -/
def flag? (scalar : String) : Option Bool :=
  if ["true", "True", "TRUE"].contains scalar then some true
  else if ["false", "False", "FALSE"].contains scalar then some false
  else none

/-- The value of a digit in a base up to sixteen. -/
def digit? (base : Nat) (c : Char) : Option Nat :=
  let value? :=
    if c.isDigit then some (c.toNat - '0'.toNat)
    else if 'a' ≤ c && c ≤ 'f' then some (c.toNat - 'a'.toNat + 10)
    else if 'A' ≤ c && c ≤ 'F' then some (c.toNat - 'A'.toNat + 10)
    else none
  value?.filter (· < base)

/-- The number that digits spell in a base, at least one of them. -/
def digits? (base : Nat) (digits : List Char) : Option Nat :=
  if digits.isEmpty then none
  else digits.foldlM (fun value c => (digit? base c).map fun d => base * value + d) 0

/-- Whether a scalar is a run of digits with a leading zero, and so a text. -/
def isDigitRun (scalar : List Char) : Bool :=
  let body := match scalar with
    | '-' :: rest => rest
    | '+' :: rest => rest
    | _ => scalar
  match body with
  | '0' :: c :: rest => (c :: rest).all Char.isDigit
  | _ => false

/-- The number that an unsigned numeral spells in one of the bases that have an opening. -/
def based? (text : List Char) : Option Nat :=
  match text with
  | '0' :: 'x' :: rest => digits? 16 rest
  | '0' :: 'o' :: rest => digits? 8 rest
  | '0' :: 'b' :: rest => digits? 2 rest
  | _ => none

/-- The natural number that a scalar spells, with an optional plus sign, below a bound. -/
def natural? (bound : Nat) (scalar : List Char) : Option Nat :=
  let body := match scalar with
    | '+' :: rest => rest
    | _ => scalar
  let decimal? := if isDigitRun scalar then none else digits? 10 body
  ((based? body).filter (· < bound)).or (decimal?.filter (· < bound))

/-- The size of the integer that a scalar with a minus sign spells, up to a bound. -/
def negative? (bound : Nat) (scalar : List Char) : Option Nat :=
  match scalar with
  | '-' :: body =>
    let decimal? := if isDigitRun scalar then none else digits? 10 body
    ((based? body).filter (· ≤ bound)).or (decimal?.filter (· ≤ bound))
  | _ => none

/-- The number that a scalar spells.  The words for infinity and NaN start with a point here. -/
def real? (scalar : List Char) : Option Float :=
  let word := String.ofList scalar
  let finite? (text : List Char) := (readFloat? text).filter isFinite
  match scalar with
  | '+' :: '+' :: _ => none
  | '+' :: '-' :: _ => none
  | '+' :: body =>
    if ["+.inf", "+.Inf", "+.INF"].contains word then some infinity else finite? body
  | _ =>
    if [".inf", ".Inf", ".INF"].contains word then some infinity
    else if ["-.inf", "-.Inf", "-.INF"].contains word then some (-infinity)
    else if [".nan", ".NaN", ".NAN"].contains word then some notANumber
    else finite? scalar

/-- The integer that a scalar spells; one that needs more than 64 but at most 128 bits is `wide`. -/
def integer? (scalar : List Char) : Option Meaning :=
  match natural? UInt64.size scalar, negative? (UInt64.size / 2) scalar with
  | some n, _ => some (.natural n)
  | none, some n => some (.negative n)
  | none, none =>
    let wide := UInt64.size * UInt64.size
    if (natural? wide scalar).isSome || (negative? (wide / 2) scalar).isSome then some .wide
    else none

/-- What a plain scalar stands for. -/
def meaning (scalar : String) : Meaning :=
  let text := scalar.toList
  if text.isEmpty || isNull scalar then .null
  else match flag? scalar with
    | some value => .flag value
    | none => match integer? text with
      | some integer => integer
      | none =>
        if isDigitRun text then .text
        else match real? text with
          | some value => .real value
          | none => .text

end LoadSweep.Scalar
