import LoadSweep.Text.Blank

/-!
# Spans of time

A span is a whole number of nanoseconds.  It is shown in the largest of the units s, ms, µs and ns
that is not greater than it, with as many decimals as it needs.
-/

namespace LoadSweep

open LoadSweep.Text

set_option autoImplicit false

/-- A span of time. -/
structure Duration where
  nanoseconds : Nat
  deriving Repr, DecidableEq

namespace Duration

/-- The nanoseconds in a microsecond. -/
def microsecond : Nat := 1000

/-- The nanoseconds in a millisecond. -/
def millisecond : Nat := 1000 * microsecond

/-- The nanoseconds in a second. -/
def second : Nat := 1000 * millisecond

/-- A span of whole seconds. -/
def ofSeconds (seconds : Nat) : Duration :=
  ⟨seconds * second⟩

/-- A span of whole milliseconds. -/
def ofMilliseconds (milliseconds : Nat) : Duration :=
  ⟨milliseconds * millisecond⟩

/-- The whole milliseconds in a span. -/
def milliseconds (span : Duration) : Nat :=
  span.nanoseconds / millisecond

/-- A count of `10 ^ places` parts of a unit: the whole units, and the decimals without the zeros
at their end. -/
def decimalParts (places parts : Nat) : String :=
  let unit := Nat.pow 10 places
  let digits := Nat.toDigits 10 (parts % unit)
  let fraction := List.replicate (places - digits.length) '0' ++ digits
  let shown := dropWhileEnd (· == '0') fraction
  let whole := toString (parts / unit)
  if shown.isEmpty then whole else whole ++ "." ++ String.ofList shown

/-- The text of a span. -/
def text (span : Duration) : String :=
  let n := span.nanoseconds
  if second ≤ n then decimalParts 9 n ++ "s"
  else if millisecond ≤ n then decimalParts 6 n ++ "ms"
  else if microsecond ≤ n then decimalParts 3 n ++ "µs"
  else decimalParts 0 n ++ "ns"

end Duration

end LoadSweep
