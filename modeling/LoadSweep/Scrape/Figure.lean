import LoadSweep.Number.Decimal

/-!
# Figures in running text

The client prints two figures in running text: the throughput in front of the words
`requests per second`, and the median latency between `p50=` and `msec`.  A figure is found at the
first position at which its whole pattern reads; a numeral there is read greedily, since neither a
digit nor a point can begin what must follow it.
-/

namespace LoadSweep.Scrape

open LoadSweep.Text LoadSweep.Number

set_option autoImplicit false

/-- The result of a reader at the first position where it succeeds. -/
def firstMatch? {α : Type} (reader? : List Char → Option α) : List Char → Option α
  | [] => reader? []
  | c :: rest =>
    match reader? (c :: rest) with
    | some result => some result
    | none => firstMatch? reader? rest

/-- Digits with an optional point and more digits, at the start of a text, and the rest. -/
def numeral? (text : List Char) : Option (List Char × List Char) :=
  let whole := text.takeWhile isDecimalDigit
  let rest := text.dropWhile isDecimalDigit
  if whole.isEmpty then none
  else match rest with
    | '.' :: after =>
      let fraction := after.takeWhile isDecimalDigit
      if fraction.isEmpty then some (whole, rest)
      else some (whole ++ '.' :: fraction, after.dropWhile isDecimalDigit)
    | _ => some (whole, rest)

/-- A numeral, at least one blank and the words for throughput, at the start of a text. -/
def throughputAt? (text : List Char) : Option (List Char) :=
  (numeral? text).bind fun (numeral, rest) =>
    match rest with
    | c :: more =>
      if isBlank c then
        (stripOpening? "requests per second".toList (more.dropWhile isBlank)).map fun _ => numeral
      else none
    | [] => none

/-- The median latency, at the start of a text. -/
def medianAt? (text : List Char) : Option (List Char) :=
  (stripOpening? "p50=".toList text).bind fun body =>
    (numeral? body).bind fun (numeral, rest) =>
      (stripOpening? "msec".toList (rest.dropWhile isBlank)).map fun _ => numeral

/-- The value of the first figure of a kind; there is none if its digits have no value. -/
def figure? (reader? : List Char → Option (List Char)) (text : List Char) : Option Float :=
  (firstMatch? reader? text).bind readFloat?

end LoadSweep.Scrape
