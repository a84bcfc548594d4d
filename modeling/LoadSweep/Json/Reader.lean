import LoadSweep.Json.Value

/-!
# Reading JSON

The reader accepts one value with white space around it and nothing else.  Numbers have no leading
zeros and digits on both sides of a point; texts hold no control characters and only the escapes
that JSON knows.  How deeply values are nested does not matter here.
-/

namespace LoadSweep.Json

open LoadSweep.Text

set_option autoImplicit false

/-- White space between the parts of a value. -/
def isSpace (c : Char) : Bool :=
  c == ' ' || c == '\n' || c == '\t' || c == '\r'

/-- A text without the white space at its start. -/
def skipSpace (source : List Char) : List Char :=
  source.dropWhile isSpace

/-- A part of a text: a character, or a 16-bit unit named by an escape. -/
inductive TextUnit where
  | literal (c : Char)
  | code (unit : Nat)
  deriving Repr, DecidableEq

/-- The value of a hexadecimal digit of either letter case. -/
def hexValue? (c : Char) : Option Nat :=
  if c.isDigit then some (c.toNat - '0'.toNat)
  else if 'a' ≤ c && c ≤ 'f' then some (c.toNat - 'a'.toNat + 10)
  else if 'A' ≤ c && c ≤ 'F' then some (c.toNat - 'A'.toNat + 10)
  else none

/-- The value of hexadecimal digits. -/
def hexNumber? (digits : List Char) : Option Nat :=
  digits.foldlM (fun value c => (hexValue? c).map fun digit => 16 * value + digit) 0

/-- The character that a single-letter escape stands for. -/
def escaped? : Char → Option Char
  | '\x22' => some '\x22'
  | '\\' => some '\\'
  | '/' => some '/'
  | 'b' => some '\x08'
  | 'f' => some '\x0c'
  | 'n' => some '\n'
  | 'r' => some '\r'
  | 't' => some '\t'
  | _ => none

/-- The units of a text up to its closing quote, and what follows it. -/
def readUnits? : List Char → Option (List TextUnit × List Char)
  | [] => none
  | '\x22' :: rest => some ([], rest)
  | '\\' :: 'u' :: a :: b :: c :: d :: rest =>
    (hexNumber? [a, b, c, d]).bind fun unit =>
      (readUnits? rest).map fun (units, rest) => (.code unit :: units, rest)
  | '\\' :: letter :: rest =>
    (escaped? letter).bind fun c =>
      (readUnits? rest).map fun (units, rest) => (.literal c :: units, rest)
  | c :: rest =>
    if c.toNat < 0x20 || c == '\\' then none
    else (readUnits? rest).map fun (units, rest) => (.literal c :: units, rest)

/-- Whether a unit is the first half of a surrogate pair. -/
def isLeading (unit : Nat) : Bool := 0xD800 ≤ unit && unit < 0xDC00

/-- Whether a unit is the second half of a surrogate pair. -/
def isTrailing (unit : Nat) : Bool := 0xDC00 ≤ unit && unit < 0xE000

/-- The characters of units; half of a surrogate pair has none. -/
def assemble? : List TextUnit → Option (List Char)
  | [] => some []
  | .literal c :: rest => (assemble? rest).map (c :: ·)
  | .code lead :: .code trail :: rest =>
    if isLeading lead then
      if isTrailing trail then
        (assemble? rest).map
          (Char.ofNat (0x10000 + (lead - 0xD800) * 0x400 + (trail - 0xDC00)) :: ·)
      else none
    else if isTrailing lead then none
    else (assemble? (.code trail :: rest)).map (Char.ofNat lead :: ·)
  | .code unit :: rest =>
    if isLeading unit || isTrailing unit then none
    else (assemble? rest).map (Char.ofNat unit :: ·)

/-- A text after its opening quote, and what follows its closing quote. -/
def readText? (source : List Char) : Option (Option String × List Char) :=
  (readUnits? source).map fun (units, rest) => ((assemble? units).map String.ofList, rest)

/-- The digits before a point: a zero alone, or digits that do not start with one. -/
def readWhole? (source : List Char) : Option (List Char × List Char) :=
  let digits := source.takeWhile Char.isDigit
  let rest := source.dropWhile Char.isDigit
  match digits with
  | [] => none
  | ['0'] => some (digits, rest)
  | '0' :: _ => none
  | _ => some (digits, rest)

/-- A point and digits, if a point follows. -/
def readFraction? : List Char → Option (List Char × List Char)
  | '.' :: rest =>
    let digits := rest.takeWhile Char.isDigit
    if digits.isEmpty then none else some (digits, rest.dropWhile Char.isDigit)
  | source => some ([], source)

/-- A letter `e` and an integer, if that letter follows. -/
def readExponent? : List Char → Option (Option Int × List Char)
  | [] => some (none, [])
  | letter :: rest =>
    if letter == 'e' || letter == 'E' then
      let (negative, body) := Number.splitSign rest
      let digits := body.takeWhile Char.isDigit
      if digits.isEmpty then none
      else
        let size : Int := naturalOfDigits digits
        some (some (if negative then -size else size), body.dropWhile Char.isDigit)
    else some (none, letter :: rest)

/-- A number and what follows it. -/
def readNumber? (source : List Char) : Option (Json × List Char) :=
  let (negative, body) := match source with
    | '-' :: rest => (true, rest)
    | _ => (false, source)
  (readWhole? body).bind fun (whole, rest) =>
    (readFraction? rest).bind fun (fraction, rest) =>
      (readExponent? rest).map fun (exponent, rest) =>
        (.number ⟨negative, whole, fraction, exponent⟩, rest)

/-- A word and the value it stands for, at the start of a text. -/
def readWord? (word : String) (value : Json) (source : List Char) : Option (Json × List Char) :=
  (stripOpening? word.toList source).map fun rest => (value, rest)

mutual

/-- A value and what follows it, with a bound on the recursion. -/
def readValue? : Nat → List Char → Option (Json × List Char)
  | 0, _ => none
  | bound + 1, source =>
    match skipSpace source with
    | [] => none
    | c :: rest =>
      if c == '\x22' then (readText? rest).map fun (value, rest) => (.text value, rest)
      else if c == '[' then
        match skipSpace rest with
        | ']' :: rest => some (.array [], rest)
        | rest => (readItems? bound rest).map fun (items, rest) => (.array items, rest)
      else if c == '\x7b' then
        match skipSpace rest with
        | '\x7d' :: rest => some (.object [], rest)
        | rest => (readMembers? bound rest).map fun (members, rest) => (.object members, rest)
      else if c == 'n' then readWord? "null" .null (c :: rest)
      else if c == 't' then readWord? "true" (.flag true) (c :: rest)
      else if c == 'f' then readWord? "false" (.flag false) (c :: rest)
      else readNumber? (c :: rest)

/-- The items of an array that has some, and what follows its closing bracket. -/
def readItems? : Nat → List Char → Option (List Json × List Char)
  | 0, _ => none
  | bound + 1, source =>
    (readValue? bound source).bind fun (value, rest) =>
      match skipSpace rest with
      | ',' :: rest => (readItems? bound rest).map fun (items, rest) => (value :: items, rest)
      | ']' :: rest => some ([value], rest)
      | _ => none

/-- The members of an object that has some, and what follows its closing brace. -/
def readMembers? : Nat → List Char → Option (List (Option String × Json) × List Char)
  | 0, _ => none
  | bound + 1, source =>
    match skipSpace source with
    | '\x22' :: rest =>
      (readText? rest).bind fun (name, rest) =>
        match skipSpace rest with
        | ':' :: rest =>
          (readValue? bound rest).bind fun (value, rest) =>
            match skipSpace rest with
            | ',' :: rest =>
              (readMembers? bound rest).map fun (members, rest) => ((name, value) :: members, rest)
            | '\x7d' :: rest => some ([(name, value)], rest)
            | _ => none
        | _ => none
    | _ => none

end

/-- The value that a text holds, with nothing but white space around it. -/
def read? (source : String) : Option Json :=
  let characters := source.toList
  (readValue? (2 * characters.length + 2) characters).bind fun (value, rest) =>
    if (skipSpace rest).isEmpty then some value else none

end LoadSweep.Json
