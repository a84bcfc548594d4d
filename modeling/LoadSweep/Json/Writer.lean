import LoadSweep.Json.Value

/-!
# Writing JSON

Datasets and settings are written with one item or member a line, indented by two spaces; single
lines are written without any space.  Quotes, backslashes and control characters are escaped and
nothing else is.
-/

namespace LoadSweep

set_option autoImplicit false

/-- A hexadecimal digit in lower case. -/
def hexDigit (n : Nat) : Char :=
  (Nat.digitChar n)

/-- The characters that stand for one character of a text. -/
def Json.escapeChar (c : Char) : List Char :=
  if c == '\x22' then ['\\', '\x22']
  else if c == '\\' then ['\\', '\\']
  else if c == '\x08' then ['\\', 'b']
  else if c == '\x0c' then ['\\', 'f']
  else if c == '\n' then ['\\', 'n']
  else if c == '\r' then ['\\', 'r']
  else if c == '\t' then ['\\', 't']
  else if c.toNat < 0x20 then
    ['\\', 'u', '0', '0', hexDigit (c.toNat / 16), hexDigit (c.toNat % 16)]
  else [c]

/-- A text between quotes; one that has no characters is written as an empty one. -/
def Json.quoted (text : Option String) : List Char :=
  '\x22' :: ((text.getD "").toList.flatMap Json.escapeChar ++ ['\x22'])

/-- A numeral; an exponent always has a sign. -/
def Numeral.written (n : Numeral) : List Char :=
  (if n.negative then ['-'] else []) ++ n.whole
    ++ (if n.fraction.isEmpty then [] else '.' :: n.fraction)
    ++ match n.exponent with
      | none => []
      | some e => 'e' :: (if e < 0 then '-' else '+') :: Nat.toDigits 10 e.natAbs

namespace Json

/-- What stands between the parts of a value. -/
inductive Spacing where
  | tight
  | lined
  deriving Repr, DecidableEq

/-- What precedes an item at a depth of nesting. -/
def Spacing.lineBreak (spacing : Spacing) (depth : Nat) : List Char :=
  match spacing with
  | .tight => []
  | .lined => '\n' :: List.replicate (2 * depth) ' '

/-- What stands between the name of a member and its value. -/
def Spacing.colon : Spacing → List Char
  | .tight => [':']
  | .lined => [':', ' ']

mutual

/-- A value at a depth of nesting. -/
def writeValue (spacing : Spacing) (depth : Nat) : Json → List Char
  | .null => "null".toList
  | .flag true => "true".toList
  | .flag false => "false".toList
  | .number value => value.written
  | .text value => quoted value
  | .array [] => ['[', ']']
  | .array (item :: items) =>
    '[' :: (spacing.lineBreak (depth + 1) ++ writeValue spacing (depth + 1) item
      ++ writeItems spacing depth items)
  | .object [] => ['\x7b', '\x7d']
  | .object ((name, value) :: members) =>
    '\x7b' :: (spacing.lineBreak (depth + 1) ++ quoted name ++ spacing.colon
      ++ writeValue spacing (depth + 1) value ++ writeMembers spacing depth members)

/-- The items after the first, and the closing bracket. -/
def writeItems (spacing : Spacing) (depth : Nat) : List Json → List Char
  | [] => spacing.lineBreak depth ++ [']']
  | item :: items =>
    ',' :: (spacing.lineBreak (depth + 1) ++ writeValue spacing (depth + 1) item
      ++ writeItems spacing depth items)

/-- The members after the first, and the closing brace. -/
def writeMembers (spacing : Spacing) (depth : Nat) : List (Option String × Json) → List Char
  | [] => spacing.lineBreak depth ++ ['\x7d']
  | (name, value) :: members =>
    ',' :: (spacing.lineBreak (depth + 1) ++ quoted name ++ spacing.colon
      ++ writeValue spacing (depth + 1) value ++ writeMembers spacing depth members)

end

/-- A value on one line. -/
def compact (value : Json) : String :=
  String.ofList (writeValue .tight 0 value)

/-- A value with one item or member a line. -/
def pretty (value : Json) : String :=
  String.ofList (writeValue .lined 0 value)

end Json

end LoadSweep
