import LoadSweep.Document
import LoadSweep.Json.Writer
import LoadSweep.Yaml.Character

/-!
# Writing YAML

Settings are written in block form: one member a line, the members of a record inside indented by
two spaces, the items of a list not indented below their name.  A text is plain where it reads back
as itself, quoted where it would read as something else, and a literal block where it has several
lines.
-/

namespace LoadSweep.Yaml

set_option autoImplicit false

/-- Whether a character can be written as it is. -/
def isPrintable (c : Char) : Bool :=
  let n := c.toNat
  n == 0x0A || (0x20 ≤ n && n ≤ 0x7E) || (0xA0 ≤ n && n ≤ 0xD7FF)
    || (0xE000 ≤ n && n ≤ 0xFFFD && n != 0xFEFF) || 0x10000 ≤ n

/-- What decides in which style a text can be written. -/
structure TextTraits where
  /-- Whether a plain text would read as something else than a text of its own. -/
  indicators : Bool
  hasBreak : Bool
  hasUnprintable : Bool
  startsLoose : Bool
  endsLoose : Bool
  endsWithSpace : Bool
  spaceAfterBreak : Bool
  breakAfterSpace : Bool

/-- Whether a character may not start a plain text, given the next one. -/
def isStartIndicator (c : Char) (next : Option Char) : Bool :=
  ['#', ',', '[', ']', '\x7b', '\x7d', '&', '*', '!', '|', '>', '\x27', '\x22', '%', '@',
      '\x60'].contains c
    || (['?', ':', '-'].contains c && isGap next)

/-- Whether an indicator follows a character of a text: a colon before a gap, or a number sign
after one. -/
def hasInnerIndicator : List Char → Bool
  | previous :: c :: rest =>
    (c == ':' && isGap rest.head?) || (c == '#' && isGap (some previous))
      || hasInnerIndicator (c :: rest)
  | _ => false

/-- Whether two characters that satisfy two tests stand side by side. -/
def hasPair (first second : Char → Bool) : List Char → Bool
  | a :: b :: rest => (first a && second b) || hasPair first second (b :: rest)
  | _ => false

/-- What decides in which style a text can be written. -/
def TextTraits.of (text : List Char) : TextTraits :=
  let isSpace (c : Char) : Bool := c == ' '
  let isLoose (c : Char) : Bool := isSpace c || isBreak c
  let starts (test : Char → Bool) (text : List Char) : Bool := (text.head?.map test).getD false
  let marker := text.take 3 == ['-', '-', '-'] || text.take 3 == ['.', '.', '.']
  { indicators := marker || hasInnerIndicator text || match text with
      | c :: rest => isStartIndicator c rest.head?
      | [] => false
    hasBreak := text.any isBreak
    hasUnprintable := text.any fun c => !isPrintable c
    startsLoose := starts isLoose text
    endsLoose := starts isLoose text.reverse
    endsWithSpace := starts isSpace text.reverse
    spaceAfterBreak := hasPair isBreak isSpace text
    breakAfterSpace := hasPair isSpace isBreak text }

/-- How a text is written. -/
inductive WrittenStyle where
  | plain
  | single
  | double
  | literal
  deriving Repr, DecidableEq

/-- Whether a text would not read back as a text if it were plain. -/
def readsAsOther (text : String) : Bool :=
  match Scalar.meaning text with
  | .text => Scalar.isDigitRun text.toList
  | _ => true

/-- The style in which a text is written. -/
def WrittenStyle.of (text : String) : WrittenStyle :=
  let traits := TextTraits.of text.toList
  let needsEscapes := traits.breakAfterSpace || traits.hasUnprintable
  let quoted := if needsEscapes || traits.spaceAfterBreak then WrittenStyle.double else .single
  if text.toList.contains '\n' then
    if needsEscapes || traits.endsWithSpace then .double else .literal
  else if readsAsOther text || traits.indicators || traits.hasBreak || traits.startsLoose
      || traits.endsLoose || needsEscapes then quoted
  else .plain

/-- A number of spaces. -/
def spaces (count : Nat) : List Char :=
  List.replicate count ' '

/-- A text between single quotes; an indentation follows each break. -/
def singleFrom (indent : Nat) (afterBreak : Bool) : List Char → List Char
  | [] => if afterBreak then spaces indent else []
  | c :: rest =>
    if isBreak c then c :: singleFrom indent true rest
    else (if afterBreak then spaces indent else [])
      ++ (if c == '\x27' then ['\x27', '\x27'] else [c]) ++ singleFrom indent false rest

/-- Hexadecimal digits in upper case. -/
def upperHex (width n : Nat) : List Char :=
  let digits := (Nat.toDigits 16 n).map Char.toUpper
  List.replicate (width - digits.length) '0' ++ digits

/-- The letter of the escape for a character. -/
def escapeLetter? (c : Char) : Option Char :=
  [('\x00', '0'), ('\x07', 'a'), ('\x08', 'b'), ('\t', 't'), ('\n', 'n'), ('\x0b', 'v'),
    ('\x0c', 'f'), ('\r', 'r'), ('\x1b', 'e'), ('\x22', '\x22'), ('\\', '\\'),
    (Char.ofNat 0x85, 'N'), (Char.ofNat 0xA0, '_'), (Char.ofNat 0x2028, 'L'),
    (Char.ofNat 0x2029, 'P')].lookup c

/-- A character between double quotes. -/
def doubleChar (c : Char) : List Char :=
  if isPrintable c && !isBreak c && c != '\x22' && c != '\\' then [c]
  else match escapeLetter? c with
    | some letter => ['\\', letter]
    | none =>
      if c.toNat ≤ 0xFF then '\\' :: 'x' :: upperHex 2 c.toNat
      else if c.toNat ≤ 0xFFFF then '\\' :: 'u' :: upperHex 4 c.toNat
      else '\\' :: 'U' :: upperHex 8 c.toNat

/-- The indicators of a literal block: an indentation if the text starts with a space or a break,
and what becomes of the breaks at its end. -/
def literalHints (text : List Char) : List Char :=
  let indentation := match text.head? with
    | some c => if c == ' ' || isBreak c then ['2'] else []
    | none => []
  let ending := match text.reverse with
    | [] => ['-']
    | [c] => if isBreak c then ['+'] else ['-']
    | c :: before :: _ => if !isBreak c then ['-'] else if isBreak before then ['+'] else []
  indentation ++ ending

/-- The lines of a literal block. -/
def literalFrom (indent : Nat) (afterBreak : Bool) : List Char → List Char
  | [] => if afterBreak then [] else ['\n']
  | c :: rest =>
    if isBreak c then c :: literalFrom indent true rest
    else (if afterBreak then spaces indent else []) ++ c :: literalFrom indent false rest

/-- A text with the end of its line. -/
def writeText (indent : Nat) (text : String) : List Char :=
  let characters := text.toList
  match WrittenStyle.of text with
  | .plain => characters ++ ['\n']
  | .single => '\x27' :: singleFrom indent false characters ++ ['\x27', '\n']
  | .double => '\x22' :: characters.flatMap doubleChar ++ ['\x22', '\n']
  | .literal => '|' :: literalHints characters ++ '\n' :: literalFrom indent true characters

mutual

/-- A value after the name of its member. -/
def writeMemberValue (indent : Nat) : Json → List Char
  | .text value => ' ' :: writeText (indent + 2) (value.getD "")
  | .array [] => [' ', '[', ']', '\n']
  | .array items => '\n' :: writeItems indent true items
  | .object [] => [' ', '\x7b', '\x7d', '\n']
  | .object members => '\n' :: writeMembers (indent + 2) true members
  | scalar => ' ' :: Json.writeValue .tight 0 scalar ++ ['\n']

/-- The members of a record; the first one is indented only where `indented` holds. -/
def writeMembers (indent : Nat) (indented : Bool) : List (Option String × Json) → List Char
  | [] => []
  | (name, value) :: members =>
    (if indented then spaces indent else []) ++ (name.getD "").toList ++ ':'
      :: writeMemberValue indent value ++ writeMembers indent true members

/-- The items of a list; the first one is indented only where `indented` holds. -/
def writeItems (indent : Nat) (indented : Bool) : List Json → List Char
  | [] => []
  | item :: items =>
    (if indented then spaces indent else []) ++ '-' :: ' ' :: writeItem indent item
      ++ writeItems indent true items

/-- An item after its dash. -/
def writeItem (indent : Nat) : Json → List Char
  | .text value => writeText (indent + 2) (value.getD "")
  | .array [] => ['[', ']', '\n']
  | .array items => writeItems (indent + 2) false items
  | .object [] => ['\x7b', '\x7d', '\n']
  | .object members => writeMembers (indent + 2) false members
  | scalar => Json.writeValue .tight 0 scalar ++ ['\n']

end

/-- A record as a document. -/
def write : Json → String
  | .object members => String.ofList (writeMembers 0 true members)
  | value => String.ofList (writeItem 0 value)

end LoadSweep.Yaml
