/-!
# Characters of YAML

YAML knows five characters that end a line, two blanks, and a set of characters that names are made
of.  Control characters are not allowed anywhere in a stream.
-/

namespace LoadSweep.Yaml

set_option autoImplicit false

/-- Whether a character ends a line. -/
def isBreak (c : Char) : Bool :=
  c == '\n' || c == '\r' || c.toNat == 0x85 || c.toNat == 0x2028 || c.toNat == 0x2029

/-- Whether a character is a space or a tab. -/
def isBlank (c : Char) : Bool :=
  c == ' ' || c == '\t'

/-- Whether a character may be part of a name. -/
def isNameChar (c : Char) : Bool :=
  c.isAlphanum || c == '_' || c == '-'

/-- Whether a character may stand in a stream. -/
def isAllowed (c : Char) : Bool :=
  let n := c.toNat
  n == 0x09 || n == 0x0A || n == 0x0D || (0x20 ≤ n && n ≤ 0x7E) || n == 0x85
    || (0xA0 ≤ n && n ≤ 0xD7FF) || (0xE000 ≤ n && n ≤ 0xFFFD) || 0x10000 ≤ n

/-- Whether a character brackets or separates the parts of a flow collection. -/
def isFlowIndicator (c : Char) : Bool :=
  c == ',' || c == '[' || c == ']' || c == '\x7b' || c == '\x7d'

/-- Whether a character may be part of a tag; brackets and commas only where `wide` admits them. -/
def isTagChar (wide : Bool) (c : Char) : Bool :=
  isNameChar c
    || [';', '/', '?', ':', '@', '&', '=', '+', '$', '.', '%', '!', '~', '*', '\x27', '(',
        ')'].contains c
    || (wide && [',', '[', ']'].contains c)

/-- Whether nothing, a blank or the end of a line comes next. -/
def isGap : Option Char → Bool
  | none => true
  | some c => isBlank c || isBreak c

/-- Whether nothing or the end of a line comes next. -/
def isLineEnd : Option Char → Bool
  | none => true
  | some c => isBreak c

/-- A place in a stream and what follows it. -/
structure Cursor where
  rest : List Char
  index : Nat
  line : Nat
  column : Nat
  deriving Inhabited

namespace Cursor

/-- The character that comes next. -/
def next (cursor : Cursor) : Option Char :=
  cursor.rest.head?

/-- The character at a distance from the next one. -/
def ahead (cursor : Cursor) (distance : Nat) : Option Char :=
  cursor.rest[distance]?

/-- Whether a character comes next. -/
def isAt (cursor : Cursor) (c : Char) : Bool :=
  cursor.rest.head? == some c

/-- Moves over a character within a line. -/
def skip (cursor : Cursor) : Cursor :=
  { cursor with
    rest := cursor.rest.tail
    index := cursor.index + 1
    column := cursor.column + 1 }

/-- Moves over several characters within a line. -/
def skipMany (cursor : Cursor) (count : Nat) : Cursor :=
  { cursor with
    rest := cursor.rest.drop count
    index := cursor.index + count
    column := cursor.column + count }

/-- Moves over the end of a line, if one comes next, and tells what it reads as. -/
def readLine (cursor : Cursor) : List Char × Cursor :=
  let next (count : Nat) : Cursor :=
    ⟨cursor.rest.drop count, cursor.index + count, cursor.line + 1, 0⟩
  match cursor.rest with
  | '\r' :: '\n' :: _ => (['\n'], next 2)
  | c :: _ =>
    if c == '\r' || c == '\n' || c.toNat == 0x85 then (['\n'], next 1)
    else if isBreak c then ([c], next 1)
    else ([], cursor)
  | [] => ([], cursor)

/-- Moves over the characters that satisfy a test, within a line. -/
def takeWhile (test : Char → Bool) (cursor : Cursor) : List Char × Cursor :=
  let taken := cursor.rest.takeWhile test
  (taken, cursor.skipMany taken.length)

/-- Whether a line starts here with three equal characters and a gap. -/
def isMarker (cursor : Cursor) (c : Char) : Bool :=
  cursor.column == 0 && cursor.rest.take 3 == [c, c, c] && isGap (cursor.ahead 3)

/-- Whether a line starts here that begins or ends a document. -/
def isDocumentMarker (cursor : Cursor) : Bool :=
  cursor.isMarker '-' || cursor.isMarker '.'

end Cursor

end LoadSweep.Yaml
