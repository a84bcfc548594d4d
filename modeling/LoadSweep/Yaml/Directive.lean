import LoadSweep.Text.Utf8
import LoadSweep.Yaml.Scalar

/-!
# Directives, tags and anchors

These parts of a stream are names: a directive says which version of YAML a document is written in
or what a tag handle stands for, a tag names a type, and an anchor names a node.
-/

namespace LoadSweep.Yaml

open LoadSweep.Text

set_option autoImplicit false

/-- The octets of a character written as percent escapes, one after the other. -/
def readPercent (cursor : Cursor) : Option (UInt8 × Cursor) :=
  match cursor.rest with
  | '%' :: high :: low :: _ =>
    (Json.hexNumber? [high, low]).map fun octet => (UInt8.ofNat octet, cursor.skipMany 3)
  | _ => none

/-- The number of octets of the character that starts with an octet. -/
def octetCount? (lead : UInt8) : Option Nat :=
  if lead < 0x80 then some 1
  else if lead &&& 0xE0 == 0xC0 then some 2
  else if lead &&& 0xF0 == 0xE0 then some 3
  else if lead &&& 0xF8 == 0xF0 then some 4
  else none

/-- Further octets of a character. -/
def readOctets : Nat → List UInt8 → Cursor → Option (List UInt8 × Cursor)
  | 0, octets, cursor => some (octets, cursor)
  | count + 1, octets, cursor =>
    match readPercent cursor with
    | none => none
    | some (octet, cursor) =>
      if octet &&& 0xC0 == 0x80 then readOctets count (octets ++ [octet]) cursor else none

/-- A character written as percent escapes. -/
def readEscapedChar (cursor : Cursor) : Option (List Char × Cursor) := do
  let (lead, cursor) ← readPercent cursor
  let count ← octetCount? lead
  let (octets, cursor) ← readOctets (count - 1) [lead] cursor
  return ((ofBytes octets).toList, cursor)

/-- The characters of a tag.  `wide` admits brackets and commas. -/
def readTagText (wide : Bool) : Nat → List Char → Cursor → Option (List Char × Cursor)
  | 0, text, cursor => some (text, cursor)
  | bound + 1, text, cursor =>
    match cursor.next with
    | none => some (text, cursor)
    | some c =>
      if c == '%' then
        match readEscapedChar cursor with
        | none => none
        | some (escaped, cursor) => readTagText wide bound (text ++ escaped) cursor
      else if isTagChar wide c then readTagText wide bound (text ++ [c]) cursor.skip
      else some (text, cursor)

/-- The characters of a tag after a handle that turned out to be part of it. -/
def readTag (wide : Bool) (handle : List Char) (cursor : Cursor) : Option (String × Cursor) :=
  match readTagText wide cursor.rest.length handle.tail cursor with
  | none => none
  | some (text, cursor) =>
    if text.isEmpty && handle.isEmpty then none else some (String.ofList text, cursor)

/-- A tag handle: an exclamation mark, and perhaps a name and another one. -/
def readHandle (inDirective : Bool) (cursor : Cursor) : Option (List Char × Cursor) :=
  if !cursor.isAt '!' then none
  else
    let (name, cursor) := cursor.skip.takeWhile isNameChar
    if cursor.isAt '!' then some ('!' :: name ++ ['!'], cursor.skip)
    else if inDirective && !name.isEmpty then none
    else some ('!' :: name, cursor)

/-- A tag written between angle brackets. -/
def readVerbatimTag (cursor : Cursor) : Option (Token × Cursor) := do
  let (suffix, cursor) ← readTag true [] (cursor.skipMany 2)
  if cursor.isAt '>' then some (.tag "" suffix, cursor.skip) else none

/-- A tag with a handle, or with the mark alone. -/
def readShortTag (cursor : Cursor) : Option (Token × Cursor) := do
  let (handle, cursor) ← readHandle false cursor
  if handle.length > 1 && handle.getLast? == some '!' then
    let (suffix, cursor) ← readTag false [] cursor
    return (.tag (String.ofList handle) suffix, cursor)
  else
    let (suffix, cursor) ← readTag false handle cursor
    return (if suffix.isEmpty then .tag "" "!" else .tag "!" suffix, cursor)

/-- A tag token. -/
def readTagToken (inFlow : Bool) (cursor : Cursor) : Option (Token × Cursor) := do
  let (token, cursor) ←
    if cursor.ahead 1 == some '<' then readVerbatimTag cursor else readShortTag cursor
  if isGap cursor.next || (inFlow && cursor.isAt ',') then some (token, cursor) else none

/-- The name of an anchor or alias, after its mark. -/
def readName (cursor : Cursor) : Option (String × Cursor) :=
  let (name, cursor) := cursor.skip.takeWhile isNameChar
  let ends := match cursor.next with
    | none => true
    | some c => isGap (some c) || ['?', ':', ',', ']', '\x7d', '%', '@', '\x60'].contains c
  if name.isEmpty || !ends then none else some (String.ofList name, cursor)

/-- A part of a version number. -/
def readVersionNumber (cursor : Cursor) : Option (Nat × Cursor) :=
  let (digits, cursor) := cursor.takeWhile Char.isDigit
  if digits.isEmpty || digits.length > 9 then none else some (naturalOfDigits digits, cursor)

/-- A version, after the name of its directive. -/
def readVersion (cursor : Cursor) : Option (Token × Cursor) := do
  let (major, cursor) ← readVersionNumber (cursor.takeWhile isBlank).2
  if !cursor.isAt '.' then none
  let (minor, cursor) ← readVersionNumber cursor.skip
  return (.version major minor, cursor)

/-- A tag handle and what it stands for, after the name of their directive. -/
def readTagDirective (cursor : Cursor) : Option (Token × Cursor) := do
  let (handle, cursor) ← readHandle true (cursor.takeWhile isBlank).2
  if !(cursor.next.map isBlank == some true) then none
  let (start, cursor) ← readTag true [] (cursor.takeWhile isBlank).2
  if !isGap cursor.next then none
  return (.tagDirective (String.ofList handle) start, cursor)

/-- A directive with the rest of its line. -/
def readDirective (cursor : Cursor) : Option (Token × Cursor) := do
  let (name, cursor) := cursor.skip.takeWhile isNameChar
  if name.isEmpty || !isGap cursor.next then none
  let (token, cursor) ←
    if name == "YAML".toList then readVersion cursor
    else if name == "TAG".toList then readTagDirective cursor
    else none
  let cursor ← finishLine cursor
  return (token, cursor)

end LoadSweep.Yaml
