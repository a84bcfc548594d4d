import LoadSweep.Json.Reader
import LoadSweep.Yaml.Token

/-!
# Scalars of YAML

A scalar is plain, quoted once or twice, or a block whose lines are kept or folded.  Each reader
takes a cursor and gives the text of the scalar and the place after it.
-/

namespace LoadSweep.Yaml

set_option autoImplicit false

/-- Blanks and breaks between two stretches of a scalar. -/
structure Interval where
  /-- The blanks, while no break has come. -/
  blanks : List Char
  /-- The breaks, once one has come. -/
  fold : Option Fold

/-- What an interval reads as. -/
def Interval.text (interval : Interval) : List Char :=
  match interval.fold with
  | some fold => fold.text
  | none => interval.blanks

/-- An interval without anything. -/
def Interval.empty : Interval := ⟨[], none⟩

/-- An interval with one more break. -/
def Interval.addBreak (interval : Interval) (text : List Char) : Interval :=
  match interval.fold with
  | none => ⟨[], some ⟨text, []⟩⟩
  | some fold => ⟨[], some { fold with others := fold.others ++ text }⟩

/-- Moves over blanks and breaks.  Where an indentation is given, a tab before it is refused once a
line has ended. -/
def readInterval (indent : Option Nat) : Nat → Interval → Cursor → Option (Interval × Cursor)
  | 0, interval, cursor => some (interval, cursor)
  | bound + 1, interval, cursor =>
    match cursor.next with
    | none => some (interval, cursor)
    | some c =>
      if isBlank c then
        match interval.fold with
        | none =>
          readInterval indent bound { interval with blanks := interval.blanks ++ [c] } cursor.skip
        | some _ =>
          let outside := match indent with
            | some indent => decide (cursor.column < indent)
            | none => false
          if c == '\t' && outside then none
          else readInterval indent bound interval cursor.skip
      else if isBreak c then
        let (text, cursor) := cursor.readLine
        readInterval indent bound (interval.addBreak text) cursor
      else some (interval, cursor)

/-! ## Plain scalars -/

/-- Whether a plain scalar ends at a character within a line. -/
def endsPlain (inFlow : Bool) (c : Char) (next : Option Char) : Bool :=
  (c == ':' && isGap next) || (inFlow && isFlowIndicator c)

/-- Whether a colon in a flow collection is followed by what cannot follow it in a plain scalar. -/
def isStrayColon (inFlow : Bool) (c : Char) (next : Option Char) : Bool :=
  inFlow && c == ':' && match next with
    | some n => n == '?' || isFlowIndicator n
    | none => false

/-- A stretch of a plain scalar without blanks; what was read of it before is given latest first. -/
def readPlainStretch (inFlow : Bool) : Nat → List Char → Cursor → Option (List Char × Cursor)
  | 0, text, cursor => some (text.reverse, cursor)
  | bound + 1, text, cursor =>
    match cursor.next with
    | none => some (text.reverse, cursor)
    | some c =>
      let next := cursor.ahead 1
      if isGap (some c) then some (text.reverse, cursor)
      else if isStrayColon inFlow c next then none
      else if endsPlain inFlow c next then some (text.reverse, cursor)
      else readPlainStretch inFlow bound (c :: text) cursor.skip

/-- The stretches of a plain scalar.  The last part of the answer tells whether the scalar was
followed by the end of a line. -/
def readPlainFrom (inFlow : Bool) (indent : Nat) : Nat → List Char → Interval → Cursor →
    Option (List Char × Bool × Cursor)
  | 0, text, interval, cursor => some (text, interval.fold.isSome, cursor)
  | bound + 1, text, interval, cursor =>
    if cursor.isDocumentMarker || cursor.isAt '#' then
      some (text, interval.fold.isSome, cursor)
    else
      match readPlainStretch inFlow cursor.rest.length [] cursor with
      | none => none
      | some (stretch, after) =>
        let text := if stretch.isEmpty then text else text ++ interval.text ++ stretch
        let interval := if stretch.isEmpty then interval else Interval.empty
        if after.rest.isEmpty || !isGap after.next then
          some (text, interval.fold.isSome, after)
        else
          match readInterval (some indent) after.rest.length interval after with
          | none => none
          | some (interval, after) =>
            if !inFlow && after.column < indent then some (text, interval.fold.isSome, after)
            else readPlainFrom inFlow indent bound text interval after

/-- A plain scalar. -/
def readPlain (inFlow : Bool) (indent : Nat) (cursor : Cursor) :
    Option (List Char × Bool × Cursor) :=
  readPlainFrom inFlow indent (cursor.rest.length + 1) [] Interval.empty cursor

/-! ## Quoted scalars -/

/-- The character that a single-letter escape stands for. -/
def escapedChar? (c : Char) : Option Char :=
  [('0', '\x00'), ('a', '\x07'), ('b', '\x08'), ('t', '\t'), ('\t', '\t'), ('n', '\n'),
    ('v', '\x0b'), ('f', '\x0c'), ('r', '\r'), ('e', '\x1b'), (' ', ' '), ('\x22', '\x22'),
    ('/', '/'), ('\\', '\\'), ('N', Char.ofNat 0x85), ('_', Char.ofNat 0xA0),
    ('L', Char.ofNat 0x2028), ('P', Char.ofNat 0x2029)].lookup c

/-- The number of digits of an escape by number. -/
def escapeDigits? (c : Char) : Option Nat :=
  [('x', 2), ('u', 4), ('U', 8)].lookup c

/-- An escape after its backslash. -/
def readEscape (cursor : Cursor) : Option (Char × Cursor) :=
  match cursor.next with
  | none => none
  | some c =>
    match escapedChar? c, escapeDigits? c with
    | some escaped, _ => some (escaped, cursor.skip)
    | none, none => none
    | none, some count =>
      let digits := (cursor.rest.drop 1).take count
      if digits.length < count then none
      else (Json.hexNumber? digits).bind fun code =>
        if (0xD800 ≤ code && code ≤ 0xDFFF) || code > 0x10FFFF then none
        else some (Char.ofNat code, cursor.skipMany (count + 1))

/-- How a stretch of a quoted scalar ends. -/
inductive StretchEnd where
  | quote
  | gap
  /-- A backslash at the end of a line. -/
  | joined

/-- A stretch of a quoted scalar without blanks; what was read of it before is given latest
first. -/
def readQuotedStretch (double : Bool) : Nat → List Char → Cursor →
    Option (List Char × StretchEnd × Cursor)
  | 0, _, _ => none
  | bound + 1, text, cursor =>
    match cursor.next with
    | none => some (text.reverse, .gap, cursor)
    | some c =>
      let next := cursor.ahead 1
      if isGap (some c) then some (text.reverse, .gap, cursor)
      else if !double && c == '\x27' && next == some '\x27' then
        readQuotedStretch double bound ('\x27' :: text) (cursor.skipMany 2)
      else if c == (if double then '\x22' else '\x27') then some (text.reverse, .quote, cursor.skip)
      else if double && c == '\\' then
        if next.isSome && isLineEnd next then
          some (text.reverse, .joined, cursor.skip.readLine.2)
        else
          match readEscape cursor.skip with
          | none => none
          | some (escaped, cursor) => readQuotedStretch double bound (escaped :: text) cursor
      else readQuotedStretch double bound (c :: text) cursor.skip

/-- The stretches of a quoted scalar, after its opening quote. -/
def readQuotedFrom (double : Bool) : Nat → List Char → Cursor → Option (List Char × Cursor)
  | 0, _, _ => none
  | bound + 1, text, cursor =>
    if cursor.isDocumentMarker || cursor.rest.isEmpty then none
    else
      match readQuotedStretch double (cursor.rest.length + 1) [] cursor with
      | none => none
      | some (stretch, .quote, cursor) => some (text ++ stretch, cursor)
      | some (stretch, .gap, cursor) =>
        match readInterval none cursor.rest.length Interval.empty cursor with
        | none => none
        | some (interval, cursor) =>
          readQuotedFrom double bound (text ++ stretch ++ interval.text) cursor
      | some (stretch, .joined, cursor) =>
        match readInterval none cursor.rest.length ⟨[], some ⟨[], []⟩⟩ cursor with
        | none => none
        | some (interval, cursor) =>
          readQuotedFrom double bound (text ++ stretch ++ interval.text) cursor

/-- A quoted scalar. -/
def readQuoted (double : Bool) (cursor : Cursor) : Option (List Char × Cursor) :=
  readQuotedFrom double (cursor.rest.length + 1) [] cursor.skip

/-! ## Block scalars -/

/-- What becomes of the breaks at the end of a block scalar. -/
inductive Chomping where
  | strip
  | clip
  | keep
  deriving DecidableEq

/-- The sign of a chomping indicator. -/
def chomping? (c : Option Char) : Option Chomping :=
  if c == some '+' then some .keep else if c == some '-' then some .strip else none

/-- The value of an indentation indicator. -/
def increment? (c : Option Char) : Option Nat :=
  c.bind fun c => if c.isDigit then some (c.toNat - '0'.toNat) else none

/-- The indicators of a block scalar in either order. -/
def readIndicators (cursor : Cursor) : Option (Chomping × Option Nat × Cursor) :=
  let answer := match chomping? cursor.next with
    | some chomping =>
      match increment? (cursor.ahead 1) with
      | some increment => (chomping, some increment, cursor.skipMany 2)
      | none => (chomping, none, cursor.skip)
    | none =>
      match increment? cursor.next with
      | some increment =>
        match chomping? (cursor.ahead 1) with
        | some chomping => (chomping, some increment, cursor.skipMany 2)
        | none => (.clip, some increment, cursor.skip)
      | none => (.clip, none, cursor)
  if answer.2.1 == some 0 then none else some answer

/-- Moves over blanks and a comment to the end of the line. -/
def finishLine (cursor : Cursor) : Option Cursor :=
  let (_, cursor) := cursor.takeWhile isBlank
  let cursor := if cursor.isAt '#' then (cursor.takeWhile fun c => !isBreak c).2 else cursor
  if isLineEnd cursor.next then some cursor.readLine.2 else none

/-- Moves over empty lines up to an indentation, which may not be known yet.  The answer holds the
breaks, the widest indentation met and the place after them. -/
def readEmptyLines (indent : Option Nat) : Nat → List Char → Nat → Cursor →
    Option (List Char × Nat × Cursor)
  | 0, breaks, widest, cursor => some (breaks, widest, cursor)
  | bound + 1, breaks, widest, cursor =>
    let room := match indent with
      | some indent => indent - cursor.column
      | none => cursor.rest.length
    let spaces := (cursor.rest.take room).takeWhile (· == ' ')
    let cursor := cursor.skipMany spaces.length
    let widest := max widest cursor.column
    let inside := match indent with
      | some indent => decide (cursor.column < indent)
      | none => true
    if inside && cursor.isAt '\t' then none
    else match cursor.next with
      | some c =>
        if isBreak c then
          let (text, cursor) := cursor.readLine
          readEmptyLines indent bound (breaks ++ text) widest cursor
        else some (breaks, widest, cursor)
      | none => some (breaks, widest, cursor)

/-- A block scalar in the making: its text, the break after its last line, the breaks of empty lines
after that, and whether that line started with a blank. -/
structure BlockText where
  text : List Char
  lastBreak : List Char
  emptyLines : List Char
  startedBlank : Bool

/-- The text with the breaks before a further line. -/
def BlockText.joinLine (block : BlockText) (literal startsBlank : Bool) : List Char :=
  let joint :=
    if !literal && block.lastBreak.head? == some '\n' && !block.startedBlank && !startsBlank then
      if block.emptyLines.isEmpty then [' '] else []
    else block.lastBreak
  block.text ++ joint ++ block.emptyLines

/-- The lines of a block scalar at an indentation. -/
def readBlockLines (literal : Bool) (indent : Nat) : Nat → BlockText → Cursor →
    Option (BlockText × Cursor)
  | 0, block, cursor => some (block, cursor)
  | bound + 1, block, cursor =>
    match cursor.next with
    | none => some (block, cursor)
    | some c =>
      if cursor.column != indent then some (block, cursor)
      else
        let startsBlank := isBlank c
        let joined := block.joinLine literal startsBlank
        let (line, cursor) := cursor.takeWhile fun c => !isBreak c
        let (lastBreak, cursor) := cursor.readLine
        match readEmptyLines (some indent) (cursor.rest.length + 1) [] 0 cursor with
        | none => none
        | some (emptyLines, _, cursor) =>
          readBlockLines literal indent bound
            ⟨joined ++ line, lastBreak, emptyLines, startsBlank⟩ cursor

/-- A block scalar within a block of a given indentation; outside of any block there is none. -/
def readBlock (literal : Bool) (parent : Option Nat) (cursor : Cursor) :
    Option (List Char × Cursor) := do
  let (chomping, increment, cursor) ← readIndicators cursor.skip
  let cursor ← finishLine cursor
  let least := match parent with
    | some indent => indent + 1
    | none => 1
  let given := increment.map fun increment => parent.getD 0 + increment
  let (emptyLines, widest, cursor) ← readEmptyLines given (cursor.rest.length + 1) [] 0 cursor
  let indent := given.getD (max widest least)
  let (block, cursor) ←
    readBlockLines literal indent (cursor.rest.length + 1) ⟨[], [], emptyLines, false⟩ cursor
  let ending := match chomping with
    | .strip => []
    | .clip => block.lastBreak
    | .keep => block.lastBreak ++ block.emptyLines
  return (block.text ++ ending, cursor)

end LoadSweep.Yaml
