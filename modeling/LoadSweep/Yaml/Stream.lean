import LoadSweep.Yaml.Directive

/-!
# The tokens of a stream

A stream is cut into tokens from left to right.  Outside of flow collections the indentation opens
and closes blocks.  Whether a node is the key of a mapping shows only at the colon after it, so each
place where a key may have started is remembered, for each flow collection by itself, and the token
for the key is put there afterwards.  Such a key lies within one line and a thousand characters.
-/

namespace LoadSweep.Yaml

set_option autoImplicit false

/-- A place where the key of a mapping may have started. -/
structure KeyStart where
  /-- Whether nothing but a key can stand there. -/
  required : Bool
  /-- The number of tokens before it. -/
  position : Nat
  place : Cursor

/-- What a scanner knows between two tokens. -/
structure Scanner where
  cursor : Cursor
  /-- The tokens so far, latest first. -/
  tokens : List Token
  /-- The number of tokens so far. -/
  count : Nat
  /-- The indentation of the innermost block, if any. -/
  indent : Option Nat
  /-- The indentations of the blocks around it, innermost first. -/
  outer : List (Option Nat)
  /-- Whether a key may start here. -/
  keyAllowed : Bool
  /-- The possible key of the innermost flow collection, or of the block outside of any. -/
  keyStart : Option KeyStart
  /-- The possible keys around it; there is one for each open flow collection. -/
  outerKeys : List (Option KeyStart)

namespace Scanner

/-- The scanner at the start of a stream. -/
def start (text : List Char) : Scanner :=
  ⟨⟨text, 0, 0, 0⟩, [], 0, none, [], true, none, []⟩

/-- Whether a flow collection is open. -/
def inFlow (scanner : Scanner) : Bool :=
  !scanner.outerKeys.isEmpty

/-- Appends a token. -/
def push (token : Token) (scanner : Scanner) : Scanner :=
  { scanner with tokens := token :: scanner.tokens, count := scanner.count + 1 }

/-- Puts a token after a number of tokens. -/
def insert (token : Token) (position : Nat) (scanner : Scanner) : Scanner :=
  let later := scanner.count - position
  { scanner with
    tokens := scanner.tokens.take later ++ token :: scanner.tokens.drop later
    count := scanner.count + 1 }

/-- Whether a column lies deeper than the innermost block. -/
def isDeeper (scanner : Scanner) (column : Nat) : Bool :=
  match scanner.indent with
  | none => true
  | some indent => indent < column

/-- Opens a block at a column that lies deeper, unless within a flow collection. -/
def openBlock (token : Token) (position column : Nat) (scanner : Scanner) : Scanner :=
  if !scanner.inFlow && scanner.isDeeper column then
    { scanner.insert token position with
      indent := some column
      outer := scanner.indent :: scanner.outer }
  else scanner

/-- Closes the blocks that satisfy a test on their indentation. -/
def closeWhile (test : Nat → Bool) : Nat → Scanner → Scanner
  | 0, scanner => scanner
  | bound + 1, scanner =>
    match scanner.indent with
    | some indent =>
      if test indent then
        closeWhile test bound
          { scanner.push .blockEnd with
            indent := scanner.outer.head?.join
            outer := scanner.outer.tail }
      else scanner
    | none => scanner

/-- Closes the blocks that lie deeper than a column, unless within a flow collection. -/
def closeDeeper (column : Nat) (scanner : Scanner) : Scanner :=
  if scanner.inFlow then scanner
  else closeWhile (fun indent => column < indent) (scanner.outer.length + 1) scanner

/-- Closes all blocks, unless within a flow collection. -/
def closeAll (scanner : Scanner) : Scanner :=
  if scanner.inFlow then scanner
  else closeWhile (fun _ => true) (scanner.outer.length + 1) scanner

/-- Forgets the possible key, which must not be required. -/
def dropKey (scanner : Scanner) : Option Scanner :=
  match scanner.keyStart with
  | some key => if key.required then none else some { scanner with keyStart := none }
  | none => some scanner

/-- Remembers that a key may start here. -/
def saveKey (scanner : Scanner) : Option Scanner :=
  if scanner.keyAllowed then
    (scanner.dropKey).map fun dropped =>
      { dropped with
        keyStart := some
          { required := !scanner.inFlow && scanner.indent == some scanner.cursor.column
            position := scanner.count
            place := scanner.cursor } }
  else some scanner

/-- Whether a possible key has become impossible, being too far away. -/
def isStale (cursor : Cursor) (key : KeyStart) : Bool :=
  key.place.line < cursor.line || key.place.index + 1024 < cursor.index

/-- A possible key unless it is stale; a stale one must not be required. -/
def refresh? (cursor : Cursor) (key : Option KeyStart) : Option (Option KeyStart) :=
  match key with
  | some start =>
    if isStale cursor start then if start.required then none else some none else some key
  | none => some none

/-- Forgets the possible keys that are stale. -/
def dropStale (scanner : Scanner) : Option Scanner := do
  let keyStart ← refresh? scanner.cursor scanner.keyStart
  let outerKeys ← scanner.outerKeys.mapM (refresh? scanner.cursor)
  return { scanner with keyStart, outerKeys }

/-- Moves over blanks, comments and the ends of lines to the next token. -/
def skipToToken : Nat → Scanner → Scanner
  | 0, scanner => scanner
  | bound + 1, scanner =>
    let cursor := scanner.cursor
    let hasMark := cursor.index == 0 && cursor.isAt (Char.ofNat 0xFEFF)
    let cursor := if hasMark then cursor.skip else cursor
    let tabs := scanner.inFlow || !scanner.keyAllowed
    let (_, cursor) := cursor.takeWhile fun c => c == ' ' || (tabs && c == '\t')
    let cursor := if cursor.isAt '#' then (cursor.takeWhile fun c => !isBreak c).2 else cursor
    match cursor.next with
    | some c =>
      if isBreak c then
        skipToToken bound
          { scanner with
            cursor := cursor.readLine.2
            keyAllowed := scanner.keyAllowed || !scanner.inFlow }
      else { scanner with cursor }
    | none => { scanner with cursor }

/-- Moves over characters and appends the token for them. -/
def advance (count : Nat) (token : Token) (scanner : Scanner) : Scanner :=
  { scanner.push token with cursor := scanner.cursor.skipMany count }

/-- Ends the stream. -/
def finish (scanner : Scanner) : Option Scanner :=
  scanner.closeAll.dropKey.map (push .streamEnd)

/-- A directive. -/
def directive (scanner : Scanner) : Option Scanner := do
  let scanner ← scanner.closeAll.dropKey
  let (token, cursor) ← readDirective scanner.cursor
  return { scanner.push token with cursor, keyAllowed := false }

/-- The line that begins or ends a document. -/
def documentMarker (token : Token) (scanner : Scanner) : Option Scanner := do
  let scanner ← scanner.closeAll.dropKey
  return { scanner.advance 3 token with keyAllowed := false }

/-- The start of a flow collection. -/
def openFlow (token : Token) (scanner : Scanner) : Option Scanner := do
  let scanner ← scanner.saveKey
  return { scanner.advance 1 token with
    keyAllowed := true
    keyStart := none
    outerKeys := scanner.keyStart :: scanner.outerKeys }

/-- The end of a flow collection. -/
def closeFlow (token : Token) (scanner : Scanner) : Option Scanner := do
  let scanner ← scanner.dropKey
  return { scanner.advance 1 token with
    keyAllowed := false
    keyStart := scanner.outerKeys.head?.join
    outerKeys := scanner.outerKeys.tail }

/-- The comma between the parts of a flow collection. -/
def flowEntry (scanner : Scanner) : Option Scanner := do
  let scanner ← scanner.dropKey
  return { scanner.advance 1 .flowEntry with keyAllowed := true }

/-- The dash before an item of a block sequence. -/
def blockEntry (scanner : Scanner) : Option Scanner := do
  if !scanner.inFlow && !scanner.keyAllowed then none
  let scanner := scanner.openBlock .blockSequence scanner.count scanner.cursor.column
  let scanner ← scanner.dropKey
  return { scanner.advance 1 .blockEntry with keyAllowed := true }

/-- The question mark before a key. -/
def explicitKey (scanner : Scanner) : Option Scanner := do
  if !scanner.inFlow && !scanner.keyAllowed then none
  let scanner := scanner.openBlock .blockMapping scanner.count scanner.cursor.column
  let scanner ← scanner.dropKey
  return { scanner.advance 1 .key with keyAllowed := !scanner.inFlow }

/-- The colon before a value: it makes a key of the node before it, or of nothing. -/
def mappingValue (scanner : Scanner) : Option Scanner :=
  match scanner.keyStart with
  | some key =>
    let scanner := scanner.insert .key key.position
    let scanner := scanner.openBlock .blockMapping key.position key.place.column
    some { scanner.advance 1 .value with keyAllowed := false, keyStart := none }
  | none =>
    if !scanner.inFlow && !scanner.keyAllowed then none
    else
      let scanner := scanner.openBlock .blockMapping scanner.count scanner.cursor.column
      some { scanner.advance 1 .value with keyAllowed := !scanner.inFlow }

/-- An anchor or alias. -/
def name (token : String → Token) (scanner : Scanner) : Option Scanner := do
  let scanner ← scanner.saveKey
  let (text, cursor) ← readName scanner.cursor
  return { scanner.push (token text) with cursor, keyAllowed := false }

/-- A tag. -/
def tag (scanner : Scanner) : Option Scanner := do
  let scanner ← scanner.saveKey
  let (token, cursor) ← readTagToken scanner.inFlow scanner.cursor
  return { scanner.push token with cursor, keyAllowed := false }

/-- A block scalar. -/
def blockScalar (literal : Bool) (scanner : Scanner) : Option Scanner := do
  let scanner ← scanner.dropKey
  let (text, cursor) ← readBlock literal scanner.indent scanner.cursor
  let style := if literal then ScalarStyle.literal else .quoted
  return { scanner.push (.scalar (String.ofList text) style) with cursor, keyAllowed := true }

/-- A quoted scalar. -/
def quotedScalar (double : Bool) (scanner : Scanner) : Option Scanner := do
  let scanner ← scanner.saveKey
  let (text, cursor) ← readQuoted double scanner.cursor
  return { scanner.push (.scalar (String.ofList text) .quoted) with cursor, keyAllowed := false }

/-- A plain scalar. -/
def plainScalar (scanner : Scanner) : Option Scanner := do
  let scanner ← scanner.saveKey
  let indent := match scanner.indent with
    | some indent => indent + 1
    | none => 0
  let (text, keyAllowed, cursor) ← readPlain scanner.inFlow indent scanner.cursor
  return { scanner.push (.scalar (String.ofList text) .plain) with cursor, keyAllowed }

/-- Whether a plain scalar may start with a character, given the next one. -/
def startsPlain (inFlow : Bool) (c : Char) (next : Option Char) : Bool :=
  let isIndicator := isFlowIndicator c || ['-', '?', ':', '#', '&', '*', '!', '|', '>', '\x27',
    '\x22', '%', '@', '\x60'].contains c
  !isIndicator
    || (c == '-' && !(next.map isBlank == some true))
    || (!inFlow && (c == '?' || c == ':') && !isGap next)

/-- The token at a place where one starts. -/
def readToken (scanner : Scanner) (c : Char) : Option Scanner :=
  let cursor := scanner.cursor
  let inFlow := scanner.inFlow
  let next := cursor.ahead 1
  if cursor.column == 0 && c == '%' then scanner.directive
  else if cursor.isMarker '-' then scanner.documentMarker .documentStart
  else if cursor.isMarker '.' then scanner.documentMarker .documentEnd
  else if c == '[' then scanner.openFlow .flowSequenceStart
  else if c == '\x7b' then scanner.openFlow .flowMappingStart
  else if c == ']' then scanner.closeFlow .flowSequenceEnd
  else if c == '\x7d' then scanner.closeFlow .flowMappingEnd
  else if c == ',' then scanner.flowEntry
  else if c == '-' && isGap next then scanner.blockEntry
  else if c == '?' && (inFlow || isGap next) then scanner.explicitKey
  else if c == ':' && (inFlow || isGap next) then scanner.mappingValue
  else if c == '*' then scanner.name .alias
  else if c == '&' then scanner.name .anchor
  else if c == '!' then scanner.tag
  else if c == '|' && !inFlow then scanner.blockScalar true
  else if c == '>' && !inFlow then scanner.blockScalar false
  else if c == '\x27' then scanner.quotedScalar false
  else if c == '\x22' then scanner.quotedScalar true
  else if startsPlain inFlow c next then scanner.plainScalar
  else none

/-- Reads tokens to the end of the stream, with a bound on their number. -/
def run : Nat → Scanner → Option Scanner
  | 0, _ => none
  | bound + 1, scanner =>
    match (skipToToken (scanner.cursor.rest.length + 1) scanner).dropStale with
    | none => none
    | some scanner =>
      let scanner := scanner.closeDeeper scanner.cursor.column
      match scanner.cursor.next with
      | none => scanner.finish
      | some c =>
        match scanner.readToken c with
        | none => none
        | some scanner => run bound scanner

end Scanner

/-- The tokens of a stream, the last of which is its end. -/
def tokens? (text : String) : Option (List Token) :=
  let characters := text.toList
  if characters.all isAllowed then
    ((Scanner.start characters).run (characters.length + 2)).map fun scanner =>
      scanner.tokens.reverse
  else none

end LoadSweep.Yaml
