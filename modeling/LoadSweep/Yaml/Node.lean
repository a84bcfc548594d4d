import LoadSweep.Yaml.Stream

/-!
# Nodes of YAML

The tokens of a document form one node: a scalar, a sequence, a mapping, or an alias of another
node.  An anchor gives a node a slot, and an alias refers to the slot that the name has at that
point.  A slot is numbered by the names known before it, so a name that is given again may share its
slot with the next new name; the node that started last keeps it.

A stream holds at most one document.
-/

namespace LoadSweep.Yaml

set_option autoImplicit false

/-- A node of a document. -/
inductive Node where
  | alias (slot : Nat)
  | scalar (value : String) (style : ScalarStyle) (tag : Option String)
  | sequence (tag : Option String) (items : List Node)
  | mapping (tag : Option String) (entries : List (Node × Node))
  deriving Inhabited

/-- A node with the slot that its anchor gave it, and its rank among anchored nodes. -/
structure Anchored where
  slot : Nat
  rank : Nat
  node : Node

/-- What is known while nodes are read. -/
structure ParserState where
  tokens : List Token
  /-- What the tag handles stand for. -/
  handles : List (String × String)
  /-- The slot of each name. -/
  slots : List (String × Nat)
  anchored : List Anchored
  /-- The number of anchors so far. -/
  rank : Nat

/-- An action of the reader of nodes. -/
abbrev ParseM := StateT ParserState Option

/-- The next token. -/
def nextToken : ParseM Token := do
  return (← get).tokens.headD .streamEnd

/-- Moves over the next token. -/
def dropToken : ParseM Unit :=
  modify fun state => { state with tokens := state.tokens.tail }

/-- Whether the next token is one of several. -/
def nextIn (tokens : List Token) : ParseM Bool := do
  return tokens.contains (← nextToken)

/-- Moves over the next token if it is a given one. -/
def accept (token : Token) : ParseM Bool := do
  if ← nextIn [token] then
    dropToken
    return true
  else return false

/-- The node of nothing. -/
def emptyNode : Node := .scalar "" .plain none

/-- The tag that a handle and a suffix name. -/
def resolveTag (handle suffix : String) : ParseM String := do
  if handle.isEmpty then return suffix
  else match (← get).handles.lookup handle with
    | some start => return start ++ suffix
    | none => failure

/-- A tag, if one comes next. -/
def tag? : ParseM (Option (String × String)) := do
  match ← nextToken with
  | .tag handle suffix =>
    dropToken
    return some (handle, suffix)
  | _ => return none

/-- An anchor, if one comes next. -/
def anchor? : ParseM (Option String) := do
  match ← nextToken with
  | .anchor name =>
    dropToken
    return some name
  | _ => return none

/-- An anchor and a tag in either order. -/
def properties : ParseM (Option String × Option (String × String)) := do
  match ← anchor? with
  | some name => return (some name, ← tag?)
  | none =>
    match ← tag? with
    | some tag => return (← anchor?, some tag)
    | none => return (none, none)

/-- Gives a name the next slot. -/
def giveSlot (name : String) : ParseM (Nat × Nat) := do
  let state ← get
  let slot := state.slots.length
  let slots := if (state.slots.lookup name).isSome then
      state.slots.map fun known => if known.1 == name then (name, slot) else known
    else state.slots ++ [(name, slot)]
  set { state with slots, rank := state.rank + 1 }
  return (slot, state.rank)

/-- Keeps an anchored node. -/
def keepAnchored (anchored : Anchored) : ParseM Unit :=
  modify fun state => { state with anchored := anchored :: state.anchored }

/-- The tag of a scalar: a bare mark on it counts as none. -/
def scalarTag (tag : Option String) : Option String :=
  if tag == some "!" then none else tag

mutual

/-- A node.  Blocks are only admitted where `block` holds, and a sequence without an indentation of
its own only where `flush` holds. -/
def node : Nat → Bool → Bool → ParseM Node
  | 0, _, _ => failure
  | bound + 1, block, flush => do
    match ← nextToken with
    | .alias name =>
      dropToken
      match (← get).slots.lookup name with
      | some slot => return .alias slot
      | none => failure
    | _ =>
      let (anchor, named) ← properties
      let tag ← match named with
        | some (handle, suffix) => some <$> resolveTag handle suffix
        | none => pure none
      match anchor with
      | none => content bound block flush tag named.isSome
      | some name =>
        let (slot, rank) ← giveSlot name
        let node ← content bound block flush tag true
        keepAnchored ⟨slot, rank, node⟩
        return node

/-- A node after its anchor and tag; where it has one of them it may be empty. -/
def content : Nat → Bool → Bool → Option String → Bool → ParseM Node
  | 0, _, _, _, _ => failure
  | bound + 1, block, flush, tag, mayBeEmpty => do
    let token ← nextToken
    if flush && token == .blockEntry then return .sequence tag (← flushItems bound)
    else match token with
      | .scalar value style =>
        dropToken
        return .scalar value style (scalarTag tag)
      | .flowSequenceStart =>
        dropToken
        return .sequence tag (← flowItems bound true)
      | .flowMappingStart =>
        dropToken
        return .mapping tag (← flowEntries bound true)
      | .blockSequence =>
        if block then
          dropToken
          return .sequence tag (← blockItems bound)
        else emptyContent tag mayBeEmpty
      | .blockMapping =>
        if block then
          dropToken
          return .mapping tag (← blockEntries bound)
        else emptyContent tag mayBeEmpty
      | _ => emptyContent tag mayBeEmpty

/-- A node that has nothing but an anchor or a tag. -/
def emptyContent (tag : Option String) (mayBeEmpty : Bool) : ParseM Node :=
  if mayBeEmpty then return .scalar "" .plain tag else failure

/-- A node, or the node of nothing before certain tokens. -/
def nodeUnless : Nat → List Token → Bool → Bool → ParseM Node
  | 0, _, _, _ => failure
  | bound + 1, stops, block, flush => do
    if ← nextIn stops then return emptyNode else node bound block flush

/-- The items of a block sequence. -/
def blockItems : Nat → ParseM (List Node)
  | 0 => failure
  | bound + 1 => do
    if ← accept .blockEntry then
      let item ← nodeUnless bound [.blockEntry, .blockEnd] true false
      return item :: (← blockItems bound)
    else if ← accept .blockEnd then return []
    else failure

/-- The items of a sequence without an indentation of its own. -/
def flushItems : Nat → ParseM (List Node)
  | 0 => failure
  | bound + 1 => do
    if ← accept .blockEntry then
      let item ← nodeUnless bound [.blockEntry, .key, .value, .blockEnd] true false
      return item :: (← flushItems bound)
    else return []

/-- The value after a key in a block mapping. -/
def blockValue : Nat → ParseM Node
  | 0 => failure
  | bound + 1 => do
    if ← accept .value then nodeUnless bound [.key, .value, .blockEnd] true true
    else return emptyNode

/-- The entries of a block mapping. -/
def blockEntries : Nat → ParseM (List (Node × Node))
  | 0 => failure
  | bound + 1 => do
    if ← accept .key then
      let key ← nodeUnless bound [.key, .value, .blockEnd] true true
      let value ← blockValue bound
      return (key, value) :: (← blockEntries bound)
    else if ← accept .blockEnd then return []
    else failure

/-- The only entry of a mapping within a flow sequence, after the mark of its key. -/
def flowPair : Nat → ParseM Node
  | 0 => failure
  | bound + 1 => do
    let key ← if ← nextIn [.value, .flowEntry, .flowSequenceEnd] then do
        -- an empty key takes the token after it along
        dropToken
        pure emptyNode
      else node bound false false
    let value ← if ← accept .value then
        nodeUnless bound [.flowEntry, .flowSequenceEnd] false false
      else pure emptyNode
    return .mapping none [(key, value)]

/-- The items of a flow sequence. -/
def flowItems : Nat → Bool → ParseM (List Node)
  | 0, _ => failure
  | bound + 1, first => do
    if ← accept .flowSequenceEnd then return []
    else
      if !first then
        if !(← accept .flowEntry) then failure
      if ← accept .key then
        let item ← flowPair bound
        return item :: (← flowItems bound false)
      else if ← accept .flowSequenceEnd then return []
      else
        let item ← node bound false false
        return item :: (← flowItems bound false)

/-- The value after a key in a flow mapping. -/
def flowValue : Nat → ParseM Node
  | 0 => failure
  | bound + 1 => do
    if ← accept .value then nodeUnless bound [.flowEntry, .flowMappingEnd] false false
    else return emptyNode

/-- The entries of a flow mapping. -/
def flowEntries : Nat → Bool → ParseM (List (Node × Node))
  | 0, _ => failure
  | bound + 1, first => do
    if ← accept .flowMappingEnd then return []
    else
      if !first then
        if !(← accept .flowEntry) then failure
      if ← accept .key then
        let key ← nodeUnless bound [.value, .flowEntry, .flowMappingEnd] false false
        let value ← flowValue bound
        return (key, value) :: (← flowEntries bound false)
      else if ← accept .flowMappingEnd then return []
      else
        let key ← node bound false false
        return (key, emptyNode) :: (← flowEntries bound false)

end

/-- The tag handles that need no directive. -/
def builtinHandles : List (String × String) :=
  [("!", "!"), ("!!", Document.coreTag "")]

/-- The directives before a document; each may be given once. -/
def directives : Nat → Bool → List (String × String) → ParseM (List (String × String))
  | 0, _, _ => failure
  | bound + 1, versioned, handles => do
    match ← nextToken with
    | .version major minor =>
      if versioned || major != 1 || !(minor == 1 || minor == 2) then failure
      dropToken
      directives bound true handles
    | .tagDirective handle start =>
      if (handles.lookup handle).isSome then failure
      dropToken
      directives bound versioned (handles ++ [(handle, start)])
    | _ => return handles

/-- Moves over the marks that end a document. -/
def documentEnds : Nat → ParseM Unit
  | 0 => pure ()
  | bound + 1 => do
    if ← accept .documentEnd then documentEnds bound

/-- The node of the only document of a stream, if it has one. -/
def onlyDocument : ParseM (Option Node) := do
  let bound := 4 * (← get).tokens.length + 4
  let first ← nextToken
  if first == .streamEnd then return none
  else
    let handles ← directives bound false []
    modify fun state => { state with handles := handles ++ builtinHandles }
    let explicit ← accept .documentStart
    if !explicit && (← nextToken) != first then failure
    let root ←
      if explicit then nodeUnless bound [.documentStart, .documentEnd, .streamEnd] true false
      else node bound true false
    documentEnds bound
    if ← nextIn [.streamEnd] then return some root else failure

/-- The node of the only document of a stream, if it has one, and the anchored nodes. -/
def readNodes? (text : String) : Option (Option Node × List Anchored) :=
  (tokens? text).bind fun tokens =>
    (onlyDocument.run ⟨tokens, [], [], [], 0⟩).map fun (root, state) => (root, state.anchored)

end LoadSweep.Yaml
