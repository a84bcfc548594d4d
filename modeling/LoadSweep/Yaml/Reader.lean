import LoadSweep.Yaml.Node

/-!
# Reading YAML

The nodes of a stream become a document whose scalars have no decided type.  An alias stands for the
node in its slot.  Slots are filled in rounds: at first none is readable, and each round reads every
anchored node with the slots of the round before, so that after as many rounds as there are slots
all are filled that do not contain themselves.  An alias of a node that contains itself without end,
or that would repeat nodes out of proportion to the stream, is not readable.
-/

namespace LoadSweep.Yaml

set_option autoImplicit false

/-- The documents of slots. -/
abbrev Slots := List (Nat × Document)

/-- A list or record, marked if it has a tag of its own. -/
def withTag (tag : Option String) (document : Document) : Document :=
  if (Document.ownTag? tag).isSome then .marked document else document

mutual

/-- The document of a node. -/
def Node.document (slots : Slots) : Node → Document
  | .alias slot => (slots.lookup slot).getD .unreadable
  | .scalar value style tag => .scalar value style tag
  | .sequence tag items => withTag tag (.list false (documentItems slots items))
  | .mapping tag entries => withTag tag (.record false (documentEntries slots entries))

/-- The documents of the items of a sequence. -/
def documentItems (slots : Slots) : List Node → List Document
  | [] => []
  | item :: items => item.document slots :: documentItems slots items

/-- The documents of the entries of a mapping. -/
def documentEntries (slots : Slots) : List (Node × Node) → List (Document × Document)
  | [] => []
  | (key, value) :: entries =>
    (key.document slots, value.document slots) :: documentEntries slots entries

end

mutual

/-- The number of aliases followed in reading a node, given that number for the slots. -/
def Node.weight (weights : List (Nat × Nat)) : Node → Nat
  | .alias slot => 1 + (weights.lookup slot).getD 0
  | .scalar _ _ _ => 0
  | .sequence _ items => weightItems weights items
  | .mapping _ entries => weightEntries weights entries

/-- The number of aliases followed in reading items. -/
def weightItems (weights : List (Nat × Nat)) : List Node → Nat
  | [] => 0
  | item :: items => item.weight weights + weightItems weights items

/-- The number of aliases followed in reading entries. -/
def weightEntries (weights : List (Nat × Nat)) : List (Node × Node) → Nat
  | [] => 0
  | (key, value) :: entries =>
    key.weight weights + value.weight weights + weightEntries weights entries

end

/-- Whether no later node has the slot of an anchored node. -/
def Anchored.isLast (anchored : Anchored) (all : List Anchored) : Bool :=
  all.all fun other => other.slot != anchored.slot || other.rank ≤ anchored.rank

/-- The weights of slots after a number of rounds. -/
def weightRounds (anchored : List Anchored) : Nat → List (Nat × Nat)
  | 0 => []
  | rounds + 1 =>
    let weights := weightRounds anchored rounds
    anchored.map fun anchored => (anchored.slot, anchored.node.weight weights)

/-- The documents of slots after a number of rounds; those that are too heavy are not readable. -/
def slotRounds (anchored : List Anchored) (heavy : Nat → Bool) : Nat → Slots
  | 0 => []
  | rounds + 1 =>
    let slots := slotRounds anchored heavy rounds
    anchored.map fun anchored =>
      (anchored.slot,
        if heavy anchored.slot then .unreadable else anchored.node.document slots)

/-- The levels of records that the deepest reader follows through an alias of an enclosing node. -/
def spareRounds : Nat := 6

/-- The document of a stream; a stream without one has an empty scalar. -/
def readDocument? (text : String) : Option Document :=
  (readNodes? text).map fun (root, all) =>
    let anchored := all.filter fun anchored => anchored.isLast all
    let rounds := anchored.length + spareRounds
    let weights := weightRounds anchored (anchored.length + 1)
    let allowed := 100 * (text.length + 1)
    let heavy (slot : Nat) : Bool := allowed < (weights.lookup slot).getD 0
    (root.getD emptyNode).document (slotRounds anchored heavy rounds)

end LoadSweep.Yaml
