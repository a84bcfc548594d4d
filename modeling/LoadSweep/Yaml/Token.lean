import LoadSweep.Document
import LoadSweep.Yaml.Character

/-!
# Tokens of YAML

A stream is first cut into tokens.  Some of them stand for characters of the stream; others mark
where a block begins or ends, which the indentation alone tells.
-/

namespace LoadSweep.Yaml

set_option autoImplicit false

/-- A token of a stream. -/
inductive Token where
  | version (major minor : Nat)
  | tagDirective (handle start : String)
  | documentStart
  | documentEnd
  | blockSequence
  | blockMapping
  | blockEnd
  | flowSequenceStart
  | flowSequenceEnd
  | flowMappingStart
  | flowMappingEnd
  | blockEntry
  | flowEntry
  | key
  | value
  | alias (name : String)
  | anchor (name : String)
  | tag (handle suffix : String)
  | scalar (value : String) (style : ScalarStyle)
  | streamEnd
  deriving Repr, DecidableEq, Inhabited

/-- The breaks between two stretches of a folded scalar: the first one and the others. -/
structure Fold where
  first : List Char
  others : List Char

/-- What breaks between two stretches read as: a single line feed reads as a space, and further
ones as themselves. -/
def Fold.text (fold : Fold) : List Char :=
  if fold.first.head? == some '\n' then
    if fold.others.isEmpty then [' '] else fold.others
  else fold.first ++ fold.others

end LoadSweep.Yaml
