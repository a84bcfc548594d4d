import LoadSweep.Document.Scalar
import LoadSweep.Json.Magnitude

/-!
# Documents

Settings and datasets are decoded from documents: trees of scalars, lists and records.  JSON
decides the type of every scalar; YAML leaves it to what the reader of a field expects.  A list
whose items have decided types may stand for a record, its items being the fields in order.

Records are read by field.  An unknown field is ignored whatever it holds, a field that is given
twice is refused, and an absent one takes its default or is refused by its reader.
-/

namespace LoadSweep

open LoadSweep.Text

set_option autoImplicit false

/-- How an undecided scalar is presented. -/
inductive ScalarStyle where
  | plain
  | quoted
  | literal
  deriving Repr, DecidableEq, Inhabited

/-- A tree of scalars, lists and records.  `decided` tells whether the types below are decided. -/
inductive Document where
  | null
  | flag (value : Bool)
  | natural (value : Nat)
  | negative (size : Nat)
  | real (value : Float)
  | text (value : String)
  /-- A scalar whose type is left open. -/
  | scalar (value : String) (style : ScalarStyle) (tag : Option String)
  | list (decided : Bool) (items : List Document)
  | record (decided : Bool) (entries : List (Document × Document))
  /-- A list or record under a tag of its own. -/
  | marked (content : Document)
  /-- A part that is refused by every reader, but harmless where nobody reads it. -/
  | unreadable
  deriving Inhabited

namespace Document

/-- The document of a number. -/
def ofNumeral (numeral : Numeral) : Document :=
  match numeral.magnitude? with
  | some (.natural n) => .natural n
  | some (.real x) => .real x
  | none => .unreadable

/-- The document of a text. -/
def ofText? (value : Option String) : Document :=
  match value with
  | some value => .text value
  | none => .unreadable

mutual

/-- The document of a JSON value. -/
def ofJson : Json → Document
  | .null => .null
  | .flag value => .flag value
  | .number value => ofNumeral value
  | .text value => ofText? value
  | .array items => .list true (ofJsonItems items)
  | .object members => .record true (ofJsonMembers members)

/-- The documents of the items of an array. -/
def ofJsonItems : List Json → List Document
  | [] => []
  | item :: items => ofJson item :: ofJsonItems items

/-- The entries for the members of an object. -/
def ofJsonMembers : List (Option String × Json) → List (Document × Document)
  | [] => []
  | (name, value) :: members => (ofText? name, ofJson value) :: ofJsonMembers members

end

/-- Reads a text; every undecided scalar is one. -/
def text? : Document → Option String
  | .text value => some value
  | .scalar value _ _ => some value
  | _ => none

/-- The tag of the scalars of a core type. -/
def coreTag (name : String) : String :=
  "tag:yaml.org,2002:" ++ name

/-- Whether an undecided scalar may be read as a core type: if it is plain, or a literal block
under the tag of that type. -/
def admits (type : String) (style : ScalarStyle) (tag : Option String) : Bool :=
  match style with
  | .plain => true
  | .quoted => false
  | .literal => tag == some (coreTag type)

/-- Reads a natural number below a bound. -/
def natural? (bound : Nat) : Document → Option Nat
  | .natural value => if value < bound then some value else none
  | .negative 0 => some 0
  | .scalar value style tag =>
    if admits "int" style tag then
      (Scalar.natural? UInt64.size value.toList).filter (· < bound)
    else none
  | _ => none

/-- Reads a truth value. -/
def flag? : Document → Option Bool
  | .flag value => some value
  | .scalar value style tag => if admits "bool" style tag then Scalar.flag? value else none
  | _ => none

/-- Reads a number whose type is decided. -/
def number? : Document → Option Float
  | .natural value => some (UInt64.ofNat value).toFloat
  | .real value => some value
  | _ => none

/-- Reads the items of a list. -/
def items? : Document → Option (List Document)
  | .list _ items => some items
  | .marked content => items? content
  | .scalar "" .plain _ => some []
  | _ => none

/-- The fields of a record that were given, by name. -/
abbrev Fields := List (String × Document)

/-- The name of a field: its text, or the name at its position among the known ones. -/
def fieldName? (names : List String) : Document → Option String
  | .text name => some name
  | .scalar name _ _ => some name
  | .natural position => some ((names[position]?).getD "")
  | _ => none

/-- Adds an entry to the fields given so far. -/
def addField? (names : List String) (fields : Fields) (entry : Document × Document) :
    Option Fields :=
  (fieldName? names entry.1).bind fun name =>
    if !names.contains name then some fields
    else if (fields.lookup name).isSome then none
    else some (fields ++ [(name, entry.2)])

/-- Reads a record with known field names. -/
def fields? (names : List String) : Document → Option Fields
  | .record _ entries => entries.foldlM (addField? names) []
  | .list true items => if items.length ≤ names.length then some (names.zip items) else none
  | .marked content => fields? names content
  | .scalar "" .plain _ => some []
  | _ => none

/-- Reads a field that must be given. -/
def Fields.required? {α : Type} (fields : Fields) (name : String) (reader? : Document → Option α) :
    Option α :=
  (fields.lookup name).bind reader?

/-- Reads a field that may be absent. -/
def Fields.optional? {α : Type} (fields : Fields) (name : String) (absent : α)
    (reader? : Document → Option α) : Option α :=
  match fields.lookup name with
  | none => some absent
  | some value => reader? value

/-- The name after the mark of a tag of one's own. -/
def ownTag? (tag : Option String) : Option String :=
  match tag.map String.toList with
  | some ('!' :: name) => some (String.ofList name)
  | _ => none

/-- Whether a scalar may stand for the absent content of a choice. -/
def isNothing (value : String) (style : ScalarStyle) : Bool :=
  style == .plain && (value == "" || Scalar.isNull value)

/-- Reads one of several names: as a text, as a tag of one's own on nothing, or as the only field
of a record, which then holds null. -/
def choice? : Document → Option String
  | .text name => some name
  | .record true [(.text name, .null)] => some name
  | .scalar value style tag =>
    match ownTag? tag with
    | some name => if isNothing value style then some name else none
    | none => some value
  | _ => none

/-- Reads every item of a list. -/
def listOf? {α : Type} (reader? : Document → Option α) (document : Document) : Option (List α) :=
  document.items?.bind fun items => items.mapM reader?

/-- Decides the type of a scalar. -/
def settleScalar? (value : String) (style : ScalarStyle) (tag : Option String) :
    Option Document :=
  let integer? := match Scalar.integer? value.toList with
    | some (.natural n) => some (.natural n)
    | some (.negative n) => some (.negative n)
    | _ => none
  match tag with
  | some name =>
    if (ownTag? tag).isSome then none
    else if name == coreTag "bool" then (Scalar.flag? value).map .flag
    else if name == coreTag "int" then integer?
    else if name == coreTag "float" then (Scalar.real? value.toList).map .real
    else if name == coreTag "null" then if Scalar.isNull value then some .null else none
    else some (.text value)
  | none =>
    if style != .plain then some (.text value)
    else match Scalar.meaning value with
      | .null => some .null
      | .flag value => some (.flag value)
      | .natural n => some (.natural n)
      | .negative n => some (.negative n)
      | .wide => none
      | .real x => some (.real x)
      | .text => some (.text value)

mutual

/-- Decides the type of every scalar, in a document nested at most `room` deep. -/
def settle? : Nat → Document → Option Document
  | _, .null => some .null
  | _, .flag value => some (.flag value)
  | _, .natural value => some (.natural value)
  | _, .negative size => some (.negative size)
  | _, .real value => some (.real value)
  | _, .text value => some (.text value)
  | _, .scalar value style tag => settleScalar? value style tag
  | 0, .list _ _ => none
  | room + 1, .list _ items => (settleItems? room items).map (.list true)
  | 0, .record _ _ => none
  | room + 1, .record _ entries => (settleEntries? room entries).map (.record true)
  | _, .marked _ => none
  | _, .unreadable => none

/-- Decides the types in each item. -/
def settleItems? : Nat → List Document → Option (List Document)
  | _, [] => some []
  | room, item :: items =>
    (settle? room item).bind fun item => (settleItems? room items).map (item :: ·)

/-- Decides the types in each entry. -/
def settleEntries? : Nat → List (Document × Document) → Option (List (Document × Document))
  | _, [] => some []
  | room, (key, value) :: entries =>
    (settle? room key).bind fun key =>
      (settle? room value).bind fun value =>
        (settleEntries? room entries).map ((key, value) :: ·)

end

end Document

end LoadSweep
