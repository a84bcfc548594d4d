import LoadSweep.Proofs.Markup.Marks
import LoadSweep.Proofs.Text.Cuts

/-!
# Elements of a document

A tag opens an element, closes one, or stands aside: a declaration, a tag closed in itself, and
`meta`, which has no end.  Tags are well nested if each closing tag closes the innermost open
element and none is left open in the end.  `Balanced` marks leave the open elements as they found
them; an element around balanced marks is balanced (`balanced_element`), so a document that is put
together from elements is well nested.

The contents of the elements of one name are the texts right after their opening tags, with the
entities undone.
-/

namespace LoadSweep.Markup

open Text

set_option autoImplicit false

/-! ## Kinds of tags -/

/-- What a tag does to the open elements. -/
inductive TagKind where
  | aside
  | opening (name : String)
  | closing (name : String)
  deriving Repr, DecidableEq

/-- The name in a tag: what stands before its first blank. -/
def tagName (tag : String) : String :=
  String.ofList (tag.toList.takeWhile (· != ' '))

/-- Whether a tag is a declaration, is closed in itself, or is `meta`. -/
def standsAside (tag : String) : Bool :=
  tag.toList.head? == some '!' || tag.toList.getLast? == some '/' || tagName tag == "meta"

/-- The kind of a tag. -/
def tagKind (tag : String) : TagKind :=
  if standsAside tag then .aside
  else if tag.toList.head? == some '/' then .closing (String.ofList tag.toList.tail)
  else .opening (tagName tag)

/-! ## Nesting -/

/-- The open elements after a tag, innermost first; there are none after a tag that closes another
element than the innermost. -/
def TagKind.follow? (opened : List String) : TagKind → Option (List String)
  | .aside => some opened
  | .opening name => some (name :: opened)
  | .closing name =>
    match opened with
    | innermost :: outer => if innermost == name then some outer else none
    | [] => none

/-- Every closing tag closes the innermost open element, and no element stays open. -/
def WellNested (tags : List String) : Prop :=
  (tags.map tagKind).foldlM TagKind.follow? [] = some []

/-- The kinds of the tags of marks. -/
def kinds (marks : List Mark) : List TagKind :=
  marks.map fun mark => tagKind mark.tag

theorem kinds_append (marks others : List Mark) :
    kinds (marks ++ others) = kinds marks ++ kinds others :=
  List.map_append

/-- Marks that leave the open elements as they found them. -/
def Balanced (marks : List Mark) : Prop :=
  ∀ opened, (kinds marks).foldlM TagKind.follow? opened = some opened

theorem Balanced.wellNested {marks : List Mark} (balanced : Balanced marks) :
    WellNested (marks.map Mark.tag) := by
  rw [WellNested, List.map_map]
  exact balanced []

theorem balanced_nil : Balanced [] :=
  fun _ => rfl

theorem Balanced.append {marks others : List Mark} (first : Balanced marks)
    (second : Balanced others) : Balanced (marks ++ others) := by
  intro opened
  rw [kinds_append, List.foldlM_append, first opened]
  exact second opened

theorem Balanced.flatMap {α : Type} {marksOf : α → List Mark} {items : List α}
    (each : ∀ item ∈ items, Balanced (marksOf item)) : Balanced (items.flatMap marksOf) := by
  induction items with
  | nil => exact balanced_nil
  | cons item items ih =>
    obtain ⟨here, others⟩ := List.forall_mem_cons.mp each
    rw [List.flatMap_cons]
    exact here.append (ih others)

/-! ## Contents -/

/-- The texts right after the opening tags of a name, with the entities undone. -/
def contentsOf (name : String) (marks : List Mark) : List String :=
  (marks.filter fun mark => tagKind mark.tag == .opening name).map fun mark => unescaped mark.text

/-- The contents of the elements of a name in a document. -/
def contents (name document : String) : List String :=
  contentsOf name (marks document)

theorem contentsOf_append (name : String) (marks others : List Mark) :
    contentsOf name (marks ++ others) = contentsOf name marks ++ contentsOf name others := by
  rw [contentsOf, List.filter_append, List.map_append]
  rfl

theorem contentsOf_flatMap {α : Type} (name : String) (marksOf : α → List Mark) (items : List α) :
    contentsOf name (items.flatMap marksOf) =
      items.flatMap fun item => contentsOf name (marksOf item) := by
  induction items with
  | nil => rfl
  | cons item items ih => rw [List.flatMap_cons, contentsOf_append, ih, List.flatMap_cons]

/-! ## Writing elements -/

/-- The elements that reports are written with.  All of them have an end. -/
inductive ElementName where
  | html | head | title | style | body | h1 | h2 | p | div | table | tr | th | td | ul | li | span
  | svg | rect | line | text
  deriving Repr, DecidableEq

/-- A name as it is written in a tag. -/
@[reducible] def ElementName.shown : ElementName → String
  | .html => "html"
  | .head => "head"
  | .title => "title"
  | .style => "style"
  | .body => "body"
  | .h1 => "h1"
  | .h2 => "h2"
  | .p => "p"
  | .div => "div"
  | .table => "table"
  | .tr => "tr"
  | .th => "th"
  | .td => "td"
  | .ul => "ul"
  | .li => "li"
  | .span => "span"
  | .svg => "svg"
  | .rect => "rect"
  | .line => "line"
  | .text => "text"

/-- Attributes as they are written in a tag. -/
def attributesText (attributes : List (String × String)) : String :=
  String.join (attributes.map fun (key, value) => " " ++ key ++ "=\x22" ++ value ++ "\x22")

/-- An element: the marks of its opening tag, of what is in it, and of its closing tag. -/
def element (name : ElementName) (attributes : List (String × String)) (text : String)
    (inner : List Mark) (after : String) : List Mark :=
  ⟨name.shown ++ attributesText attributes, text⟩ :: (inner ++ [⟨"/" ++ name.shown, after⟩])

/-- An element with nothing but a text in it. -/
def leaf (name : ElementName) (attributes : List (String × String)) (text after : String) :
    List Mark :=
  element name attributes text [] after

/-- A tag that is closed in itself. -/
def single (name : ElementName) (attributes : List (String × String)) (after : String) :
    List Mark :=
  [⟨name.shown ++ attributesText attributes ++ "/", after⟩]

namespace ElementName

variable (name : ElementName)

theorem shown_ne_meta : name.shown ≠ "meta" := by
  cases name <;> decide

theorem toList_shown_ne_nil : name.shown.toList ≠ [] := by
  cases name <;> decide

/-- A name has letters and digits only. -/
theorem isAlphanum_of_mem_shown {c : Char} (member : c ∈ name.shown.toList) :
    c.isAlphanum = true := by
  have each : name.shown.toList.all Char.isAlphanum = true := by cases name <;> rfl
  exact List.all_eq_true.mp each c member

theorem not_mem_shown {c : Char} (other : c.isAlphanum = false) : c ∉ name.shown.toList := by
  intro member
  rw [name.isAlphanum_of_mem_shown member] at other
  cases other

/-- The last character of a name is not a slash. -/
theorem getLast?_shown_ne : name.shown.toList.getLast? ≠ some '/' :=
  fun last => name.not_mem_shown (by decide) (List.mem_of_getLast? last)

theorem plain_shown : Plain name.shown := by
  intro c member
  constructor <;>
  · rintro rfl
    exact name.not_mem_shown (by decide) member

end ElementName

/-- Attributes begin with a blank and end with a quote. -/
theorem attributesText_cases (attributes : List (String × String)) :
    attributesText attributes = "" ∨
      ∃ middle, (attributesText attributes).toList = ' ' :: (middle ++ ['\x22']) := by
  induction attributes with
  | nil => exact .inl rfl
  | cons pair others ih =>
    obtain ⟨key, value⟩ := pair
    right
    have unfolded : (attributesText ((key, value) :: others)).toList =
        ' ' :: (key.toList ++ "=\x22".toList ++ value.toList ++ ['\x22'] ++
          (attributesText others).toList) := by
      simp [attributesText]
    rcases ih with none | ⟨middle, some⟩
    · refine ⟨key.toList ++ "=\x22".toList ++ value.toList, ?_⟩
      rw [unfolded, none, String.toList_empty, List.append_nil]
    · refine ⟨key.toList ++ "=\x22".toList ++ value.toList ++ '\x22' :: ' ' :: middle, ?_⟩
      rw [unfolded, some]
      simp

theorem tagName_opening (name : ElementName) (attributes : List (String × String)) :
    tagName (name.shown ++ attributesText attributes) = name.shown := by
  have letters : ∀ c ∈ name.shown.toList, (c != ' ') = true := by
    intro c member
    exact bne_iff_ne.mpr fun same => name.not_mem_shown (by decide) (same ▸ member)
  have blank : ∀ c ∈ (attributesText attributes).toList.head?, (c != ' ') = false := by
    rcases attributesText_cases attributes with none | ⟨middle, some⟩
    · rw [none]
      exact nofun
    · rw [some]
      rintro c ⟨⟩
      rfl
  rw [tagName, String.toList_append, (span_until letters blank).1, String.ofList_toList]

theorem getLast?_opening (name : ElementName) (attributes : List (String × String)) :
    (name.shown ++ attributesText attributes).toList.getLast? ≠ some '/' := by
  rcases attributesText_cases attributes with none | ⟨middle, some⟩
  · rw [none, String.append_empty]
    exact name.getLast?_shown_ne
  · rw [String.toList_append, some, ← List.cons_append, ← List.append_assoc,
      List.getLast?_concat]
    decide

theorem head?_opening (name : ElementName) {c : Char} (other : c.isAlphanum = false)
    (attributes : List (String × String)) :
    (name.shown ++ attributesText attributes).toList.head? ≠ some c := by
  obtain ⟨first, others, starts⟩ := List.exists_cons_of_ne_nil name.toList_shown_ne_nil
  rw [String.toList_append, starts, List.cons_append, List.head?_cons]
  rintro ⟨⟩
  exact name.not_mem_shown other (starts ▸ List.mem_cons_self)

theorem tagKind_opening (name : ElementName) (attributes : List (String × String)) :
    tagKind (name.shown ++ attributesText attributes) = .opening name.shown := by
  have stands : standsAside (name.shown ++ attributesText attributes) = false := by
    simp only [standsAside, tagName_opening, Bool.or_eq_false_iff, beq_eq_false_iff_ne]
    exact ⟨⟨head?_opening name (by decide) attributes, getLast?_opening name attributes⟩,
      name.shown_ne_meta⟩
  have slash := beq_false_of_ne (head?_opening name (c := '/') (by decide) attributes)
  rw [tagKind, stands, slash, tagName_opening]
  rfl

theorem tagKind_closing (name : ElementName) :
    tagKind ("/" ++ name.shown) = .closing name.shown := by
  have characters : ("/" ++ name.shown).toList = '/' :: name.shown.toList := by
    rw [String.toList_append]
    rfl
  have last : ("/" ++ name.shown).toList.getLast? ≠ some '/' := by
    rw [characters, List.getLast?_cons_of_ne_nil name.toList_shown_ne_nil]
    exact name.getLast?_shown_ne
  have other : tagName ("/" ++ name.shown) ≠ "meta" := by
    intro same
    have starts := congrArg String.toList same
    rw [tagName, characters, String.toList_ofList, List.takeWhile_cons_of_pos rfl] at starts
    cases starts
  have stands : standsAside ("/" ++ name.shown) = false := by
    simp only [standsAside, Bool.or_eq_false_iff, beq_eq_false_iff_ne]
    refine ⟨⟨?_, last⟩, other⟩
    rw [characters, List.head?_cons]
    decide
  rw [tagKind, stands, characters]
  simp

theorem tagKind_single (name : ElementName) (attributes : List (String × String)) :
    tagKind (name.shown ++ attributesText attributes ++ "/") = .aside := by
  have last : (name.shown ++ attributesText attributes ++ "/").toList.getLast? = some '/' := by
    simp
  rw [tagKind, standsAside, last, beq_self_eq_true, Bool.or_true, Bool.true_or]
  rfl

/-! ## Putting elements together -/

/-- Attributes without angle brackets. -/
def PlainAttributes (attributes : List (String × String)) : Prop :=
  ∀ pair ∈ attributes, Plain pair.1 ∧ Plain pair.2

instance (attributes : List (String × String)) : Decidable (PlainAttributes attributes) :=
  inferInstanceAs (Decidable (∀ pair ∈ attributes, Plain pair.1 ∧ Plain pair.2))

@[simp] theorem plainAttributes_nil : PlainAttributes [] :=
  List.forall_mem_nil _

@[simp] theorem plainAttributes_cons_iff (key value : String) (others : List (String × String)) :
    PlainAttributes ((key, value) :: others) ↔
      (Plain key ∧ Plain value) ∧ PlainAttributes others :=
  List.forall_mem_cons

theorem plain_attributesText {attributes : List (String × String)}
    (plain : PlainAttributes attributes) : Plain (attributesText attributes) := by
  apply plain_join
  intro text member
  obtain ⟨⟨key, value⟩, held, rfl⟩ := List.mem_map.mp member
  obtain ⟨plainKey, plainValue⟩ := plain _ held
  simp only [plain_append_iff, plainKey, plainValue, and_true]
  decide

/-- What an element has around its text can be written as it is: neither the attributes nor the
text after the element have angle brackets. -/
structure WellFormed (attributes : List (String × String)) (after : String) : Prop where
  plain : PlainAttributes attributes
  plainAfter : Plain after

@[simp] theorem wellFormed_iff (attributes : List (String × String)) (after : String) :
    WellFormed attributes after ↔ PlainAttributes attributes ∧ Plain after :=
  ⟨fun ⟨plain, plainAfter⟩ => ⟨plain, plainAfter⟩, fun ⟨plain, plainAfter⟩ => ⟨plain, plainAfter⟩⟩

instance (attributes : List (String × String)) (after : String) :
    Decidable (WellFormed attributes after) :=
  decidable_of_iff' _ (wellFormed_iff attributes after)

section Writing

variable {name : ElementName} {text after : String} {attributes : List (String × String)}
  {inner : List Mark}

theorem plainMarks_single (formed : WellFormed attributes after) :
    PlainMarks (single name attributes after) := by
  refine List.forall_mem_singleton.mpr ⟨?_, formed.plainAfter⟩
  simp only [plain_append_iff, name.plain_shown, plain_attributesText formed.plain, true_and]
  decide

theorem plainMarks_element (formed : WellFormed attributes after) (plainText : Plain text)
    (plainInner : PlainMarks inner) : PlainMarks (element name attributes text inner after) := by
  refine List.forall_mem_cons.mpr ⟨⟨?_, plainText⟩, plainInner.append ?_⟩
  · simp only [plain_append_iff, name.plain_shown, plain_attributesText formed.plain, true_and]
  · refine List.forall_mem_singleton.mpr ⟨?_, formed.plainAfter⟩
    simp only [plain_append_iff, name.plain_shown, and_true]
    decide

theorem plainMarks_leaf (formed : WellFormed attributes after) (plainText : Plain text) :
    PlainMarks (leaf name attributes text after) :=
  plainMarks_element formed plainText (List.forall_mem_nil _)

/-- An element around a document that is written mark by mark. -/
theorem Marked.element {content : String} (formed : WellFormed attributes after)
    (plainText : Plain text) (marked : Marked content inner) :
    Marked ("<" ++ name.shown ++ attributesText attributes ++ ">" ++ text ++ content
      ++ "</" ++ name.shown ++ ">" ++ after) (element name attributes text inner after) where
  text := by
    rw [marked.text]
    simp [Markup.element, Mark.written, ← String.toList_inj]
  plain := plainMarks_element formed plainText marked.plain

theorem leaf_marked (formed : WellFormed attributes after) (plainText : Plain text) :
    Marked ("<" ++ name.shown ++ attributesText attributes ++ ">" ++ text
      ++ "</" ++ name.shown ++ ">" ++ after) (leaf name attributes text after) :=
  (Marked.element formed plainText .nil).of_toList (by simp)

end Writing

/-- The texts in and after an element leave its tags as they are. -/
theorem tags_element (name : ElementName) (attributes : List (String × String)) (text : String)
    (inner : List Mark) (after : String) :
    (element name attributes text inner after).map Mark.tag =
      (name.shown ++ attributesText attributes) :: (inner.map Mark.tag ++ ["/" ++ name.shown]) := by
  rw [element, List.map_cons, List.map_append]
  rfl

theorem tags_leaf (name : ElementName) (attributes : List (String × String)) (text after : String) :
    (leaf name attributes text after).map Mark.tag =
      [name.shown ++ attributesText attributes, "/" ++ name.shown] :=
  tags_element name attributes text [] after

theorem tags_single (name : ElementName) (attributes : List (String × String)) (after : String) :
    (single name attributes after).map Mark.tag =
      [name.shown ++ attributesText attributes ++ "/"] :=
  rfl

section Nesting

variable {name : ElementName} {tag text after : String} {attributes : List (String × String)}
  {inner : List Mark}

theorem balanced_aside (aside : tagKind tag = .aside) : Balanced [⟨tag, text⟩] := by
  intro opened
  rw [kinds, List.map_singleton, aside]
  rfl

theorem balanced_single : Balanced (single name attributes after) :=
  balanced_aside (tagKind_single name attributes)

theorem kinds_element :
    kinds (element name attributes text inner after) =
      .opening name.shown :: (kinds inner ++ [.closing name.shown]) := by
  rw [element, kinds, List.map_cons, List.map_append, List.map_singleton, tagKind_opening,
    tagKind_closing]
  rfl

/-- An element closes what it opens. -/
theorem balanced_element (balanced : Balanced inner) :
    Balanced (element name attributes text inner after) := by
  intro opened
  have closes : TagKind.follow? (name.shown :: opened) (.closing name.shown) = some opened :=
    if_pos (beq_self_eq_true name.shown)
  rw [kinds_element, List.foldlM_cons, TagKind.follow?, Option.bind_eq_bind,
    Option.bind_some, List.foldlM_append, balanced, Option.bind_eq_bind, Option.bind_some,
    List.foldlM_cons, closes]
  rfl

theorem balanced_leaf : Balanced (leaf name attributes text after) :=
  balanced_element balanced_nil

end Nesting

section Contents

variable {sought tag text after original : String} {name : ElementName}
  {attributes : List (String × String)} {inner : List Mark}

theorem contentsOf_aside (aside : tagKind tag = .aside) :
    contentsOf sought [⟨tag, text⟩] = [] := by
  simp [contentsOf, aside]

theorem contentsOf_single : contentsOf sought (single name attributes after) = [] :=
  contentsOf_aside (tagKind_single name attributes)

/-- The text of an element stands before the contents of what is in it. -/
theorem contentsOf_element :
    contentsOf sought (element name attributes text inner after) =
      (if name.shown = sought then [unescaped text] else []) ++ contentsOf sought inner := by
  have closes : contentsOf sought [⟨"/" ++ name.shown, after⟩] = [] := by
    simp [contentsOf, tagKind_closing]
  have opens : contentsOf sought [⟨name.shown ++ attributesText attributes, text⟩] =
      if name.shown = sought then [unescaped text] else [] := by
    by_cases same : name.shown = sought
    · subst same
      simp [contentsOf, tagKind_opening]
    · simp [contentsOf, tagKind_opening, same]
  rw [element, ← List.singleton_append, contentsOf_append, contentsOf_append, opens, closes,
    List.append_nil]

theorem contentsOf_enclosing (other : name.shown ≠ sought) :
    contentsOf sought (element name attributes text inner after) = contentsOf sought inner := by
  rw [contentsOf_element, if_neg other, List.nil_append]

theorem contentsOf_leaf (denotes : Denotes text original) :
    contentsOf sought (leaf name attributes text after) =
      if name.shown = sought then [original] else [] := by
  rw [leaf, contentsOf_element, denotes.unescaped]
  exact List.append_nil _

end Contents

end LoadSweep.Markup
