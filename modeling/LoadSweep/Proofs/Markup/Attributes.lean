import LoadSweep.Proofs.Markup.Elements
import LoadSweep.Proofs.Text.Occurrences
import Mathlib.Data.List.Nodup

/-!
# Attributes

The values of attributes stand between the quotes of a tag and their keys before them, so the
attributes of a tag that is written from them are read back (`attributesOf_opening`,
`attributesOf_single`).  If no text between tags has a quote, then the text `class="…"` stands in a
document as often as there are tags of that class (`Marked.occurrences_class`): an occurrence cannot
lie across a bracket or a blank, and the first quote in it is the first one after a key.
-/

namespace LoadSweep.Markup

open Text

set_option autoImplicit false

/-! ## Reading attributes -/

/-- The key before a quoted value: the last word there, up to its equals sign. -/
def keyOf (before : List Char) : String :=
  String.ofList (((pieces (· == ' ') before).getLastD []).takeWhile (· != '='))

/-- The stretches of a tag between its quotes, in pairs of a key and a value. -/
def keyed : List (List Char) → List (String × String)
  | before :: value :: others => (keyOf before, String.ofList value) :: keyed others
  | _ => []

/-- The attributes in a tag. -/
def attributesOf (tag : String) : List (String × String) :=
  keyed (pieces (· == '\x22') tag.toList)

/-- The value of an attribute in a tag. -/
def attribute? (key tag : String) : Option String :=
  (attributesOf tag).lookup key

/-! ## Texts without quotes -/

/-- A text without quotes. -/
def Unquoted (text : String) : Prop :=
  '\x22' ∉ text.toList

instance (text : String) : Decidable (Unquoted text) :=
  inferInstanceAs (Decidable ('\x22' ∉ text.toList))

@[simp] theorem unquoted_append_iff (first second : String) :
    Unquoted (first ++ second) ↔ Unquoted first ∧ Unquoted second := by
  rw [Unquoted, String.toList_append, List.mem_append, not_or]
  rfl

/-- What stands for a character has no quote. -/
theorem unquoted_escapeChar (c : Char) : '\x22' ∉ escapeChar c := by
  by_cases entity : c ∈ special
  · simp only [special, List.mem_cons, List.not_mem_nil, or_false] at entity
    rcases entity with rfl | rfl | rfl | rfl | rfl <;> decide
  · rw [escapeChar_of_not_special entity, List.mem_singleton]
    rintro rfl
    exact entity (by decide)

@[simp] theorem unquoted_escape (text : String) : Unquoted (escape text) := by
  rw [Unquoted, escape, String.toList_ofList, List.mem_flatMap]
  rintro ⟨c, -, held⟩
  exact unquoted_escapeChar c held

theorem ElementName.unquoted_shown (name : ElementName) : Unquoted name.shown :=
  name.not_mem_shown (by decide)

/-! ## Attributes that are read back -/

/-- A key of an attribute.  Only `class` itself ends with that word. -/
def Key (key : String) : Prop :=
  Unquoted key ∧ ' ' ∉ key.toList ∧ '=' ∉ key.toList ∧
    ("class".toList <:+ key.toList → key = "class")

instance (key : String) : Decidable (Key key) :=
  inferInstanceAs (Decidable (_ ∧ _))

/-- Attributes that are read back from a tag. -/
structure Legible (attributes : List (String × String)) : Prop where
  keys : ∀ key ∈ attributes.map Prod.fst, Key key
  distinct : (attributes.map Prod.fst).Nodup
  values : ∀ value ∈ attributes.map Prod.snd, Unquoted value

@[simp] theorem legible_nil : Legible [] :=
  ⟨nofun, .nil, nofun⟩

@[simp] theorem legible_cons_iff {key value : String} {others : List (String × String)} :
    Legible ((key, value) :: others) ↔
      Key key ∧ Unquoted value ∧ key ∉ others.map Prod.fst ∧ Legible others := by
  constructor
  · rintro ⟨keys, distinct, values⟩
    obtain ⟨here, keys⟩ := List.forall_mem_cons.mp keys
    obtain ⟨shown, values⟩ := List.forall_mem_cons.mp values
    obtain ⟨new, distinct⟩ := List.nodup_cons.mp distinct
    exact ⟨here, shown, new, keys, distinct, values⟩
  · rintro ⟨here, shown, new, keys, distinct, values⟩
    exact ⟨List.forall_mem_cons.mpr ⟨here, keys⟩, List.nodup_cons.mpr ⟨new, distinct⟩,
      List.forall_mem_cons.mpr ⟨shown, values⟩⟩

/-- The characters of an attribute, without the blank before it. -/
def attributeText (key value : String) : List Char :=
  key.toList ++ '=' :: '\x22' :: (value.toList ++ ['\x22'])

theorem toList_attributesText_cons (key value : String) (others : List (String × String)) :
    (attributesText ((key, value) :: others)).toList =
      ' ' :: (attributeText key value ++ (attributesText others).toList) := by
  simp [attributesText, attributeText]

theorem keyOf_append {key : String} (isKey : Key key) (front : List Char) :
    keyOf (front ++ ' ' :: (key.toList ++ ['='])) = key := by
  obtain ⟨-, blank, equals, -⟩ := isKey
  have word : ∀ c ∈ key.toList ++ ['='], (c == ' ') = false := by
    intro c member
    apply beq_false_of_ne
    rintro rfl
    rcases List.mem_append.mp member with held | sign
    · exact blank held
    · exact absurd (List.mem_singleton.mp sign) (by decide)
  have letters : ∀ c ∈ key.toList, (c != '=') = true :=
    fun c member => bne_iff_ne.mpr fun same => equals (same ▸ member)
  have stop : ∀ c ∈ ['='].head?, (c != '=') = false := by
    rintro c ⟨⟩
    rfl
  rw [keyOf, pieces_append_cut rfl, pieces_uncut word, List.getLastD_concat,
    (span_until letters stop).1, String.ofList_toList]

/-- The attributes behind a text without quotes are read back. -/
theorem keyed_attributesText {front closing : List Char} (before : '\x22' ∉ front)
    (behind : '\x22' ∉ closing) {attributes : List (String × String)}
    (legible : Legible attributes) :
    keyed (pieces (· == '\x22') (front ++ (attributesText attributes).toList ++ closing)) =
      attributes := by
  have uncut {text : List Char} (clean : '\x22' ∉ text) : ∀ c ∈ text, (c == '\x22') = false :=
    fun c member => beq_false_of_ne fun same => clean (same ▸ member)
  induction attributes generalizing front with
  | nil =>
    have clean : '\x22' ∉ front ++ (attributesText []).toList ++ closing := by
      simp [attributesText, before, behind]
    rw [pieces_uncut (uncut clean)]
    rfl
  | cons pair others ih =>
    obtain ⟨key, value⟩ := pair
    obtain ⟨isKey, shown, -, rest⟩ := legible_cons_iff.mp legible
    have start : '\x22' ∉ front ++ ' ' :: (key.toList ++ ['=']) := by
      have unquoted : '\x22' ∉ key.toList := isKey.1
      simp [before, unquoted]
    have split : front ++ (attributesText ((key, value) :: others)).toList ++ closing =
        (front ++ ' ' :: (key.toList ++ ['='])) ++ '\x22' ::
          (value.toList ++ '\x22' :: ([] ++ (attributesText others).toList ++ closing)) := by
      rw [toList_attributesText_cons, attributeText]
      simp
    rw [split, pieces_append_cut rfl, pieces_uncut (uncut start), pieces_append_cut rfl,
      pieces_uncut (uncut shown), List.singleton_append, List.singleton_append, keyed,
      ih List.not_mem_nil rest, keyOf_append isKey, String.ofList_toList]

section Tags

variable {name : ElementName} {attributes : List (String × String)}

theorem attributesOf_opening (legible : Legible attributes) :
    attributesOf (name.shown ++ attributesText attributes) = attributes := by
  have read := keyed_attributesText name.unquoted_shown List.not_mem_nil legible
  rwa [List.append_nil, ← String.toList_append] at read

theorem attributesOf_single (legible : Legible attributes) :
    attributesOf (name.shown ++ attributesText attributes ++ "/") = attributes := by
  have slash : '\x22' ∉ "/".toList := by decide
  have read := keyed_attributesText name.unquoted_shown slash legible
  rwa [← String.toList_append, ← String.toList_append] at read

/-- A closing tag has no attributes. -/
theorem attributesOf_closing (name : ElementName) : attributesOf ("/" ++ name.shown) = [] := by
  have unquoted : Unquoted ("/" ++ name.shown) := by
    rw [unquoted_append_iff]
    exact ⟨by decide, name.unquoted_shown⟩
  have read := keyed_attributesText unquoted List.not_mem_nil legible_nil
  have nothing : (attributesText []).toList = [] := rfl
  rwa [nothing, List.append_nil, List.append_nil] at read

end Tags

/-! ## Counting classes -/

/-- An attribute that gives a class, as it is written. -/
def classText (cls : String) : List Char :=
  attributeText "class" cls

/-- A class: a word of letters and digits. -/
def IsClass (cls : String) : Prop :=
  ∀ c ∈ cls.toList, c.isAlphanum = true

instance (cls : String) : Decidable (IsClass cls) :=
  List.decidableBAll (fun c : Char => c.isAlphanum = true) cls.toList

theorem classText_ne_nil (cls : String) : classText cls ≠ [] :=
  List.cons_ne_nil 'c' _

section Classes

variable {cls : String} (isClass : IsClass cls)

include isClass

theorem IsClass.not_mem {c : Char} (other : c.isAlphanum = false) : c ∉ cls.toList := by
  intro member
  rw [isClass c member] at other
  cases other

/-- The brackets of tags, the blanks between attributes and the slash at an end of a tag separate
what shows a class. -/
theorem IsClass.not_mem_classText {c : Char} (separates : c ∈ [' ', '/', '<', '>']) :
    c ∉ classText cls := by
  have split : classText cls = "class=\x22".toList ++ (cls.toList ++ ['\x22']) := rfl
  simp only [List.mem_cons, List.not_mem_nil, or_false] at separates
  obtain ⟨other, start, quote⟩ :
      c.isAlphanum = false ∧ c ∉ "class=\x22".toList ∧ c ≠ '\x22' := by
    rcases separates with rfl | rfl | rfl | rfl <;> decide
  rw [split, List.mem_append, List.mem_append, List.mem_singleton, not_or, not_or]
  exact ⟨start, isClass.not_mem other, quote⟩

/-- An attribute shows a class if it gives it, and at most once. -/
theorem occurrences_attributeText {key value : String} (isKey : Key key)
    (shown : Unquoted value) :
    occurrences (classText cls) (attributeText key value) =
      if (key, value) = ("class", cls) then 1 else 0 := by
  have quote : '\x22' ∉ cls.toList := isClass.not_mem (by decide)
  have first : '\x22' ∉ "class=".toList := by decide
  have clean : '\x22' ∉ key.toList ++ ['='] := by
    have unquoted : '\x22' ∉ key.toList := isKey.1
    simp [unquoted]
  have sought : classText cls = "class=".toList ++ '\x22' :: (cls.toList ++ ['\x22']) := rfl
  have written : attributeText key value =
      (key.toList ++ ['=']) ++ '\x22' :: (value.toList ++ '\x22' :: []) := by
    simp [attributeText]
  have ends : "class=".toList <:+ key.toList ++ ['='] ↔ key = "class" := by
    have cut : "class=".toList = "class".toList ++ ['='] := rfl
    rw [cut, List.suffix_append_self_iff]
    refine ⟨isKey.2.2.2, ?_⟩
    rintro rfl
    exact List.suffix_refl _
  have starts : cls.toList ++ ['\x22'] <+: value.toList ++ '\x22' :: [] ↔ value = cls := by
    rw [prefix_append_across quote shown, and_iff_left List.nil_prefix, String.toList_inj]
    exact eq_comm
  have some : "class=".toList ≠ [] := List.cons_ne_nil 'c' _
  -- Behind the first quote there is no room for another occurrence.
  have later : occurrences (classText cls) (value.toList ++ '\x22' :: []) = 0 := by
    have room : ¬ cls.toList ++ ['\x22'] <+: [] := by
      rw [List.prefix_nil]
      exact List.append_ne_nil_of_right_ne_nil _ (List.cons_ne_nil '\x22' [])
    rw [sought, occurrences_append_across first some shown, if_neg fun both => room both.2, ← sought,
      occurrences_nil (classText_ne_nil cls)]
  rw [written, sought, occurrences_append_across first some clean, ← sought, later, Nat.add_zero]
  simp only [ends, starts, Prod.mk.injEq]

/-- Behind a text, attributes show a class as often as they give it. -/
theorem occurrences_attributesText {attributes : List (String × String)}
    (legible : Legible attributes) (front : List Char) :
    occurrences (classText cls) (front ++ (attributesText attributes).toList) =
      occurrences (classText cls) front + attributes.count ("class", cls) := by
  induction attributes generalizing front with
  | nil =>
    have nothing : (attributesText []).toList = [] := rfl
    rw [nothing, List.append_nil, List.count_nil, Nat.add_zero]
  | cons pair others ih =>
    obtain ⟨key, value⟩ := pair
    obtain ⟨isKey, shown, -, rest⟩ := legible_cons_iff.mp legible
    have blank : ' ' ∉ classText cls := isClass.not_mem_classText (by decide)
    rw [toList_attributesText_cons, occurrences_append_cut blank (classText_ne_nil cls), ih rest,
      occurrences_attributeText isClass isKey shown, List.count_cons]
    simp only [beq_iff_eq]
    omega

end Classes

/-- A key is looked up with the value that stands behind it. -/
theorem Legible.lookup_iff {attributes : List (String × String)} (legible : Legible attributes)
    (key value : String) : attributes.lookup key = some value ↔ (key, value) ∈ attributes := by
  induction attributes with
  | nil => exact ⟨nofun, nofun⟩
  | cons pair others ih =>
    obtain ⟨other, shown⟩ := pair
    obtain ⟨-, -, new, rest⟩ := legible_cons_iff.mp legible
    rw [List.mem_cons, Prod.mk.injEq]
    by_cases same : key = other
    · subst same
      have absent : (key, value) ∉ others := fun member => new (List.mem_map_of_mem member)
      rw [List.lookup_cons_self, Option.some.injEq]
      simp only [absent, or_false, true_and]
      exact eq_comm
    · have unequal : (key == other) = false := beq_false_of_ne same
      rw [List.lookup_cons, unequal]
      simp only [same, false_and, false_or]
      exact ih rest

/-- Of distinct attributes at most one gives a class. -/
theorem Legible.count_class {attributes : List (String × String)} (legible : Legible attributes)
    (cls : String) :
    attributes.count ("class", cls) = if attributes.lookup "class" = some cls then 1 else 0 := by
  have distinct : attributes.Nodup := List.Nodup.of_map Prod.fst legible.distinct
  rw [distinct.count]
  exact if_congr (legible.lookup_iff "class" cls).symm rfl rfl

/-! ## Documents -/

/-- A mark that shows a class exactly if its tag gives it. -/
def Tells (cls : String) (mark : Mark) : Prop :=
  occurrences (classText cls) (mark.tag.toList ++ '>' :: mark.text.toList) =
    if attribute? "class" mark.tag = some cls then 1 else 0

instance (cls : String) (mark : Mark) : Decidable (Tells cls mark) :=
  inferInstanceAs (Decidable (_ = _))

/-- Marks that show a class exactly where their tags give it. -/
def TellingMarks (cls : String) (marks : List Mark) : Prop :=
  ∀ mark ∈ marks, Tells cls mark

theorem TellingMarks.append {cls : String} {marks others : List Mark}
    (first : TellingMarks cls marks) (second : TellingMarks cls others) :
    TellingMarks cls (marks ++ others) :=
  List.forall_mem_append.mpr ⟨first, second⟩

theorem TellingMarks.flatMap {α : Type} {cls : String} {marksOf : α → List Mark} {items : List α}
    (each : ∀ item ∈ items, TellingMarks cls (marksOf item)) :
    TellingMarks cls (items.flatMap marksOf) := by
  intro mark member
  obtain ⟨item, held, among⟩ := List.mem_flatMap.mp member
  exact each item held mark among

/-- A text without quotes shows no class. -/
theorem occurrences_unquoted (cls : String) {text : String} (unquoted : Unquoted text) :
    occurrences (classText cls) text.toList = 0 := by
  have quote : '\x22' ∈ classText cls := by simp [classText, attributeText]
  exact occurrences_eq_zero quote unquoted

section Telling

variable {cls : String} (isClass : IsClass cls)

include isClass

theorem tells_of_tag {tag text : String} (unquoted : Unquoted text)
    (shows : occurrences (classText cls) tag.toList =
      if attribute? "class" tag = some cls then 1 else 0) : Tells cls ⟨tag, text⟩ := by
  have bracket : '>' ∉ classText cls := isClass.not_mem_classText (by decide)
  rw [Tells, occurrences_append_cut bracket (classText_ne_nil cls),
    occurrences_unquoted cls unquoted, Nat.add_zero, shows]

variable {name : ElementName} {attributes : List (String × String)} {text after : String}
  {inner : List Mark}

theorem occurrences_opening (legible : Legible attributes) :
    occurrences (classText cls) (name.shown ++ attributesText attributes).toList =
      if attributes.lookup "class" = some cls then 1 else 0 := by
  rw [String.toList_append, occurrences_attributesText isClass legible,
    occurrences_unquoted cls name.unquoted_shown, Nat.zero_add, legible.count_class]

theorem tells_single (legible : Legible attributes) (unquoted : Unquoted after) :
    TellingMarks cls (single name attributes after) := by
  refine List.forall_mem_singleton.mpr (tells_of_tag isClass unquoted ?_)
  have slash : '/' ∉ classText cls := isClass.not_mem_classText (by decide)
  have closing : "/".toList = '/' :: [] := rfl
  rw [attribute?, attributesOf_single legible, String.toList_append, closing,
    occurrences_append_cut slash (classText_ne_nil cls), occurrences_opening isClass legible,
    occurrences_nil (classText_ne_nil cls), Nat.add_zero]

theorem tells_element (legible : Legible attributes) (unquoted : Unquoted text)
    (unquotedAfter : Unquoted after) (telling : TellingMarks cls inner) :
    TellingMarks cls (element name attributes text inner after) := by
  have opening : Tells cls ⟨name.shown ++ attributesText attributes, text⟩ := by
    apply tells_of_tag isClass unquoted
    rw [attribute?, attributesOf_opening legible, occurrences_opening isClass legible]
  have closing : Tells cls ⟨"/" ++ name.shown, after⟩ := by
    have unquotedTag : Unquoted ("/" ++ name.shown) := by
      rw [unquoted_append_iff]
      exact ⟨by decide, name.unquoted_shown⟩
    apply tells_of_tag isClass unquotedAfter
    rw [attribute?, attributesOf_closing, occurrences_unquoted cls unquotedTag]
    rfl
  exact List.forall_mem_cons.mpr ⟨opening, telling.append (List.forall_mem_singleton.mpr closing)⟩

theorem tells_leaf (legible : Legible attributes) (unquoted : Unquoted text)
    (unquotedAfter : Unquoted after) : TellingMarks cls (leaf name attributes text after) :=
  tells_element isClass legible unquoted unquotedAfter nofun

/-- Behind a text, marks show a class as often as their tags give it. -/
theorem occurrences_written {marks : List Mark} (telling : TellingMarks cls marks)
    (front : List Char) :
    occurrences (classText cls) (front ++ (String.join (marks.map Mark.written)).toList) =
      occurrences (classText cls) front +
        marks.countP fun mark => attribute? "class" mark.tag = some cls := by
  induction marks generalizing front with
  | nil =>
    have nothing : (String.join (([] : List Mark).map Mark.written)).toList = [] := rfl
    rw [nothing, List.append_nil, List.countP_nil, Nat.add_zero]
  | cons mark marks ih =>
    obtain ⟨here, others⟩ := List.forall_mem_cons.mp telling
    have bracket : '<' ∉ classText cls := isClass.not_mem_classText (by decide)
    have split : front ++ (String.join ((mark :: marks).map Mark.written)).toList =
        front ++ '<' :: ((mark.tag.toList ++ '>' :: mark.text.toList) ++
          (String.join (marks.map Mark.written)).toList) := by
      simp [Mark.written]
    rw [split, occurrences_append_cut bracket (classText_ne_nil cls), ih others, here,
      List.countP_cons]
    simp only [decide_eq_true_eq]
    omega

/-- **A class stands in a document as often as tags give it.** -/
theorem Marked.occurrences_class {document : String} {written : List Mark}
    (marked : Marked document written) (telling : TellingMarks cls written) :
    occurrences (classText cls) document.toList =
      written.countP fun mark => attribute? "class" mark.tag = some cls := by
  have whole := occurrences_written isClass telling []
  rwa [List.nil_append, ← marked.text, occurrences_nil (classText_ne_nil cls), Nat.zero_add]
    at whole

end Telling

end LoadSweep.Markup
