import LoadSweep.Document
import LoadSweep.Proofs.Json.Scalars

/-!
# Documents that show a tree

A text that was written for a tree is read as a document that shows this tree: lists as lists,
objects as records, and every scalar as what it stands for where no type is expected
(`Document.shows`).  In YAML the types of the scalars are still open.  What a reader of a field
expects is then what the tree has: a text, a count, a truth value or a name
(`text?_of_shows`, `natural?_of_shows`, `flag?_of_shows`, `choice?_of_shows`).

Deciding the types changes nothing that is shown, within the depth to which types are decided
(`settle?_of_shows`).  In JSON they are decided from the start, so the document of a tree shows it
(`shows_ofMembers` and the lemmas beside it).
-/

namespace LoadSweep

set_option autoImplicit false

/-- The count that a numeral is: a natural number of 64 bits. -/
def Numeral.count? (n : Numeral) : Option Nat :=
  match n.magnitude? with
  | some (.natural value) => some value
  | _ => none

/-- Whether a tree is neither an array nor an object. -/
def Json.isScalar : Json → Bool
  | .array _ => false
  | .object _ => false
  | _ => true

namespace Document

/-! ## Scalars -/

/-- Whether a document with a decided type is a scalar of a tree.  Numbers that are not counts are
not compared. -/
def isScalar : Document → Json → Bool
  | .null, .null => true
  | .flag value, .flag given => value == given
  | .natural value, .number n => n.count? == some value
  | .negative _, .number n => n.count?.isNone
  | .real _, .number n => n.count?.isNone
  | .text value, .text given => given == some value
  | _, _ => false

/-- Whether a document is a scalar of a tree once its type is decided. -/
def showsScalar : Document → Json → Bool
  | .scalar value style none, tree => (settleScalar? value style none).any (isScalar · tree)
  | document, tree => document.isScalar tree

/-- What a scalar spells that stands for an integer. -/
theorem integer?_inv {text : List Char} :
    (∀ flag, Scalar.integer? text ≠ some (.flag flag)) ∧
      ∀ n, Scalar.integer? text = some (.natural n) →
        Scalar.natural? UInt64.size text = some n := by
  unfold Scalar.integer?
  split
  · rename_i found
    refine ⟨nofun, fun n same => ?_⟩
    cases same
    exact found
  · exact ⟨nofun, nofun⟩
  · dsimp only
    split <;> exact ⟨nofun, nofun⟩

/-- What a plain scalar spells that stands for a truth value or a natural number. -/
theorem meaning_inv {value : String} :
    (∀ flag, Scalar.meaning value = .flag flag → Scalar.flag? value = some flag) ∧
      ∀ n, Scalar.meaning value = .natural n →
        Scalar.natural? UInt64.size value.toList = some n := by
  simp only [Scalar.meaning]
  split
  · exact ⟨nofun, nofun⟩
  split
  · rename_i found
    refine ⟨fun flag same => ?_, nofun⟩
    cases same
    exact found
  split
  · rename_i integer found
    obtain ⟨noFlag, natural⟩ := @integer?_inv value.toList
    refine ⟨fun flag same => ?_, fun n same => natural n (same ▸ found)⟩
    exact absurd (same ▸ found) (noFlag flag)
  split
  · exact ⟨nofun, nofun⟩
  split <;> exact ⟨nofun, nofun⟩

/-- What a scalar without a tag spells, by what it stands for. -/
theorem settleScalar?_inv {value : String} {style : ScalarStyle} :
    (∀ text, settleScalar? value style none = some (.text text) → value = text) ∧
      (∀ flag, settleScalar? value style none = some (.flag flag) →
        style = .plain ∧ Scalar.flag? value = some flag) ∧
      ∀ n, settleScalar? value style none = some (.natural n) →
        style = .plain ∧ Scalar.natural? UInt64.size value.toList = some n := by
  have spelled := @meaning_inv value
  simp only [settleScalar?]
  split
  · simp
  · rename_i plain
    have plain : style = .plain := by simpa using plain
    split <;> simp_all

variable {document : Document}

/-- Whatever shows a scalar is that scalar, or a scalar without a type that stands for it. -/
theorem showsScalar_inv {tree : Json} (shown : document.showsScalar tree = true) :
    document.isScalar tree = true ∨
      ∃ value style settled, document = .scalar value style none ∧
        settleScalar? value style none = some settled ∧ settled.isScalar tree = true := by
  unfold showsScalar at shown
  split at shown
  · rename_i value style
    cases settled : settleScalar? value style none with
    | none =>
      rw [settled] at shown
      cases shown
    | some decided =>
      rw [settled] at shown
      exact .inr ⟨value, style, decided, rfl, settled, shown⟩
  · exact .inl shown

theorem text_of_isScalar {text : String} (same : document.isScalar (Json.ofString text) = true) :
    document = .text text := by
  cases document <;> simp_all [isScalar, Json.ofString]

theorem flag_of_isScalar {flag : Bool} (same : document.isScalar (.flag flag) = true) :
    document = .flag flag := by
  cases document <;> simp_all [isScalar]

theorem natural_of_isScalar {numeral : Numeral} {n : Nat} (count : numeral.count? = some n)
    (same : document.isScalar (.number numeral) = true) : document = .natural n := by
  cases document <;> simp_all [isScalar]

/-- A document that shows a text is that text, or a scalar that spells it. -/
theorem text_of_showsScalar {text : String}
    (shown : document.showsScalar (Json.ofString text) = true) :
    document = .text text ∨ ∃ style, document = .scalar text style none := by
  rcases showsScalar_inv shown with same | ⟨value, style, settled, rfl, decided, same⟩
  · exact .inl (text_of_isScalar same)
  · cases text_of_isScalar same
    exact .inr ⟨style, by rw [settleScalar?_inv.1 text decided]⟩

theorem text?_of_shows {text : String} (shown : document.showsScalar (Json.ofString text) = true) :
    document.text? = some text := by
  rcases text_of_showsScalar shown with rfl | ⟨style, rfl⟩ <;> rfl

theorem choice?_of_shows {name : String}
    (shown : document.showsScalar (Json.ofString name) = true) : document.choice? = some name := by
  rcases text_of_showsScalar shown with rfl | ⟨style, rfl⟩ <;> rfl

theorem fieldName?_of_shows {name : String}
    (shown : document.showsScalar (Json.ofString name) = true) (names : List String) :
    fieldName? names document = some name := by
  rcases text_of_showsScalar shown with rfl | ⟨style, rfl⟩ <;> rfl

theorem flag?_of_shows {flag : Bool} (shown : document.showsScalar (.flag flag) = true) :
    document.flag? = some flag := by
  rcases showsScalar_inv shown with same | ⟨value, style, settled, rfl, decided, same⟩
  · cases flag_of_isScalar same
    rfl
  · cases flag_of_isScalar same
    obtain ⟨rfl, spelled⟩ := settleScalar?_inv.2.1 flag decided
    exact spelled

/-- A document that shows a count is read as that count by every reader with room for it. -/
theorem natural?_of_shows {numeral : Numeral} {n bound : Nat} (count : numeral.count? = some n)
    (small : n < bound) (shown : document.showsScalar (.number numeral) = true) :
    document.natural? bound = some n := by
  rcases showsScalar_inv shown with same | ⟨value, style, settled, rfl, decided, same⟩
  · cases natural_of_isScalar count same
    rw [natural?, if_pos small]
  · cases natural_of_isScalar count same
    obtain ⟨rfl, spelled⟩ := settleScalar?_inv.2.2 n decided
    simp [natural?, admits, spelled, small]

/-! ## Trees -/

mutual

/-- Whether a document shows a tree that is nested at most `room` deep.  `decided` tells whether the
types of its scalars are decided. -/
def shows (decided : Bool) : Nat → Document → Json → Bool
  | 0, .list .., .array _ => false
  | room + 1, .list given items, .array values =>
    given == decided && showsItems decided room items values
  | 0, .record .., .object _ => false
  | room + 1, .record given entries, .object members =>
    given == decided && showsEntries decided room entries members
  | _, document, tree => document.showsScalar tree

/-- Whether documents show the items of an array. -/
def showsItems (decided : Bool) : Nat → List Document → List Json → Bool
  | _, [], [] => true
  | room, item :: items, value :: values =>
    shows decided room item value && showsItems decided room items values
  | _, _, _ => false

/-- Whether entries show the members of an object.  Their keys are the names of the members. -/
def showsEntries (decided : Bool) :
    Nat → List (Document × Document) → List (Option String × Json) → Bool
  | _, [], [] => true
  | room, (key, item) :: entries, (some name, value) :: members =>
    key.showsScalar (Json.ofString name) && shows decided room item value &&
      showsEntries decided room entries members
  | _, _, _ => false

end

variable {decided : Bool} {room : Nat} {tree : Json}

theorem isScalar_inv (room : Nat) (same : document.isScalar tree = true) :
    tree.isScalar = true ∧ document.settle? room = some document ∧
      document.showsScalar tree = true := by
  cases document <;> cases tree <;> simp_all [isScalar, showsScalar, settle?, Json.isScalar]

/-- Only a scalar is shown by a scalar. -/
theorem isScalar_of_showsScalar (shown : document.showsScalar tree = true) :
    tree.isScalar = true := by
  rcases showsScalar_inv shown with same | ⟨-, -, settled, -, -, same⟩
  · exact (isScalar_inv 0 same).1
  · exact (isScalar_inv 0 same).1

theorem shows_scalar (scalar : tree.isScalar = true) :
    shows decided room document tree = document.showsScalar tree := by
  cases tree <;> cases room <;> cases document <;> first | rfl | cases scalar

/-- Only a list shows an array. -/
theorem shows_array_inv {values : List Json}
    (shown : shows decided room document (.array values) = true) :
    ∃ depth items, room = depth + 1 ∧ document = .list decided items ∧
      showsItems decided depth items values = true := by
  unfold shows at shown
  split at shown
  · cases shown
  · simp only [Bool.and_eq_true, beq_iff_eq] at shown
    obtain ⟨rfl, shown⟩ := shown
    rename_i depth _ items _ same
    cases same
    exact ⟨depth, items, rfl, rfl, shown⟩
  · cases shown
  · rename_i same
    cases same
  · cases isScalar_of_showsScalar shown

/-- Only a record shows an object. -/
theorem shows_object_inv {members : List (Option String × Json)}
    (shown : shows decided room document (.object members) = true) :
    ∃ depth entries, room = depth + 1 ∧ document = .record decided entries ∧
      showsEntries decided depth entries members = true := by
  unfold shows at shown
  split at shown
  · cases shown
  · rename_i same
    cases same
  · cases shown
  · simp only [Bool.and_eq_true, beq_iff_eq] at shown
    obtain ⟨rfl, shown⟩ := shown
    rename_i depth _ entries _ same
    cases same
    exact ⟨depth, entries, rfl, rfl, shown⟩
  · cases isScalar_of_showsScalar shown

/-! ## Deciding types -/

/-- Deciding the type of a scalar shows the same scalar. -/
theorem settle?_of_showsScalar (room : Nat) (shown : document.showsScalar tree = true) :
    ∃ settled, settle? room document = some settled ∧ settled.showsScalar tree = true := by
  rcases showsScalar_inv shown with same | ⟨value, style, settled, rfl, decided, same⟩
  · obtain ⟨-, settled, again⟩ := isScalar_inv room same
    exact ⟨document, settled, again⟩
  · obtain ⟨-, -, again⟩ := isScalar_inv room same
    exact ⟨settled, by rw [settle?, decided], again⟩

theorem settle?_of_scalar (scalar : tree.isScalar = true)
    (shown : shows decided room document tree = true) :
    ∃ settled, settle? room document = some settled ∧ shows true room settled tree = true := by
  simp only [shows_scalar scalar] at shown ⊢
  exact settle?_of_showsScalar room shown

mutual

/-- Deciding types shows the same tree. -/
theorem settle?_of_shows : ∀ (tree : Json) (room : Nat) (document : Document),
    shows decided room document tree = true →
      ∃ settled, settle? room document = some settled ∧ shows true room settled tree = true
  | .null, _, _, shown => settle?_of_scalar rfl shown
  | .flag _, _, _, shown => settle?_of_scalar rfl shown
  | .number _, _, _, shown => settle?_of_scalar rfl shown
  | .text _, _, _, shown => settle?_of_scalar rfl shown
  | .array values, room, document, shown => by
    obtain ⟨depth, items, rfl, rfl, each⟩ := shows_array_inv shown
    obtain ⟨settled, done, again⟩ := settleItems?_of_shows values depth items each
    exact ⟨.list true settled, by rw [settle?, done]; rfl, by simp [shows, again]⟩
  | .object members, room, document, shown => by
    obtain ⟨depth, entries, rfl, rfl, each⟩ := shows_object_inv shown
    obtain ⟨settled, done, again⟩ := settleEntries?_of_shows members depth entries each
    exact ⟨.record true settled, by rw [settle?, done]; rfl, by simp [shows, again]⟩

theorem settleItems?_of_shows : ∀ (values : List Json) (room : Nat) (items : List Document),
    showsItems decided room items values = true →
      ∃ settled, settleItems? room items = some settled ∧
        showsItems true room settled values = true
  | [], _, [], _ => ⟨[], rfl, rfl⟩
  | value :: values, room, item :: items, shown => by
    simp only [showsItems, Bool.and_eq_true] at shown
    obtain ⟨first, settled, again⟩ := settle?_of_shows value room item shown.1
    obtain ⟨others, done, rest⟩ := settleItems?_of_shows values room items shown.2
    refine ⟨first :: others, ?_, ?_⟩
    · rw [settleItems?, settled, done]
      rfl
    · simp only [showsItems, again, rest, Bool.and_self]

theorem settleEntries?_of_shows : ∀ (members : List (Option String × Json)) (room : Nat)
    (entries : List (Document × Document)), showsEntries decided room entries members = true →
      ∃ settled, settleEntries? room entries = some settled ∧
        showsEntries true room settled members = true
  | [], _, [], _ => ⟨[], rfl, rfl⟩
  | (none, _) :: _, _, entries, shown => by
    cases entries <;> cases shown
  | (some name, value) :: members, room, (key, item) :: entries, shown => by
    simp only [showsEntries, Bool.and_eq_true] at shown
    obtain ⟨⟨named, first⟩, rest⟩ := shown
    obtain ⟨key', settledKey, namedAgain⟩ := settle?_of_showsScalar room named
    obtain ⟨item', settledItem, again⟩ := settle?_of_shows value room item first
    obtain ⟨others, done, restAgain⟩ := settleEntries?_of_shows members room entries rest
    refine ⟨(key', item') :: others, ?_, ?_⟩
    · rw [settleEntries?, settledKey, Option.bind_some, settledItem, Option.bind_some, done]
      rfl
    · simp only [showsEntries, namedAgain, again, restAgain, Bool.and_self]

end

/-! ## Documents of trees -/

theorem shows_ofString (room : Nat) (text : String) :
    shows true room (ofJson (Json.ofString text)) (Json.ofString text) = true := by
  rw [shows_scalar rfl]
  simp [ofJson, ofText?, Json.ofString, showsScalar, isScalar]

theorem shows_flag (room : Nat) (value : Bool) :
    shows true room (ofJson (.flag value)) (.flag value) = true := by
  rw [shows_scalar rfl]
  simp [ofJson, showsScalar, isScalar]

theorem count?_ofNat {n : Nat} (small : n < UInt64.size) : (Numeral.ofNat n).count? = some n := by
  simp [Numeral.count?, Numeral.magnitude?, Numeral.isWhole, Numeral.ofNat,
    Text.naturalOfDigits_toDigits, small]

theorem ofJson_ofNat {n : Nat} (small : n < UInt64.size) : ofJson (Json.ofNat n) = .natural n := by
  simp [Json.ofNat, ofJson, ofNumeral, Numeral.magnitude?, Numeral.isWhole, Numeral.ofNat,
    Text.naturalOfDigits_toDigits, small]

theorem shows_ofNat (room : Nat) {n : Nat} (small : n < UInt64.size) :
    shows true room (ofJson (Json.ofNat n)) (Json.ofNat n) = true := by
  rw [shows_scalar rfl, ofJson_ofNat small]
  simp [Json.ofNat, showsScalar, isScalar, count?_ofNat small]

theorem shows_array {items : List Json}
    (each : ∀ item ∈ items, shows true room (ofJson item) item = true) :
    shows true (room + 1) (ofJson (.array items)) (.array items) = true := by
  have all : showsItems true room (ofJsonItems items) items = true := by
    induction items with
    | nil => rfl
    | cons item items ih =>
      obtain ⟨first, others⟩ := List.forall_mem_cons.mp each
      simp only [ofJsonItems, showsItems, first, ih others, Bool.and_self]
  simp [ofJson, shows, all]

theorem shows_ofMembers {members : List (String × Json)}
    (each : ∀ member ∈ members, shows true room (ofJson member.2) member.2 = true) :
    shows true (room + 1) (ofJson (Json.ofMembers members)) (Json.ofMembers members) = true := by
  have all : showsEntries true room
      (ofJsonMembers (members.map fun member => (some member.1, member.2)))
      (members.map fun member => (some member.1, member.2)) = true := by
    induction members with
    | nil => rfl
    | cons member members ih =>
      obtain ⟨first, others⟩ := List.forall_mem_cons.mp each
      have named : (ofText? (some member.1)).showsScalar (Json.ofString member.1) = true := by
        simp [ofText?, showsScalar, isScalar, Json.ofString]
      simp only [List.map_cons, ofJsonMembers, showsEntries, named, first, ih others, Bool.and_self]
  simp [ofJson, shows, Json.ofMembers, all]

end Document

end LoadSweep
