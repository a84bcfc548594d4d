import LoadSweep.Proofs.Document.Fields
import LoadSweep.Proofs.Document.Presentation
import LoadSweep.Settings.Decoding
import Mathlib.Data.List.Nodup

/-!
# Edited documents

A tree is edited by removing members and by adding members of other names (`Json.edits`).  The
removed members are given by the steps that lead to them.  A document that shows an edited tree
still has what was kept: an item of a list stands where it stood (`listOf?_of_carries`), a field of
a record that was not removed is found under its name, and one that was removed is absent
(`Carries.fields?`).  So a field that must be given is read as it was (`Fields.Hold.required?`), and
one that may be absent is read as it was or takes its default (`Fields.Hold.optional?`).
-/

namespace LoadSweep

set_option autoImplicit false

/-- A step into a tree: to a member of an object or to an item of an array. -/
inductive Step where
  | member (name : String)
  | item (position : Nat)
  deriving Repr, DecidableEq

/-- Which members are removed, by the steps that lead to them. -/
abbrev Removal := List Step → Bool

/-- What is removed below a step. -/
def Removal.under (removal : Removal) (step : Step) : Removal :=
  fun steps => removal (step :: steps)

/-- The value of a member: its default if it is removed, and the given one otherwise. -/
def Removal.pick {α : Type} (removal : Removal) (name : String) (absent given : α) : α :=
  if removal [.member name] then absent else given

namespace Json

mutual

/-- Whether a tree is another one with the members of a removal removed and any members of other
names added.  The members of an object may come in any order. -/
def edits (removal : Removal) : Json → Json → Bool
  | .null, .null => true
  | .flag value, .flag other => value == other
  | .number value, .number other => value == other
  | .text value, .text other => value == other
  | .array items, .array others => editsItems removal 0 items others
  | .object members, .object others => editsMembers removal members others
  | _, _ => false

/-- Whether items are edited one by one, from a position on. -/
def editsItems (removal : Removal) : Nat → List Json → List Json → Bool
  | _, [], [] => true
  | position, item :: items, other :: others =>
    item.edits (removal.under (.item position)) other &&
      editsItems removal (position + 1) items others
  | _, _, _ => false

/-- Whether each member is removed or found once among others. -/
def editsMembers (removal : Removal) :
    List (Option String × Json) → List (Option String × Json) → Bool
  | [], _ => true
  | (some name, value) :: members, others =>
    (match others.filter fun other => other.1 == some name with
      | [] => removal [.member name]
      | [(_, other)] =>
        !removal [.member name] && value.edits (removal.under (.member name)) other
      | _ => false) && editsMembers removal members others
  | (none, _) :: _, _ => false

end

/-- What became of a member: it was removed, or it is found once and edited below. -/
def Edit (removal : Removal) (others : List (Option String × Json)) (member : String × Json) :
    Prop :=
  (removal [.member member.1] = true ∧ others.filter (·.1 == some member.1) = []) ∨
    (removal [.member member.1] = false ∧ ∃ key other,
      others.filter (·.1 == some member.1) = [(key, other)] ∧
        member.2.edits (removal.under (.member member.1)) other = true)

variable {removal : Removal}

theorem editsMembers_iff {members : List (String × Json)} {others : List (Option String × Json)} :
    editsMembers removal (members.map fun member => (some member.1, member.2)) others = true ↔
      ∀ member ∈ members, Edit removal others member := by
  induction members with
  | nil => simp [editsMembers]
  | cons member members ih =>
    obtain ⟨name, value⟩ := member
    rw [List.map_cons, editsMembers, Bool.and_eq_true, ih, List.forall_mem_cons, Edit]
    apply and_congr_left
    intro _
    split
    · rename_i none
      simp [none]
    · rename_i key other found
      simp [found]
    · rename_i none single
      refine ⟨nofun, ?_⟩
      rintro (⟨-, nothing⟩ | ⟨-, key, other, found, -⟩)
      · exact (none nothing).elim
      · exact (single key other found).elim

theorem edits_array_inv {items : List Json} {edited : Json}
    (edit : edits removal (.array items) edited = true) :
    ∃ others, edited = .array others ∧ editsItems removal 0 items others = true := by
  cases edited <;> first | exact ⟨_, rfl, edit⟩ | cases edit

theorem edits_object_inv {members : List (Option String × Json)} {edited : Json}
    (edit : edits removal (.object members) edited = true) :
    ∃ others, edited = .object others ∧ editsMembers removal members others = true := by
  cases edited <;> first | exact ⟨_, rfl, edit⟩ | cases edit

/-- A scalar cannot be edited. -/
theorem eq_of_edits {tree edited : Json} (scalar : tree.isScalar = true)
    (edit : edits removal tree edited = true) : edited = tree := by
  cases tree <;> cases edited <;> simp_all [edits, Json.isScalar]

end Json

namespace Document

open Json

/-- Whether a document shows a tree after an edit. -/
def Carries (removal : Removal) (decided : Bool) (room : Nat) (document : Document) (tree : Json) :
    Prop :=
  ∃ edited, tree.edits removal edited = true ∧ document.shows decided room edited = true

variable {removal : Removal} {decided : Bool} {room : Nat} {document : Document}

/-! ## Scalars -/

theorem Carries.showsScalar {tree : Json} (carries : document.Carries removal decided room tree)
    (scalar : tree.isScalar = true) : document.showsScalar tree = true := by
  obtain ⟨edited, edit, shown⟩ := carries
  cases eq_of_edits scalar edit
  rwa [shows_scalar scalar] at shown

theorem Carries.text? {text : String}
    (carries : document.Carries removal decided room (ofString text)) :
    document.text? = some text :=
  text?_of_shows (carries.showsScalar rfl)

theorem Carries.choice? {name : String}
    (carries : document.Carries removal decided room (ofString name)) :
    document.choice? = some name :=
  choice?_of_shows (carries.showsScalar rfl)

theorem Carries.flag? {flag : Bool} (carries : document.Carries removal decided room (.flag flag)) :
    document.flag? = some flag :=
  flag?_of_shows (carries.showsScalar rfl)

theorem Carries.natural? {n bound : Nat} (small : n < UInt64.size) (within : n < bound)
    (carries : document.Carries removal decided room (ofNat n)) :
    document.natural? bound = some n :=
  natural?_of_shows (count?_ofNat small) within (carries.showsScalar rfl)

theorem Carries.word16? {n : UInt16}
    (carries : document.Carries removal decided room (ofNat n.toNat)) :
    document.word16? = some n := by
  have small : n.toNat < UInt64.size := Nat.lt_trans n.toNat_lt_size (by decide)
  rw [Document.word16?, carries.natural? small n.toNat_lt_size]
  simp

theorem Carries.word32? {n : UInt32}
    (carries : document.Carries removal decided room (ofNat n.toNat)) :
    document.word32? = some n := by
  have small : n.toNat < UInt64.size := Nat.lt_trans n.toNat_lt_size (by decide)
  rw [Document.word32?, carries.natural? small n.toNat_lt_size]
  simp

theorem Carries.word64? {n : UInt64}
    (carries : document.Carries removal decided room (ofNat n.toNat)) :
    document.word64? = some n := by
  rw [Document.word64?, carries.natural? n.toNat_lt_size n.toNat_lt_size]
  simp

/-! ## Lists -/

/-- Items are read one by one, each from the document that carries it. -/
theorem mapM_of_carries {α β : Type} {tree : α → Json} {read? : Document → Option β}
    {view : Nat → α → β} {items : List α} {others : List Json} {parts : List Document}
    (position : Nat) (edit : editsItems removal position (items.map tree) others = true)
    (shown : showsItems decided room parts others = true)
    (each : ∀ index item part, items[index]? = some item →
      Carries (removal.under (.item (position + index))) decided room part (tree item) →
        read? part = some (view (position + index) item)) :
    parts.mapM read? = some (items.mapIdx fun index => view (position + index)) := by
  -- Over the items that are left, which stand from the position on.
  induction items generalizing others parts position with
  | nil =>
    cases others with
    | cons => cases edit
    | nil =>
      cases parts with
      | cons => cases shown
      | nil => rfl
  | cons item items ih =>
    cases others with
    | nil => cases edit
    | cons other others =>
      cases parts with
      | nil => cases shown
      | cons part parts =>
        simp only [List.map_cons, editsItems, showsItems, Bool.and_eq_true] at edit shown
        have first : read? part = some (view position item) :=
          each 0 item part rfl ⟨other, edit.1, shown.1⟩
        have rest := ih (position + 1) edit.2 shown.2 (by
          intro index later part found carries
          have next : position + 1 + index = position + (index + 1) := by omega
          rw [next] at carries ⊢
          exact each (index + 1) later part found carries)
        rw [List.mapM_cons, first, rest, List.mapIdx_cons]
        simp [Nat.add_comm, Nat.add_left_comm]

/-- A list is read item by item, each from the document that carries it. -/
theorem listOf?_of_carries {α β : Type} {tree : α → Json} {read? : Document → Option β}
    {view : Nat → α → β} {items : List α}
    (carries : document.Carries removal decided (room + 1) (.array (items.map tree)))
    (each : ∀ index item part, items[index]? = some item →
      Carries (removal.under (.item index)) decided room part (tree item) →
        read? part = some (view index item)) :
    listOf? read? document = some (items.mapIdx view) := by
  obtain ⟨edited, edit, shown⟩ := carries
  obtain ⟨others, rfl, edit⟩ := edits_array_inv edit
  obtain ⟨depth, parts, same, rfl, shown⟩ := shows_array_inv shown
  cases same
  have read : parts.mapM read? = some (items.mapIdx fun index => view (0 + index)) :=
    mapM_of_carries 0 edit shown (by simpa using each)
  simpa [listOf?, items?] using read

/-- A list whose items are read as they were is read as it was. -/
theorem Carries.listOf? {α : Type} {tree : α → Json} {read? : Document → Option α} {items : List α}
    (carries : document.Carries removal decided (room + 1) (.array (items.map tree)))
    (each : ∀ index item part, Carries (removal.under (.item index)) decided room part (tree item) →
      read? part = some item) :
    document.listOf? read? = some items := by
  have read : document.listOf? read? = some (items.mapIdx fun _ item => item) :=
    listOf?_of_carries carries fun index item part _ => each index item part
  have same : (items.mapIdx fun _ item => item) = items := by
    apply List.ext_getElem?
    simp
  rwa [same] at read

/-! ## Records -/

/-- Fields that show members one by one. -/
def ShowMembers (decided : Bool) (room : Nat) (fields : Fields)
    (members : List (Option String × Json)) : Prop :=
  List.Forall₂
    (fun field member =>
      member.1 = some field.1 ∧ field.2.shows decided room member.2 = true) fields members

/-- Entries that show members have their names. -/
theorem named_of_showsEntries (names : List String) {entries : List (Document × Document)}
    {members : List (Option String × Json)}
    (shown : showsEntries decided room entries members = true) :
    ∃ fields, Named names entries fields ∧ ShowMembers decided room fields members := by
  induction members generalizing entries with
  | nil =>
    cases entries with
    | nil => exact ⟨[], .nil, .nil⟩
    | cons => cases shown
  | cons member members ih =>
    obtain ⟨name, value⟩ := member
    cases entries with
    | nil => cases shown
    | cons entry entries =>
      obtain ⟨key, item⟩ := entry
      cases name with
      | none => cases shown
      | some name =>
        simp only [showsEntries, Bool.and_eq_true] at shown
        obtain ⟨⟨named, first⟩, rest⟩ := shown
        obtain ⟨fields, others, again⟩ := ih rest
        exact ⟨(name, item) :: fields, .cons ⟨fieldName?_of_shows named names, rfl⟩ others,
          .cons ⟨rfl, first⟩ again⟩

variable {fields : Fields} {members : List (Option String × Json)}

/-- The fields of a name show the members of that name. -/
theorem ShowMembers.filter (shown : ShowMembers decided room fields members) (name : String) :
    ShowMembers decided room (fields.filter (·.1 == name)) (members.filter (·.1 == some name)) := by
  induction shown with
  | nil => exact .nil
  | @cons field member fields members first _ ih =>
    obtain ⟨key, value⟩ := member
    obtain ⟨rfl, item⟩ := first
    by_cases same : field.1 = name
    · subst same
      simp only [List.filter_cons, beq_self_eq_true, if_true]
      exact .cons ⟨rfl, item⟩ ih
    · rw [List.filter_cons_of_neg (by simpa using same),
        List.filter_cons_of_neg (by simpa using same)]
      exact ih

/-- What is read of members: one that was removed is absent, and any other one is found under its
name. -/
def Fields.Hold (removal : Removal) (decided : Bool) (room : Nat) (fields : Fields)
    (members : List (String × Json)) : Prop :=
  ∀ member ∈ members,
    (removal [.member member.1] = true ∧ fields.lookup member.1 = none) ∨
      (removal [.member member.1] = false ∧ ∃ part, fields.lookup member.1 = some part ∧
        part.Carries (removal.under (.member member.1)) decided room member.2)

/-- Members that are removed or found once give distinct fields. -/
theorem nodup_known {names : List String} {original : List (String × Json)}
    (same : original.map Prod.fst = names) (edit : ∀ member ∈ original, Edit removal members member)
    (shown : ShowMembers decided room fields members) :
    ((known names fields).map Prod.fst).Nodup := by
  -- A known name comes as often as among the members, where it was removed or is found once.
  rw [List.nodup_iff_count_le_one]
  intro name
  have count : ((known names fields).map Prod.fst).count name =
      ((known names fields).filter (·.1 == name)).length := by
    rw [List.count_eq_length_filter, List.filter_map, List.length_map]
    rfl
  rw [count]
  by_cases isKnown : name ∈ names
  · rw [filter_known isKnown, (shown.filter name).length_eq]
    rw [← same] at isKnown
    obtain ⟨member, within, rfl⟩ := List.mem_map.mp isKnown
    rcases edit member within with ⟨-, nothing⟩ | ⟨-, key, other, single, -⟩
    · simp [nothing]
    · simp [single]
  · have nothing : (known names fields).filter (·.1 == name) = [] := by
      rw [List.filter_eq_nil_iff]
      intro field within
      have among : field.1 ∈ names := by
        simpa using (List.mem_filter.mp within).2
      simp only [beq_iff_eq]
      rintro rfl
      exact isKnown among
    simp [nothing]

/-- The fields of a record are read whatever was removed and added. -/
theorem fields?_of_edits {names : List String} {original : List (String × Json)}
    {entries : List (Document × Document)} (same : original.map Prod.fst = names)
    (edit : ∀ member ∈ original, Edit removal members member)
    (shown : showsEntries decided room entries members = true) :
    ∃ fields, fields? names (.record decided entries) = some fields ∧
      fields.Hold removal decided room original := by
  obtain ⟨all, named, shown⟩ := named_of_showsEntries names shown
  refine ⟨known names all, fields?_record decided named (nodup_known same edit shown), ?_⟩
  intro member within
  have isKnown : member.1 ∈ names := same ▸ List.mem_map_of_mem within
  have found := shown.filter member.1
  rw [lookup_eq_filter, filter_known isKnown]
  rcases edit member within with ⟨removed, nothing⟩ | ⟨kept, key, other, single, below⟩
  · rw [nothing, ShowMembers, List.forall₂_nil_right_iff] at found
    exact .inl ⟨removed, by rw [found]; rfl⟩
  · rw [single, ShowMembers, List.forall₂_cons_right_iff] at found
    obtain ⟨field, others, ⟨-, item⟩, -, all_eq⟩ := found
    exact .inr ⟨kept, field.2, by rw [all_eq]; rfl, other, below, item⟩

/-- The fields of a record are read from a document that carries it. -/
theorem Carries.fields? {original : List (String × Json)}
    (carries : document.Carries removal decided (room + 1) (ofMembers original))
    (names : List String) (same : original.map Prod.fst = names) :
    ∃ fields, document.fields? names = some fields ∧ fields.Hold removal decided room original := by
  obtain ⟨edited, edit, shown⟩ := carries
  obtain ⟨members, rfl, edit⟩ := edits_object_inv edit
  obtain ⟨depth, entries, level, rfl, shown⟩ := shows_object_inv shown
  cases level
  exact fields?_of_edits same (editsMembers_iff.mp edit) shown

namespace Fields.Hold

variable {α : Type} {read? : Document → Option α} {original : List (String × Json)} {name : String}
  {value : Json} {absent result : α}

/-- A field that was not removed is read as it was. -/
theorem required? (hold : fields.Hold removal decided room original)
    (within : (name, value) ∈ original) (kept : removal [.member name] = false)
    (reads : ∀ part : Document,
      part.Carries (removal.under (.member name)) decided room value → read? part = some result) :
    fields.required? name read? = some result := by
  rcases hold _ within with ⟨removed, -⟩ | ⟨-, part, found, carries⟩
  · cases kept.symm.trans removed
  · rw [Fields.required?, found, Option.bind_some]
    exact reads part carries

/-- A field that may be absent is read as it was, and it takes its default if it was removed. -/
theorem optional? (hold : fields.Hold removal decided room original)
    (within : (name, value) ∈ original)
    (reads : ∀ part : Document,
      part.Carries (removal.under (.member name)) decided room value → read? part = some result) :
    fields.optional? name absent read? = some (removal.pick name absent result) := by
  rcases hold _ within with ⟨removed, nothing⟩ | ⟨kept, part, found, carries⟩
  · rw [Fields.optional?, nothing, Removal.pick, removed]
    rfl
  · rw [Fields.optional?, found, Removal.pick, kept]
    exact reads part carries

end Fields.Hold

end Document

/-! ## Unedited trees -/

/-- No member is removed. -/
def Removal.none : Removal := fun _ => false

namespace Json

theorem edits_scalar {tree : Json} (scalar : tree.isScalar = true) (removal : Removal) :
    tree.edits removal tree = true := by
  cases tree <;> simp_all [edits, isScalar]

/-- An array whose items are themselves is itself. -/
theorem edits_array {items : List Json} (each : ∀ item ∈ items, item.edits .none item = true) :
    (Json.array items).edits .none (.array items) = true := by
  have all : ∀ position, editsItems .none position items items = true := by
    induction items with
    | nil => exact fun _ => rfl
    | cons item items ih =>
      obtain ⟨first, others⟩ := List.forall_mem_cons.mp each
      intro position
      rw [editsItems, ih others, Bool.and_true]
      exact first
  exact all 0

/-- A member is the only one of its name among members with distinct names. -/
theorem filter_eq_singleton {members : List (String × Json)}
    (distinct : (members.map Prod.fst).Nodup) {member : String × Json} (within : member ∈ members) :
    members.filter (·.1 == member.1) = [member] := by
  induction members with
  | nil => cases within
  | cons first members ih =>
    rw [List.map_cons, List.nodup_cons] at distinct
    rcases List.mem_cons.mp within with rfl | later
    · have others : members.filter (·.1 == member.1) = [] := by
        rw [List.filter_eq_nil_iff]
        intro other among same
        exact distinct.1 (beq_iff_eq.mp same ▸ List.mem_map_of_mem among)
      rw [List.filter_cons_of_pos (by simp), others]
    · have differs : first.1 ≠ member.1 := by
        intro same
        exact distinct.1 (same ▸ List.mem_map_of_mem later)
      rw [List.filter_cons_of_neg (by simpa using differs)]
      exact ih distinct.2 later

/-- An object with distinct names whose members are themselves is itself. -/
theorem edits_ofMembers {members : List (String × Json)} (distinct : (members.map Prod.fst).Nodup)
    (each : ∀ member ∈ members, member.2.edits .none member.2 = true) :
    (ofMembers members).edits .none (ofMembers members) = true := by
  rw [ofMembers, edits, editsMembers_iff]
  intro member within
  refine .inr ⟨rfl, some member.1, member.2, ?_, each member within⟩
  have single := congrArg (List.map fun member : String × Json => (some member.1, member.2))
    (filter_eq_singleton distinct within)
  rw [List.filter_map]
  exact single

end Json

end LoadSweep
