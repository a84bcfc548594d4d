import LoadSweep.Proofs.Text.Bytes
import LoadSweep.Storage.Tree

/-!
# The texts of a tree of files

A path leads to the same place in every tree with the same home directory, whatever the tree holds
on the way: `destination` computes it from the components alone, and a path that can be followed
ends there (`locate_eq_destination`).  What a tree holds as text at a place is `textAt`, with the
empty text where there is no file.

Appending to a file adds to the text at the destination of its path and changes no other, and the
file then stays open to appending (`append_inv`).  `Adds` says what one tree has that another had
not.  An append that fails adds something too, if the file could be opened: a beginning of the text,
which is not the whole of it (`leftByAppending_adds`).
-/

namespace LoadSweep

open Text

set_option autoImplicit false

/-! ## Room -/

/-- A text is torn: what is there of it is a beginning, and not the whole. -/
structure Torn (text part : String) : Prop where
  beginning : part.toList <+: text.toList
  proper : part ≠ text

namespace Room

/-- What is left of a text that could not be written: it is torn, and nothing is left unless there
is some room. -/
structure Cuts (room : Room) (text part : String) : Prop extends Torn text part where
  roomy : part ≠ "" → ∃ free, room = some free ∧ 0 < free

/-- Nothing is left of a text that was not even begun. -/
theorem cuts_nothing (room : Room) {text : String} (some : text ≠ "") : room.Cuts text "" :=
  ⟨⟨List.nil_prefix, some.symm⟩, absurd rfl⟩

/-- Where a text fits, there is no limit or some room. -/
theorem limited_of_fits {room : Room} {text : String} (some : text ≠ "")
    (fits : room.fits text = true) : room = none ∨ ∃ free, room = Option.some free ∧ 0 < free := by
  cases room with
  | none => exact .inl rfl
  | some free =>
    have long := Nat.le_trans (length_le_byteLength text.toList) (of_decide_eq_true fits)
    have written : 0 < text.toList.length := by
      rw [List.length_pos_iff]
      exact fun nothing => some (String.toList_inj.mp nothing)
    exact .inr ⟨free, rfl, Nat.lt_of_lt_of_le written long⟩

/-- A text that fits is taken as a whole. -/
theorem beginning_of_fits {room : Room} {text : String} (fits : room.fits text = true) :
    room.beginning text = text := by
  cases room with
  | none => rfl
  | some free =>
    rw [beginning, takeBytes_eq_self_iff.mpr (of_decide_eq_true fits), String.ofList_toList]

/-- A text that does not fit is cut. -/
theorem cuts_beginning {room : Room} {text : String} (fits : room.fits text = false) :
    room.Cuts text (room.beginning text) := by
  cases room with
  | none => cases fits
  | some free =>
    refine ⟨⟨?_, ?_⟩, fun something => ⟨free, rfl, ?_⟩⟩
    · rw [beginning, String.toList_ofList]
      exact takeBytes_prefix free _
    · intro whole
      rw [beginning, ← String.toList_inj, String.toList_ofList, takeBytes_eq_self_iff] at whole
      exact of_decide_eq_false fits whole
    · rw [Nat.pos_iff_ne_zero]
      rintro rfl
      rw [beginning, takeBytes_zero] at something
      exact something rfl

/-- Where there is no limit, nothing is left of a text that could not be written. -/
theorem Cuts.eq_nothing {room : Room} {text part : String} (cuts : room.Cuts text part)
    (unlimited : room = none) : part = "" := by
  refine Decidable.byContradiction fun something => ?_
  obtain ⟨free, limited, -⟩ := cuts.roomy something
  cases unlimited.symm.trans limited

/-- Only where there is no limit does every line fit. -/
theorem eq_none_of_fits {room : Room} (every : ∀ line, room.fits (line ++ "\n") = true) :
    room = none := by
  cases room with
  | none => rfl
  | some free =>
    have fits := of_decide_eq_true (every (String.ofList (List.replicate free ' ')))
    have long := length_le_byteLength (String.ofList (List.replicate free ' ') ++ "\n").toList
    rw [String.toList_append, List.length_append, String.toList_ofList, List.length_replicate]
      at long
    rw [String.toList_append, String.toList_ofList] at fits
    exact absurd (Nat.le_trans long fits) (Nat.not_succ_le_self free)

theorem afterTaking_nothing (room : Room) : room.afterTaking "" = room := by
  cases room <;> rfl

theorem afterTaking_append (room : Room) (text other : String) :
    room.afterTaking (text ++ other) = (room.afterTaking text).afterTaking other := by
  cases room with
  | none => rfl
  | some free =>
    simp only [afterTaking, Option.map_some, String.toList_append, byteLength_append, Nat.sub_sub]

end Room

namespace FileTree

/-- The place that a name leads to from a place. -/
def enter (place : Place) (name : List Char) : Place :=
  if name == ['.', '.'] then place.dropLast else place ++ [name]

/-- The place that a path leads to, if it can be followed. -/
def destination (home : Place) (path : String) : Place :=
  (Path.components path.toList).foldl enter (if Path.isAbsolute path.toList then [] else home)

/-- The text at a place; it is empty where there is no file. -/
def textAt (tree : FileTree) (place : Place) : String :=
  match tree.at? place with
  | some (.file content) => content
  | _ => ""

/-! ## Following a path -/

theorem follow_eq_foldl {tree : FileTree} {names : List (List Char)} {place target : Place}
    (followed : tree.follow place names = .ok target) : names.foldl enter place = target := by
  induction names generalizing place with
  | nil => exact Except.ok.inj followed
  | cons name names ih =>
    simp only [follow] at followed
    split at followed
    · cases followed
    · cases followed
    · split at followed
      · rename_i up
        rw [List.foldl_cons, enter, if_pos up]
        exact ih followed
      · rename_i down
        split at followed
        · cases followed
        · rw [List.foldl_cons, enter, if_neg down]
          exact ih followed

theorem locate_eq_destination {tree : FileTree} {path : String} {place : Place}
    (located : tree.locate path = .ok place) : destination tree.home path = place := by
  simp only [locate] at located
  split at located
  · cases located
  · split at located
    · cases located
    · exact follow_eq_foldl located

/-- Every directory of one tree is a directory of another. -/
def KeepsDirectories (before after : FileTree) : Prop :=
  ∀ place, before.at? place = some .directory → after.at? place = some .directory

theorem follow_of_keepsDirectories {before after : FileTree} (kept : KeepsDirectories before after)
    {names : List (List Char)} {place target : Place}
    (followed : before.follow place names = .ok target) :
    after.follow place names = .ok target := by
  induction names generalizing place with
  | nil => exact followed
  | cons name names ih =>
    simp only [follow] at followed ⊢
    split at followed
    · cases followed
    · cases followed
    · rename_i found
      rw [kept place found]
      dsimp only
      split at followed
      · rename_i up
        rw [if_pos up]
        exact ih followed
      · rename_i down
        rw [if_neg down]
        split at followed
        · cases followed
        · rename_i short
          rw [if_neg short]
          exact ih followed

theorem locate_of_keepsDirectories {before after : FileTree} (kept : KeepsDirectories before after)
    (home : after.home = before.home) {path : String} {place : Place}
    (located : before.locate path = .ok place) : after.locate path = .ok place := by
  simp only [locate] at located ⊢
  split at located
  · cases located
  · rename_i clean
    rw [if_neg clean]
    split at located
    · cases located
    · rename_i written
      rw [if_neg written, home]
      exact follow_of_keepsDirectories kept located

/-! ## Putting an entry -/

theorem lookup_replace (entries : List (Place × Entry)) (place other : Place) (entry : Entry) :
    (entries.map fun old => if old.1 == place then (place, entry) else old).lookup other =
      if other = place then (entries.lookup other).map fun _ => entry
      else entries.lookup other := by
  induction entries with
  | nil => simp
  | cons head rest ih =>
    obtain ⟨spot, held⟩ := head
    by_cases here : spot = place
    · subst here
      by_cases same : other = spot
      · subst same
        simp
      · have differ : (other == spot) = false := beq_false_of_ne same
        simpa [List.lookup_cons, differ, same] using ih
    · have differ : (spot == place) = false := beq_false_of_ne here
      simp only [List.map_cons, differ, Bool.false_eq_true, if_false, List.lookup_cons]
      by_cases same : other = spot
      · subst same
        simp [here]
      · have off : (other == spot) = false := beq_false_of_ne same
        simpa [off] using ih

theorem lookup_any (entries : List (Place × Entry)) (place : Place) :
    (entries.any fun old => old.1 == place) = (entries.lookup place).isSome := by
  induction entries with
  | nil => rfl
  | cons head rest ih =>
    obtain ⟨spot, held⟩ := head
    by_cases here : spot = place
    · subst here
      simp
    · have differ : (spot == place) = false := beq_false_of_ne here
      have off : (place == spot) = false := beq_false_of_ne (Ne.symm here)
      simpa [List.lookup_cons, differ, off] using ih

theorem at?_put {tree : FileTree} {place : Place} (below : place ≠ []) (other : Place)
    (entry : Entry) :
    (tree.put place entry).at? other = if other = place then some entry else tree.at? other := by
  by_cases root : other = []
  · subst root
    simp [at?, Ne.symm below]
  · have notRoot : other.isEmpty = false := by simpa using root
    simp only [at?, put, notRoot, Bool.false_eq_true, if_false, lookup_any]
    cases present : tree.entries.lookup place with
    | some held =>
      rw [Option.isSome_some, if_pos rfl, lookup_replace]
      by_cases same : other = place
      · subst same
        simp [present]
      · simp [same]
    | none =>
      rw [Option.isSome_none, if_neg Bool.false_ne_true, List.lookup_append]
      by_cases same : other = place
      · subst same
        simp [present]
      · have off : (other == place) = false := beq_false_of_ne same
        simp [List.lookup_cons, off, same]

/-- Whoever can read a path finds the text at its destination. -/
theorem textAt_of_read {tree : FileTree} {path text : String}
    (found : tree.read path = .ok text) : tree.textAt (destination tree.home path) = text := by
  unfold read at found
  split at found
  · cases found
  · rename_i place located
    rw [locate_eq_destination located, textAt]
    split at found
    · cases found
    · cases found
    · rename_i content held
      split at found
      · cases found
      · cases found
        rw [held]

/-! ## Adding text -/

/-- One tree is another with a text added at a place; every other text is the same, and the text is
all that has taken room. -/
structure Adds (before after : FileTree) (place : Place) (text : String) : Prop where
  home : after.home = before.home
  room : after.room = before.room.afterTaking text
  here : after.textAt place = before.textAt place ++ text
  elsewhere : ∀ other, other ≠ place → after.textAt other = before.textAt other

theorem Adds.trans {first second third : FileTree} {place : Place} {earlier later : String}
    (one : Adds first second place earlier) (two : Adds second third place later) :
    Adds first third place (earlier ++ later) where
  home := two.home.trans one.home
  room := by rw [two.room, one.room, Room.afterTaking_append]
  here := by rw [two.here, one.here, String.append_assoc]
  elsewhere := fun other off => (two.elsewhere other off).trans (one.elsewhere other off)

/-- A tree that changes no text adds the empty text anywhere. -/
theorem Adds.of_same {before after : FileTree} (home : after.home = before.home)
    (room : after.room = before.room) (same : ∀ place, after.textAt place = before.textAt place)
    (place : Place) : Adds before after place "" :=
  ⟨home, room.trans before.room.afterTaking_nothing.symm, by rw [same, String.append_empty],
    fun other _ => same other⟩

theorem Adds.refl (tree : FileTree) (place : Place) : Adds tree tree place "" :=
  .of_same rfl rfl (fun _ => rfl) place

/-- Where there is no limit on the room, none comes about. -/
theorem Adds.unlimited {before after : FileTree} {place : Place} {text : String}
    (added : Adds before after place text) (room : before.room = none) : after.room = none := by
  rw [added.room, room]
  rfl

theorem ne_root_of_at? {tree : FileTree} {place : Place}
    (notDirectory : tree.at? place ≠ some .directory) : place ≠ [] := by
  rintro rfl
  exact notDirectory rfl

/-- One tree is another with a file at a place. -/
structure Gets (before after : FileTree) (place : Place) (text : String) : Prop where
  home : after.home = before.home
  locked : after.locked = before.locked
  here : after.at? place = some (.file text)
  elsewhere : ∀ other, other ≠ place → after.at? other = before.at? other

theorem home_put (tree : FileTree) (place : Place) (entry : Entry) :
    (tree.put place entry).home = tree.home := by
  unfold put
  split <;> rfl

theorem room_put (tree : FileTree) (place : Place) (entry : Entry) :
    (tree.put place entry).room = tree.room := by
  unfold put
  split <;> rfl

theorem locked_put (tree : FileTree) (place : Place) (entry : Entry) :
    (tree.put place entry).locked = tree.locked := by
  unfold put
  split <;> rfl

theorem gets_put (tree : FileTree) {place : Place} (below : place ≠ []) (text : String) :
    Gets tree (tree.put place (.file text)) place text where
  home := home_put ..
  locked := locked_put ..
  here := by rw [at?_put below, if_pos rfl]
  elsewhere other off := by rw [at?_put below, if_neg off]

/-- Filling a file puts it there, and takes room. -/
theorem gets_fill (tree : FileTree) {place : Place} (below : place ≠ []) (content : String)
    (room : Room) (text : String) :
    Gets tree (tree.fill place content room text) place (content ++ room.beginning text) :=
  have put := gets_put tree below (content ++ room.beginning text)
  ⟨put.home, put.locked, put.here, put.elsewhere⟩

/-! ## Writing to a file -/

/-- What a path leads to that can be opened for writing: a file, or a place for one. -/
theorem openForWriting_inv {tree : FileTree} {path : String} {place : Place} {content : String}
    (opened : tree.openForWriting path = .ok (place, content)) :
    tree.locate path = .ok place ∧ Path.namesDirectory path.toList = false ∧
      tree.locked.contains place = false ∧
      (tree.at? place = some (.file content) ∨ tree.at? place = none ∧ content = "") := by
  have free {target : Place} (unlocked : ¬ tree.isLocked target = true) :
      tree.locked.contains target = false := by
    rw [isLocked, Bool.or_eq_true, not_or, Bool.not_eq_true] at unlocked
    exact unlocked.1
  unfold openForWriting at opened
  split at opened
  · cases opened
  · rename_i target located
    split at opened
    · cases opened
    · rename_i held found
      split at opened
      · cases opened
      · rename_i inside
        split at opened
        · cases opened
        · rename_i unlocked
          cases opened
          exact ⟨located, by simpa using inside, free unlocked, .inl found⟩
    · rename_i nothing
      split at opened
      · cases opened
      · rename_i inside
        split at opened
        · cases opened
        · rename_i unlocked
          cases opened
          exact ⟨located, by simpa using inside, free unlocked, .inr ⟨nothing, rfl⟩⟩

theorem openForWriting_of_file {tree : FileTree} {path : String} {place : Place} {content : String}
    (located : tree.locate path = .ok place) (inside : Path.namesDirectory path.toList = false)
    (free : tree.locked.contains place = false) (found : tree.at? place = some (.file content)) :
    tree.openForWriting path = .ok (place, content) := by
  have unlocked : tree.isLocked place = false := by
    rw [isLocked, free, found]
    rfl
  simp only [openForWriting, located, found, inside, unlocked, Bool.false_eq_true, if_false]

theorem textAt_of_opened {tree : FileTree} {path : String} {place : Place} {content : String}
    (opened : tree.openForWriting path = .ok (place, content)) : tree.textAt place = content := by
  obtain ⟨-, -, -, found | ⟨nothing, rfl⟩⟩ := openForWriting_inv opened
  · simp [textAt, found]
  · simp [textAt, nothing]

theorem not_directory_of_opened {tree : FileTree} {path : String} {place : Place}
    {content : String} (opened : tree.openForWriting path = .ok (place, content)) :
    tree.at? place ≠ some .directory := by
  obtain ⟨-, -, -, found | ⟨nothing, -⟩⟩ := openForWriting_inv opened
  · simp [found]
  · simp [nothing]

theorem below_of_opened {tree : FileTree} {path : String} {place : Place} {content : String}
    (opened : tree.openForWriting path = .ok (place, content)) : place ≠ [] :=
  ne_root_of_at? (not_directory_of_opened opened)

section Opened

variable {before after : FileTree} {path content text : String} {place : Place}
  (opened : before.openForWriting path = .ok (place, content)) (gets : Gets before after place text)

include opened gets

/-- A path that could be opened leads to the same place when a file is put there. -/
theorem Gets.locate : after.locate path = .ok place := by
  have kept : KeepsDirectories before after := by
    intro other found
    have off : other ≠ place := by
      rintro rfl
      exact not_directory_of_opened opened found
    rw [gets.elsewhere other off, found]
  exact locate_of_keepsDirectories kept gets.home (openForWriting_inv opened).1

/-- The file can be opened again. -/
theorem Gets.reopened : after.openForWriting path = .ok (place, text) := by
  obtain ⟨-, inside, free, -⟩ := openForWriting_inv opened
  exact openForWriting_of_file (gets.locate opened) inside (gets.locked ▸ free) gets.here

/-- The file can be read. -/
theorem Gets.read : after.read path = .ok text := by
  obtain ⟨-, inside, -, -⟩ := openForWriting_inv opened
  simp only [FileTree.read, gets.locate opened, gets.here, inside, Bool.false_eq_true, if_false]

end Opened

/-- A file that goes on where it ended gains a text. -/
theorem Gets.adds {before after : FileTree} {path content text : String} {place : Place}
    (opened : before.openForWriting path = .ok (place, content))
    (gets : Gets before after place (content ++ text))
    (room : after.room = before.room.afterTaking text) :
    Adds before after (destination before.home path) text := by
  rw [locate_eq_destination (openForWriting_inv opened).1]
  refine ⟨gets.home, room, ?_, fun other off => ?_⟩
  · rw [textAt_of_opened opened, textAt, gets.here]
  · rw [textAt, gets.elsewhere other off, textAt]

/-- Appending what fits adds it. -/
theorem fill_adds {tree : FileTree} {path content : String} {place : Place}
    (opened : tree.openForWriting path = .ok (place, content)) (text : String) :
    Adds tree (tree.fill place content tree.room text) (destination tree.home path)
      (tree.room.beginning text) :=
  (gets_fill tree (below_of_opened opened) content tree.room text).adds opened rfl

/-- What is written to a file is read from it. -/
theorem read_of_write {before after : FileTree} {path text : String}
    (written : before.write path text = .ok after) : after.read path = .ok text := by
  unfold write at written
  split at written
  · cases written
  · rename_i place content opened
    dsimp only at written
    split at written
    · rename_i fits
      cases written
      have gets := gets_fill before (below_of_opened opened) ""
        (before.room.afterDropping content) text
      rw [Room.beginning_of_fits fits, String.empty_append] at gets
      exact gets.read opened
    · cases written

/-- Opening a file for appending adds no text, and the file stays open to writing. -/
theorem openForAppending_inv {before after : FileTree} {path : String}
    (opened : before.openForAppending path = .ok after) :
    Adds before after (destination before.home path) "" ∧
      ∃ target, after.openForWriting path = .ok target := by
  unfold openForAppending at opened
  split at opened
  · cases opened
  · rename_i place content found
    cases opened
    have gets := gets_put before (below_of_opened found) content
    refine ⟨?_, _, gets.reopened found⟩
    rw [← String.append_empty (s := content)] at gets ⊢
    exact gets.adds found ((room_put ..).trans before.room.afterTaking_nothing.symm)

/-- An append that succeeds has had room for the text, has opened the file and added the text, and
the file stays open to writing. -/
theorem append_inv {before after : FileTree} {path text : String}
    (appended : before.append path text = .ok after) :
    before.room.fits text = true ∧ (∃ target, before.openForWriting path = .ok target) ∧
      Adds before after (destination before.home path) text ∧
        ∃ target, after.openForWriting path = .ok target := by
  unfold append at appended
  split at appended
  · cases appended
  · rename_i place content opened
    split at appended
    · rename_i fits
      cases appended
      have added := fill_adds opened text
      rw [Room.beginning_of_fits fits] at added
      exact ⟨fits, ⟨_, opened⟩, added,
        _, (gets_fill before (below_of_opened opened) content before.room text).reopened opened⟩
    · cases appended

/-- An append to a file that is open to writing succeeds where there is no limit on the room. -/
theorem append_of_opened {tree : FileTree} {path : String} (room : tree.room = none)
    (opened : ∃ target, tree.openForWriting path = .ok target) (text : String) :
    ∃ after, tree.append path text = .ok after := by
  obtain ⟨⟨place, content⟩, found⟩ := opened
  have fits : tree.room.fits text = true := by
    rw [room]
    rfl
  exact ⟨_, by simp only [append, found, fits, if_true]; rfl⟩

/-- A text that cannot be appended adds a beginning of itself at most. -/
theorem leftByAppending_adds {tree : FileTree} {path text : String} {error : StorageError}
    (failed : tree.append path text = .error error) (some : text ≠ "") :
    ∃ part, tree.room.Cuts text part ∧
      Adds tree (tree.leftByAppending path text) (destination tree.home path) part := by
  unfold append at failed
  unfold leftByAppending
  split at failed
  · exact ⟨"", tree.room.cuts_nothing some, .refl _ _⟩
  · rename_i place content opened
    split at failed
    · cases failed
    · rename_i tight
      exact ⟨_, Room.cuts_beginning (by simpa using tight), fill_adds opened text⟩

end FileTree

end LoadSweep
