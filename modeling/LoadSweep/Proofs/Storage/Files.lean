import LoadSweep.Proofs.Storage.Texts

/-!
# Which files an operation touches

What stands at a place as a file is `fileAt?`; unlike the text at a place it tells a missing file
from an empty one.  An operation spares all files but those at some places, and takes no directory
away (`Spares`), so a text that could be read from a path it does not touch is read from it again
(`Spares.read`).

Making directories touches no file, whether it succeeds (`makeDirectories_spares`) or not
(`leftByMaking_spares`).  Writing touches the file at the destination of its path
(`write_spares`); when it fails that file is as it was, or has a beginning of the text that is not
the whole of it (`leftByWriting_spares`).
-/

namespace LoadSweep

set_option autoImplicit false

namespace FileTree

/-- The text of the file at a place, if there is one. -/
def fileAt? (tree : FileTree) (place : Place) : Option String :=
  match tree.at? place with
  | some (.file content) => some content
  | _ => none

theorem textAt_eq_fileAt? (tree : FileTree) (place : Place) :
    tree.textAt place = (tree.fileAt? place).getD "" := by
  rw [textAt, fileAt?]
  rcases tree.at? place with _ | _ | _ <;> rfl

/-- A text is read from a path exactly if the path names a file and leads to one with that text. -/
theorem read_eq_ok_iff {tree : FileTree} {path text : String} :
    tree.read path = .ok text ↔
      Path.namesDirectory path.toList = false ∧ ∃ place, tree.locate path = .ok place ∧
        tree.at? place = some (.file text) := by
  rw [read]
  cases located : tree.locate path with
  | error error => simp
  | ok place =>
    cases held : tree.at? place with
    | none => simp [held]
    | some entry =>
      cases entry with
      | directory => simp [held]
      | file content =>
        cases Path.namesDirectory path.toList <;> simp [held]

/-- A path from which a text is read leads to a file with that text. -/
theorem fileAt?_of_read {tree : FileTree} {path text : String}
    (found : tree.read path = .ok text) :
    tree.fileAt? (destination tree.home path) = some text := by
  obtain ⟨-, place, located, held⟩ := read_eq_ok_iff.mp found
  rw [locate_eq_destination located, fileAt?, held]

@[simp]
theorem fileAt?_empty (place : Place) : empty.fileAt? place = none := by
  cases place <;> rfl

/-! ## What an operation spares -/

/-- One tree comes from another by touching no files but those at some places, and if there are none
it has as much room.  Directories may be new, and none is gone. -/
structure Spares (before after : FileTree) (touched : List Place) : Prop where
  home : after.home = before.home
  room : touched = [] → after.room = before.room
  directories : KeepsDirectories before after
  files : ∀ place, place ∉ touched → after.fileAt? place = before.fileAt? place

namespace Spares

variable {first second third : FileTree} {earlier later touched : List Place}

theorem refl (tree : FileTree) (touched : List Place) : Spares tree tree touched :=
  ⟨rfl, fun _ => rfl, fun _ found => found, fun _ _ => rfl⟩

theorem trans (one : Spares first second earlier) (two : Spares second third later) :
    Spares first third (earlier ++ later) where
  home := two.home.trans one.home
  room nothing :=
    have ⟨first, second⟩ := List.append_eq_nil_iff.mp nothing
    (two.room second).trans (one.room first)
  directories place found := two.directories place (one.directories place found)
  files := by
    intro place untouched
    rw [List.mem_append, not_or] at untouched
    exact (two.files place untouched.2).trans (one.files place untouched.1)

theorem mono (spares : Spares first second earlier) (among : ∀ place ∈ earlier, place ∈ touched) :
    Spares first second touched :=
  { spares with
    room := fun nothing => spares.room <| List.eq_nil_iff_forall_not_mem.mpr fun place member =>
      List.not_mem_nil (nothing ▸ among place member)
    files := fun place off => spares.files place fun member => off (among place member) }

/-- Who touches no file changes no text. -/
theorem adds (spares : Spares first second []) (place : Place) : Adds first second place "" := by
  refine .of_same spares.home (spares.room rfl) (fun other => ?_) place
  rw [textAt_eq_fileAt?, textAt_eq_fileAt?, spares.files other List.not_mem_nil]

/-- A text is read again from a path that leads to no touched file. -/
theorem read (spares : Spares first second touched) {path text : String}
    (untouched : destination first.home path ∉ touched) (found : first.read path = .ok text) :
    second.read path = .ok text := by
  obtain ⟨inside, place, located, -⟩ := read_eq_ok_iff.mp found
  have kept := spares.files _ untouched
  rw [fileAt?_of_read found, locate_eq_destination located, fileAt?] at kept
  refine read_eq_ok_iff.mpr ⟨inside, place,
    locate_of_keepsDirectories spares.directories spares.home located, ?_⟩
  split at kept
  · rename_i content held
    rw [held, Option.some.inj kept]
  · cases kept

/-- A file put where no directory is touches its place alone. -/
theorem of_gets {before after : FileTree} {place : Place} {text : String}
    (outside : before.at? place ≠ some .directory) (gets : Gets before after place text) :
    Spares before after [place] := by
  refine ⟨gets.home, nofun, ?_, ?_⟩
  · intro other found
    have off : other ≠ place := fun same => outside (same ▸ found)
    rw [gets.elsewhere other off, found]
  · intro other untouched
    have off : other ≠ place := fun same => untouched (List.mem_singleton.mpr same)
    simp only [fileAt?, gets.elsewhere other off]

/-- A directory put where nothing is touches no file. -/
theorem put_directory {tree : FileTree} {place : Place} (nothing : tree.at? place = none) :
    Spares tree (tree.put place .directory) [] := by
  have outside : tree.at? place ≠ some .directory := by simp [nothing]
  have below := ne_root_of_at? outside
  refine ⟨home_put .., fun _ => room_put .., ?_, ?_⟩
  · intro other found
    rw [at?_put below, found]
    split <;> rfl
  · intro other _
    by_cases same : other = place
    · subst same
      simp [fileAt?, at?_put below, nothing]
    · simp only [fileAt?, at?_put below, if_neg same]

end Spares

/-! ## Making directories -/

theorem makeDirectory_spares {before after : FileTree} {path : String}
    (made : before.makeDirectory path = .ok after) : Spares before after [] := by
  unfold makeDirectory at made
  split at made
  · cases made
  · rename_i target located
    split at made
    · cases made
    rename_i fresh
    split at made
    · cases made
    · cases made
      have nothing : before.at? target = none := by
        simp only [Bool.or_eq_true, not_or, Bool.not_eq_true, Option.isSome_eq_false_iff,
          Option.isNone_iff_eq_none] at fresh
        exact fresh.2
      exact .put_directory nothing

theorem ensureDirectory_spares {before after : FileTree} {path : String}
    (made : before.ensureDirectory path = .ok after) : Spares before after [] := by
  unfold ensureDirectory at made
  split at made
  · rename_i tree new
    cases made
    exact makeDirectory_spares new
  · split at made
    · cases made
      exact .refl _ _
    · cases made

theorem makeDirectoriesWithin_spares {bound : Nat} {before after : FileTree} {path : String}
    (made : before.makeDirectoriesWithin bound path = .ok after) : Spares before after [] := by
  induction bound generalizing path after with
  | zero => cases made
  | succ bound ih =>
    simp only [makeDirectoriesWithin] at made
    split at made
    · cases made
      exact .refl _ _
    · split at made
      · rename_i tree new
        cases made
        exact makeDirectory_spares new
      · split at made
        · cases made
        · split at made
          · cases made
          · rename_i tree above
            exact (ih above).trans (ensureDirectory_spares made)
      · split at made
        · cases made
          exact .refl _ _
        · cases made

theorem makeDirectories_spares {before after : FileTree} {path : String}
    (made : before.makeDirectories path = .ok after) : Spares before after [] :=
  makeDirectoriesWithin_spares made

/-- Making directories changes no text. -/
theorem makeDirectories_adds {before after : FileTree} {path : String}
    (made : before.makeDirectories path = .ok after) (place : Place) :
    Adds before after place "" :=
  (makeDirectories_spares made).adds place

theorem leftByMakingWithin_spares (bound : Nat) (tree : FileTree) (path : String) :
    Spares tree (tree.leftByMakingWithin bound path) [] := by
  induction bound generalizing path with
  | zero => exact .refl _ _
  | succ bound ih =>
    rw [leftByMakingWithin]
    split
    · split
      · exact ih _
      · rename_i above
        exact makeDirectoriesWithin_spares above
    · exact .refl _ _

theorem leftByMaking_spares (tree : FileTree) (path : String) :
    Spares tree (tree.leftByMaking path) [] :=
  leftByMakingWithin_spares _ tree path

/-! ## Writing -/

theorem write_spares {before after : FileTree} {path text : String}
    (written : before.write path text = .ok after) :
    Spares before after [destination before.home path] := by
  unfold write at written
  split at written
  · cases written
  · rename_i place content opened
    dsimp only at written
    split at written
    · cases written
      rw [locate_eq_destination (openForWriting_inv opened).1]
      exact .of_gets (not_directory_of_opened opened) (gets_fill before (below_of_opened opened) ..)
    · cases written

/-- A write that fails leaves the file that it was meant for as it was, or with the part of its text
for which there was room once the file was empty. -/
theorem leftByWriting_spares {tree : FileTree} {path text : String} {error : StorageError}
    (failed : tree.write path text = .error error) :
    Spares tree (tree.leftByWriting path text) [destination tree.home path] ∧
      ((tree.leftByWriting path text).fileAt? (destination tree.home path) =
          tree.fileAt? (destination tree.home path) ∨
        ∃ part,
          (tree.room.afterDropping (tree.textAt (destination tree.home path))).Cuts text part ∧
          (tree.leftByWriting path text).fileAt? (destination tree.home path) = some part) := by
  unfold write at failed
  unfold leftByWriting
  split at failed
  · exact ⟨.refl _ _, .inl rfl⟩
  · rename_i place content opened
    dsimp only at failed
    split at failed
    · cases failed
    · rename_i tight
      have gets := gets_fill tree (below_of_opened opened) ""
        (tree.room.afterDropping content) text
      rw [locate_eq_destination (openForWriting_inv opened).1, textAt_of_opened opened]
      refine ⟨.of_gets (not_directory_of_opened opened) gets,
        .inr ⟨_, Room.cuts_beginning (by simpa using tight), ?_⟩⟩
      rw [fileAt?, gets.here, String.empty_append]

end FileTree

end LoadSweep
