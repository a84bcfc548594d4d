import LoadSweep.Storage.Path

/-!
# A tree of files

Reports and logs are written into a tree of directories and texts.  The tree is data, so what a
write changes, and what it leaves alone, can be stated.  A path is followed from the root or from
the home directory; every component before the last must be a directory.

Whatever is written can fail.  A tree may have room for so many bytes only, and a text for which
there is not enough room is written as far as it fits; and some places may be locked.  What a failed
operation leaves is a function of its own beside each operation that can leave anything.
-/

namespace LoadSweep

open LoadSweep.Text

set_option autoImplicit false

/-- Why a file or directory cannot be used. -/
inductive StorageError where
  | notFound
  | alreadyExists
  | notDirectory
  | isDirectory
  | permissionDenied
  | noSpace
  | nameTooLong
  | nulInName
  deriving Repr, DecidableEq, Inhabited

/-- The words for a storage error. -/
def StorageError.text : StorageError → String
  | notFound => "No such file or directory (os error 2)"
  | alreadyExists => "File exists (os error 17)"
  | notDirectory => "Not a directory (os error 20)"
  | isDirectory => "Is a directory (os error 21)"
  | permissionDenied => "Permission denied (os error 13)"
  | noSpace => "No space left on device (os error 28)"
  | nameTooLong => "File name too long (os error 36)"
  | nulInName => "file name contained an unexpected NUL byte"

/-- What stands at a place. -/
inductive Entry where
  | directory
  | file (content : String)
  deriving Repr, DecidableEq, Inhabited

/-- A place in a tree: the names on the way from the root. -/
abbrev Place := List (List Char)

/-- The number of bytes that can still be taken, unless there is no limit. -/
abbrev Room := Option Nat

namespace Room

/-- Whether there is room for a text. -/
def fits (room : Room) (text : String) : Bool :=
  match room with
  | none => true
  | some free => decide (byteLength text.toList ≤ free)

/-- The longest beginning of a text for which there is room. -/
def beginning (room : Room) (text : String) : String :=
  match room with
  | none => text
  | some free => String.ofList (takeBytes free text.toList)

/-- The room that is left when a text has been taken. -/
def afterTaking (room : Room) (text : String) : Room :=
  room.map fun free => free - byteLength text.toList

/-- The room that there is once a text has been given up. -/
def afterDropping (room : Room) (text : String) : Room :=
  room.map fun free => free + byteLength text.toList

end Room

/-- A tree of files. -/
structure FileTree where
  entries : List (Place × Entry)
  /-- Where a path starts that does not start at the root. -/
  home : Place
  room : Room
  /-- Files that may not be written, and directories in which nothing may be made. -/
  locked : List Place
  deriving Repr, DecidableEq, Inhabited

namespace FileTree

/-- A tree without files. -/
def empty : FileTree := ⟨[], [], none, []⟩

/-- What stands at a place; the root is a directory. -/
def at? (tree : FileTree) (place : Place) : Option Entry :=
  if place.isEmpty then some .directory else tree.entries.lookup place

/-- A tree with an entry at a place. -/
def put (tree : FileTree) (place : Place) (entry : Entry) : FileTree :=
  if tree.entries.any fun old => old.1 == place then
    { tree with
      entries := tree.entries.map fun old => if old.1 == place then (place, entry) else old }
  else { tree with entries := tree.entries ++ [(place, entry)] }

/-- Follows names from a place. -/
def follow (tree : FileTree) (place : Place) : List (List Char) → Except StorageError Place
  | [] => .ok place
  | name :: names =>
    match tree.at? place with
    | none => .error .notFound
    | some (.file _) => .error .notDirectory
    | some .directory =>
      if name == ['.', '.'] then tree.follow place.dropLast names
      else if byteLength name > 255 then .error .nameTooLong
      else tree.follow (place ++ [name]) names

/-- The place that a path names. -/
def locate (tree : FileTree) (path : String) : Except StorageError Place :=
  let characters := path.toList
  if characters.contains '\x00' then .error .nulInName
  else if characters.isEmpty then .error .notFound
  else tree.follow (if Path.isAbsolute characters then [] else tree.home)
    (Path.components characters)

/-- Whether a path names a directory. -/
def isDirectory (tree : FileTree) (path : String) : Bool :=
  match tree.locate path with
  | .ok place => tree.at? place == some .directory
  | .error _ => false

/-- The text of the file at a path. -/
def read (tree : FileTree) (path : String) : Except StorageError String :=
  match tree.locate path with
  | .error error => .error error
  | .ok place => match tree.at? place with
    | none => .error .notFound
    | some .directory => .error .isDirectory
    | some (.file content) =>
      if Path.namesDirectory path.toList then .error .notDirectory else .ok content

/-- Whether a place is locked, or is to be made in a directory that is. -/
def isLocked (tree : FileTree) (place : Place) : Bool :=
  tree.locked.contains place || (tree.at? place).isNone && tree.locked.contains place.dropLast

/-- Makes one directory. -/
def makeDirectory (tree : FileTree) (path : String) : Except StorageError FileTree :=
  match tree.locate path with
  | .error error => .error error
  | .ok place =>
    if Path.fileName? path == some ['.', '.'] || (tree.at? place).isSome then
      .error .alreadyExists
    else if tree.isLocked place then .error .permissionDenied
    else .ok (tree.put place .directory)

/-- Makes the directory at a path, or finds it made. -/
def ensureDirectory (tree : FileTree) (path : String) : Except StorageError FileTree :=
  match tree.makeDirectory path with
  | .ok tree => .ok tree
  | .error error => if tree.isDirectory path then .ok tree else .error error

/-- Makes a directory and those above it, with a bound on their number. -/
def makeDirectoriesWithin (tree : FileTree) : Nat → String → Except StorageError FileTree
  | 0, _ => .error .notFound
  | bound + 1, path =>
    if path.isEmpty then .ok tree
    else match tree.makeDirectory path with
      | .ok tree => .ok tree
      | .error .notFound =>
        match Path.parent? path with
        | none => .error .notFound
        | some parent =>
          match tree.makeDirectoriesWithin bound parent with
          | .error error => .error error
          | .ok tree => tree.ensureDirectory path
      | .error error => if tree.isDirectory path then .ok tree else .error error

/-- What is left when directories could not be made, with a bound on their number: those above that
were made before. -/
def leftByMakingWithin (tree : FileTree) : Nat → String → FileTree
  | 0, _ => tree
  | bound + 1, path =>
    match tree.makeDirectory path, Path.parent? path with
    | .error .notFound, some parent =>
      match tree.makeDirectoriesWithin bound parent with
      | .error _ => tree.leftByMakingWithin bound parent
      | .ok tree => tree
    | _, _ => tree

/-- Makes a directory and those above it. -/
def makeDirectories (tree : FileTree) (path : String) : Except StorageError FileTree :=
  tree.makeDirectoriesWithin (path.length + 1) path

/-- What is left when a directory and those above it could not be made. -/
def leftByMaking (tree : FileTree) (path : String) : FileTree :=
  tree.leftByMakingWithin (path.length + 1) path

/-- The place of the file at a path that is to be written, and its text so far; there may be no
file yet. -/
def openForWriting (tree : FileTree) (path : String) : Except StorageError (Place × String) :=
  match tree.locate path with
  | .error error => .error error
  | .ok place => match tree.at? place with
    | some .directory => .error .isDirectory
    | some (.file content) =>
      if Path.namesDirectory path.toList then .error .notDirectory
      else if tree.isLocked place then .error .permissionDenied
      else .ok (place, content)
    | none =>
      if Path.namesDirectory path.toList then .error .isDirectory
      else if tree.isLocked place then .error .permissionDenied
      else .ok (place, "")

/-- Makes sure that there is a file at a path to which text can be appended. -/
def openForAppending (tree : FileTree) (path : String) : Except StorageError FileTree :=
  match tree.openForWriting path with
  | .error error => .error error
  | .ok (place, content) => .ok (tree.put place (.file content))

/-- A tree in which a file holds a text, and then as much of another as there is room for. -/
def fill (tree : FileTree) (place : Place) (content : String) (room : Room) (text : String) :
    FileTree :=
  let taken := room.beginning text
  { tree.put place (.file (content ++ taken)) with room := room.afterTaking taken }

/-- Appends to the file at a path. -/
def append (tree : FileTree) (path text : String) : Except StorageError FileTree :=
  match tree.openForWriting path with
  | .error error => .error error
  | .ok (place, content) =>
    if tree.room.fits text then .ok (tree.fill place content tree.room text)
    else .error .noSpace

/-- What is left when a text could not be appended: the beginning of it for which there was room. -/
def leftByAppending (tree : FileTree) (path text : String) : FileTree :=
  match tree.openForWriting path with
  | .error _ => tree
  | .ok (place, content) => tree.fill place content tree.room text

/-- Writes a file and forgets what it held. -/
def write (tree : FileTree) (path text : String) : Except StorageError FileTree :=
  match tree.openForWriting path with
  | .error error => .error error
  | .ok (place, content) =>
    let room := tree.room.afterDropping content
    if room.fits text then .ok (tree.fill place "" room text) else .error .noSpace

/-- What is left when a file could not be written: if it could be opened, what it held is gone, and
it has the beginning of its text for which there was room. -/
def leftByWriting (tree : FileTree) (path text : String) : FileTree :=
  match tree.openForWriting path with
  | .error _ => tree
  | .ok (place, content) => tree.fill place "" (tree.room.afterDropping content) text

/-- The files of a tree. -/
def files (tree : FileTree) : List (Place × String) :=
  tree.entries.filterMap fun (place, entry) =>
    match entry with
    | .directory => none
    | .file content => some (place, content)

end FileTree

end LoadSweep
