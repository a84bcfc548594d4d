import LoadSweep.Text.Blank
import LoadSweep.Text.Utf8

/-!
# Paths

A path is a text.  Its components are what stands between slashes, without the empty ones and those
that are a single point; a path that starts with a slash starts at the root.  Faults show paths as
they were written, so joining and taking a parent keep the spelling of what remains.
-/

namespace LoadSweep.Path

open LoadSweep.Text

set_option autoImplicit false

/-- Whether a path starts at the root. -/
def isAbsolute (path : List Char) : Bool :=
  path.head? == some '/'

/-- The components of a path. -/
def components (path : List Char) : List (List Char) :=
  (pieces (· == '/') path).filter fun piece => !piece.isEmpty && piece != ['.']

/-- A path below another one; a path that starts at the root replaces it. -/
def join (base path : String) : String :=
  if isAbsolute path.toList || base.isEmpty then path
  else if base.toList.getLast? == some '/' then base ++ path
  else base ++ "/" ++ path

/-- A path without the slashes and the components `.` at its end, written in reverse. -/
def dropIdle : List Char → List Char
  | '/' :: rest => dropIdle rest
  | '.' :: '/' :: rest => dropIdle rest
  | path => path

/-- The path without its last component, if it has one. -/
def parent? (path : String) : Option String :=
  let reversed := dropIdle path.toList.reverse
  if (components path.toList).isEmpty then none
  else
    let rest := (reversed.dropWhile (· != '/'))
    let shown := dropIdle rest
    some (if shown.isEmpty && !rest.isEmpty then "/" else String.ofList shown.reverse)

/-- The last component. -/
def fileName? (path : String) : Option (List Char) :=
  (components path.toList).getLast?

/-- What follows the last point of the last component, unless that point starts it. -/
def extension? (path : String) : Option String :=
  (fileName? path).bind fun name =>
    if name == ['.', '.'] then none
    else (splitLast? (· == '.') name).bind fun (stem, ending) =>
      if stem.isEmpty then none else some (String.ofList ending)

/-- Whether a path can only name a directory, by the way it ends. -/
def namesDirectory (path : List Char) : Bool :=
  match path.reverse with
  | '/' :: _ => true
  | ['.'] => true
  | '.' :: '/' :: _ => true
  | ['.', '.'] => true
  | '.' :: '.' :: '/' :: _ => true
  | _ => false

end LoadSweep.Path
