import LoadSweep.Json.Reader
import LoadSweep.Settings.Decoding
import LoadSweep.Settings.Encoding
import LoadSweep.Storage.Tree
import LoadSweep.Yaml.Reader
import LoadSweep.Yaml.Writer

/-!
# Loading and writing settings

Settings come from a file: one whose name ends in `.json` holds JSON, and any other one YAML.
Whatever is loaded is valid.
-/

namespace LoadSweep.Settings

set_option autoImplicit false

/-- Checks decoded settings. -/
def checked (decoded : Option Settings) : Except Fault Settings :=
  match decoded with
  | none => .error (.document "the document does not hold settings")
  | some settings => match settings.validate with
    | .error fault => .error fault
    | .ok _ => .ok settings

/-- Reads settings from JSON. -/
def ofJsonText (text : String) : Except Fault Settings :=
  checked ((Json.read? text).bind fun value => ofDocument? (Document.ofJson value))

/-- Reads settings from YAML. -/
def ofYamlText (text : String) : Except Fault Settings :=
  checked ((Yaml.readDocument? text).bind ofDocument?)

/-- Reads settings from a text in the format of a path. -/
def ofText (path text : String) : Except Fault Settings :=
  if Path.extension? path == some "json" then ofJsonText text else ofYamlText text

/-- Loads settings; `read` gives the text of a file or the reason why there is none. -/
def load (read : String → Except String String) (path : String) : Except Fault Settings :=
  match read path with
  | .error reason => .error (.storage path reason)
  | .ok text => ofText path text

/-- The text of settings in YAML. -/
def toYaml (settings : Settings) : String :=
  Yaml.write settings.toJson

end LoadSweep.Settings

namespace LoadSweep

/-- The text of a file, or why there is none. -/
def FileTree.readText (tree : FileTree) (path : String) : Except String String :=
  (tree.read path).mapError StorageError.text

end LoadSweep
