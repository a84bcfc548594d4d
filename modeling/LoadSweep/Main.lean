import LoadSweep.CommandLine.Perform
import LoadSweep.Wire.Unconnected

/-!
# The program

The program reads its arguments and what they name, performs the command on the unconnected bench
and prints the outcome.  All decisions are made by `performArguments`.
-/

namespace LoadSweep.CommandLine

set_option autoImplicit false

/-- Why a file cannot be read. -/
def readingFailure : IO.Error → String
  | .noFileOrDirectory .. => StorageError.notFound.text
  | .permissionDenied .. => permissionDenied
  | .inappropriateType .. => StorageError.isDirectory.text
  | error => toString error

/-- The text of a file, or why there is none. -/
def readFile (path : String) : IO (Except String String) := do
  try
    match String.fromUTF8? (← IO.FS.readBinFile path) with
    | some text => return .ok text
    | none => return .error "stream did not contain valid UTF-8"
  catch error => return .error (readingFailure error)

/-- Standard input, or why it cannot be read. -/
def readInput : IO (Except String String) := do
  try return .ok (← (← IO.getStdin).readToEnd)
  catch error => return .error (readingFailure error)

/-- What the surroundings of an invocation hold. -/
def surroundingsFor (invocation : Option Invocation) : IO (Surroundings Unit) := do
  let file ← match invocation.bind Invocation.path? with
    | some path => readFile path
    | none => pure (.error StorageError.notFound.text)
  let input ← match invocation with
    | some (.extract none) => readInput
    | _ => pure (.ok "")
  return { read := fun _ => file
           input := input
           bench := Wire.unconnectedBench ""
           world := ()
           files := FileTree.empty }

end LoadSweep.CommandLine

/-- Performs what the arguments ask for. -/
def main (arguments : List String) : IO UInt32 := do
  let invocation := LoadSweep.CommandLine.Invocation.ofArguments? arguments
  let surroundings ← LoadSweep.CommandLine.surroundingsFor invocation
  let outcome := LoadSweep.CommandLine.performArguments surroundings arguments
  IO.print outcome.printed
  IO.eprint outcome.errorText
  return outcome.status.toUInt32
