import LoadSweep.Client.Command
import LoadSweep.Client.Outcome
import LoadSweep.Storage.Tree
import LoadSweep.Text.Utf8

/-!
# Executions

An execution of the client is a process with two streams of bytes.  It is stopped at the limit of
its time, together with the processes of its group.  Its output is read until both streams are
closed, but no longer than a grace period after the limit; a process outside of its group that holds
the streams open beyond that costs the whole output.
-/

namespace LoadSweep

open LoadSweep.Text

set_option autoImplicit false

/-- How an execution ends. -/
inductive ExecutionEnding where
  | exit (status : Nat)
  | killed
  /-- Not by itself. -/
  | never
  deriving Repr, DecidableEq

/-- A further process that holds the streams open for a time. -/
structure StreamHolder where
  inGroup : Bool
  span : Duration
  deriving Repr, DecidableEq

/-- A started execution of a program. -/
structure Execution where
  output : List UInt8
  errors : List UInt8
  ending : ExecutionEnding
  holder : Option StreamHolder
  deriving Repr, DecidableEq

/-- The time after the limit for which open streams are still read. -/
def readingGrace : Duration := .ofMilliseconds 250

namespace Execution

/-- How the run ends that an execution belongs to. -/
def status (execution : Execution) (limit : Duration) : RunStatus :=
  match execution.ending with
  | .exit code => if code % 256 == 0 then .success else .exited (code % 256 : Nat)
  | .killed => .signalled
  | .never => .timedOut limit

/-- Whether the streams are closed in time. -/
def closesInTime (execution : Execution) (limit : Duration) : Bool :=
  match execution.holder with
  | none => true
  | some holder =>
    (holder.inGroup && execution.ending == .never)
      || decide (holder.span.nanoseconds ≤ limit.nanoseconds + readingGrace.nanoseconds)

/-- What a run leaves behind. -/
def outcome (execution : Execution) (limit : Duration) : RunOutcome :=
  let text (bytes : List UInt8) : String :=
    if execution.closesInTime limit then ofBytes bytes else ""
  ⟨text execution.output, text execution.errors, execution.status limit⟩

end Execution

/-- The outcome of a run that never began. -/
def RunOutcome.notStarted (reason : String) : RunOutcome :=
  ⟨"", "", .notStarted reason⟩

/-- The words for a program that is none. -/
def permissionDenied : String := "Permission denied (os error 13)"

/-- Why a command cannot be started whose program, if it names anything in the tree, names nothing
that can be executed. -/
def Command.launchFailure (command : Command) (tree : FileTree) : String :=
  let texts := command.program :: command.arguments
  if texts.any fun text => text.toList.contains '\x00' then "nul byte found in provided data"
  else if command.program == "." || command.program == ".." then permissionDenied
  else match tree.locate command.program with
    | .error error => error.text
    | .ok place =>
      if !command.program.toList.contains '/' || (tree.at? place).isNone then
        StorageError.notFound.text
      else permissionDenied

end LoadSweep
