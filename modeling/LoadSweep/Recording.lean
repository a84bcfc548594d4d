import LoadSweep.LogLine
import LoadSweep.Recording.Journal
import LoadSweep.Storage.Tree

/-!
# Recording a sweep

A notebook collects the samples of the sweep in progress and keeps the result log.  Samples come
endpoint by endpoint, and a point is committed once every endpoint has brought one: first its line
goes to the log, then its row to the series, so neither has a point that the other lacks.  A call
that comes out of order is refused and changes nothing.

The log is opened when a sweep begins and closed when it ends.  It is only ever appended to.  A line
that does not fit is a fault, and its beginning stays in the log.
-/

namespace LoadSweep

set_option autoImplicit false

/-- The sweep in progress, its log and the files around it. -/
structure Notebook where
  logPath : String
  /-- Whether the log is held open. -/
  logOpen : Bool
  current : Option Series
  /-- The samples of the point in progress. -/
  pending : List Sample
  files : FileTree
  /-- What was done to the outside, latest first. -/
  journal : List Event

/-- An action on a notebook.  What it changed before a fault stays changed. -/
abbrev NotebookM := EStateM Fault Notebook

namespace Notebook

/-- A notebook for a log at a path, with nothing in progress. -/
def fresh (logPath : String) (files : FileTree) : Notebook :=
  ⟨logPath, false, none, [], files, []⟩

/-- A notebook on the same path and files, with nothing in progress. -/
def renew (notebook : Notebook) : Notebook :=
  { notebook with logOpen := false, current := none, pending := [] }

/-- Whether a sweep is in progress. -/
def inProgress (notebook : Notebook) : Bool :=
  notebook.current.isSome

/-- Performs a change of the files; an error is a fault at a path, and leaves what the change leaves
that failed. -/
def store (path : String) (change : FileTree → Except StorageError FileTree)
    (left : FileTree → FileTree) : NotebookM Unit :=
  fun notebook =>
    match change notebook.files with
    | .ok files => .ok () { notebook with files }
    | .error error =>
      .error (.storage path error.text) { notebook with files := left notebook.files }

/-- Refuses a call. -/
def refuse {α : Type} (cause : Misalignment) : NotebookM α :=
  throw cause.fault

/-- Notes something done to the outside. -/
def note (event : Event) : NotebookM Unit :=
  modify fun notebook => { notebook with journal := event :: notebook.journal }

/-- Opens the log, after making the directories above it. -/
def openLog : NotebookM Unit := do
  let path := (← get).logPath
  match (Path.parent? path).filter fun parent => !parent.isEmpty with
  | some parent =>
    store parent (fun files => files.makeDirectories parent) fun files => files.leftByMaking parent
  | none => pure ()
  store path (fun files => files.openForAppending path) id
  modify fun notebook => { notebook with logOpen := true }

/-- Appends a line to the log, which is opened first if it is closed. -/
def appendLine (line : String) : NotebookM Unit := do
  if !(← get).logOpen then openLog
  let path := (← get).logPath
  store path (fun files => files.append path (line ++ "\n"))
    fun files => files.leftByAppending path (line ++ "\n")
  note (.logged path line)

/-- The sweep in progress. -/
def inProgressSeries : NotebookM Series := do
  match (← get).current with
  | some series => return series
  | none => refuse .nothingOpen

/-- Begins a sweep with the header of its section. -/
def begin (timestamp : String) (sweep : Sweep) (endpoints : List Endpoint) : NotebookM Unit := do
  match (← get).current with
  | some current => refuse (.sweepStillOpen sweep.name current.sweep.name)
  | none =>
    appendLine (sectionHeader timestamp sweep.title endpoints)
    modify fun notebook =>
      { notebook with current := some (.start sweep (endpoints.map Endpoint.name)), pending := [] }

/-- Takes the sample of the next endpoint for the point in progress. -/
def record (point : Nat) (endpoint : Endpoint) (sample : Sample) : NotebookM Unit := do
  let series ← inProgressSeries
  if point != series.length then
    refuse (.otherPoint point series.length series.sweep.name)
  let pending := (← get).pending
  match series.endpoints[pending.length]? with
  | none => refuse (.sampleBeyondEndpoints point)
  | some expected =>
    if expected != endpoint.name then
      refuse (.otherEndpoint expected point endpoint.name)
    modify fun notebook => { notebook with pending := pending ++ [sample] }

/-- Commits the point in progress to the log and to the series. -/
def commit : NotebookM Unit := do
  let series ← inProgressSeries
  let pending := (← get).pending
  match series.sweep.points[series.length]? with
  | none => refuse (.noSuchPoint series.sweep.name series.length)
  | some point =>
    if pending.length != series.endpoints.length then
      refuse (.pointIncomplete series.length series.sweep.name pending.length
        series.endpoints.length)
    appendLine (pointLine series.sweep.axis point series.endpoints pending)
    modify fun notebook => { notebook with pending := [] }
    match series.push pending with
    | .ok series => modify fun notebook => { notebook with current := some series }
    | .error fault => throw fault

/-- Takes the sweep in progress away. -/
def takeCurrent : NotebookM Series := do
  let series ← inProgressSeries
  modify fun notebook => { notebook with current := none }
  return series

/-- Closes the log. -/
def closeLog : NotebookM Unit :=
  modify fun notebook => { notebook with logOpen := false }

/-- Ends the sweep in progress. -/
def finish : NotebookM Series := do
  let pending := (← get).pending
  if !pending.isEmpty then refuse (.uncommitted pending.length)
  let series ← takeCurrent
  closeLog
  return series

/-- Ends the sweep in progress early: the point in progress is dropped, and a marker ends the
section. -/
def abort : NotebookM Series := do
  modify fun notebook => { notebook with pending := [] }
  let series ← takeCurrent
  appendLine (abortMarker series.length series.sweep.length)
  closeLog
  return series

end Notebook

end LoadSweep
