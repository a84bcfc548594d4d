import LoadSweep.Proofs.Storage.Files
import LoadSweep.Proofs.Storage.Parents
import LoadSweep.Recording

/-!
# What the actions of a notebook do

Each action either takes a sweep one step further or is refused.  For every action there is one
lemma for the state in which it goes through and one that says that it is refused, without any
change, in every other state.

Only lines reach the log.  An action that goes through adds events to the journal and exactly the
lines among them to the text of the log (`Extends`).  A line that is lost leaves a beginning of
itself at most (`Tears`), and that only where there is some room.  A log that cannot be opened gives
a fault that names it or the directory above it (`LogFault`), and no text has changed.

A notebook is reliable when a line can only be lost while the log is being opened: there is no limit
on the room, and an open log leads to a file.  A notebook has its log when it also leads to a file
while it is closed: then it can be opened, since the directories above it are there
(`HasLog.openLog`).  Whatever goes through keeps a notebook reliable, and keeps its log.
-/

namespace LoadSweep

set_option autoImplicit false

/-- What an event adds to the log. -/
def Event.lineText : Event → String
  | .logged _ line => line ++ "\n"
  | _ => ""

/-- What events add to the log. -/
def Event.written (events : List Event) : String :=
  String.join (events.map Event.lineText)

theorem Event.written_append (earlier later : List Event) :
    Event.written (earlier ++ later) = Event.written earlier ++ Event.written later := by
  simp only [Event.written, List.map_append, String.join_append]

/-- The fault of a log that cannot be used: it names the log, or the directory above it. -/
def LogFault (logPath : String) (fault : Fault) : Prop :=
  ∃ path reason, fault = .storage path reason ∧
    (path = logPath ∨ Path.parent? logPath = some path)

namespace Notebook

/-- The text of the log. -/
def logText (notebook : Notebook) : String :=
  notebook.files.textAt (FileTree.destination notebook.files.home notebook.logPath)

/-- Whoever reads the log finds its text. -/
theorem logText_of_read {notebook : Notebook} {text : String}
    (found : notebook.files.read notebook.logPath = .ok text) : notebook.logText = text :=
  FileTree.textAt_of_read found

/-- Appending to an open log succeeds: there is no limit on the room, and an open log leads to a
file. -/
structure Reliable (notebook : Notebook) : Prop where
  room : notebook.files.room = none
  ready : notebook.logOpen = true →
    ∃ target, notebook.files.openForWriting notebook.logPath = .ok target

/-- There is a file for the log, or a place for one, and no limit on the room. -/
structure HasLog (notebook : Notebook) : Prop where
  room : notebook.files.room = none
  ready : ∃ target, notebook.files.openForWriting notebook.logPath = .ok target

theorem HasLog.reliable {notebook : Notebook} (has : notebook.HasLog) : notebook.Reliable :=
  ⟨has.room, fun _ => has.ready⟩

theorem Reliable.hasLog {notebook : Notebook} (reliable : notebook.Reliable)
    (isOpen : notebook.logOpen = true) : notebook.HasLog :=
  ⟨reliable.room, reliable.ready isOpen⟩

/-- A notebook came from another by events, of which the lines are what the log gained. -/
structure Extends (before : Notebook) (events : List Event) (after : Notebook) : Prop where
  path : after.logPath = before.logPath
  journal : after.journal = events.reverse ++ before.journal
  text : after.logText = before.logText ++ Event.written events
  reliable : before.Reliable → after.Reliable
  hasLog : before.HasLog → after.HasLog

namespace Extends

theorem refl (notebook : Notebook) : notebook.Extends [] notebook :=
  ⟨rfl, rfl, by simp [Event.written], id, id⟩

theorem trans {first second third : Notebook} {earlier later : List Event}
    (one : first.Extends earlier second) (two : second.Extends later third) :
    first.Extends (earlier ++ later) third where
  path := two.path.trans one.path
  journal := by rw [two.journal, one.journal, List.reverse_append, List.append_assoc]
  text := by rw [two.text, one.text, Event.written_append, String.append_assoc]
  reliable := two.reliable ∘ one.reliable
  hasLog := two.hasLog ∘ one.hasLog

/-- Events that write nothing, while the sweep in progress and its samples change in any way and the
log is at most closed. -/
theorem quiet {before after : Notebook} {events : List Event}
    (path : after.logPath = before.logPath) (files : after.files = before.files)
    (journal : after.journal = events.reverse ++ before.journal)
    (opened : after.logOpen = true → before.logOpen = true) (nothing : Event.written events = "") :
    before.Extends events after where
  path := path
  journal := journal
  text := by rw [nothing, String.append_empty, logText, logText, path, files]
  reliable := fun reliable =>
    ⟨files ▸ reliable.room, fun isOpen => files ▸ path ▸ reliable.ready (opened isOpen)⟩
  hasLog := fun has => ⟨files ▸ has.room, files ▸ path ▸ has.ready⟩

/-- The sweep in progress and its samples have no part in the log, and closing it is harmless. -/
theorem update {before after later : Notebook} {events : List Event}
    (extended : before.Extends events after) (path : later.logPath = after.logPath)
    (files : later.files = after.files) (journal : later.journal = after.journal)
    (opened : later.logOpen = true → after.logOpen = true) : before.Extends events later := by
  have last : after.Extends [] later := quiet path files journal opened rfl
  simpa using extended.trans last

/-- The sweep in progress and its samples may also have been others before. -/
theorem forget {notebook after : Notebook} {current : Option Series} {pending : List Sample}
    {events : List Event} (extended : Extends { notebook with current, pending } events after) :
    notebook.Extends events after :=
  ⟨extended.path, extended.journal, extended.text,
    fun reliable => extended.reliable ⟨reliable.room, reliable.ready⟩,
    fun has => extended.hasLog ⟨has.room, has.ready⟩⟩

end Extends

/-- A notebook came from another by events and the loss of a line, of which a part may be left at
the end of the log. -/
structure Tears (before : Notebook) (events : List Event) (torn : String) (after : Notebook) :
    Prop where
  path : after.logPath = before.logPath
  journal : after.journal = events.reverse ++ before.journal
  text : after.logText = before.logText ++ (Event.written events ++ torn)

theorem Extends.tears {first second third : Notebook} {earlier later : List Event} {torn : String}
    (one : first.Extends earlier second) (two : second.Tears later torn third) :
    first.Tears (earlier ++ later) torn third where
  path := two.path.trans one.path
  journal := by rw [two.journal, one.journal, List.reverse_append, List.append_assoc]
  text := by simp only [two.text, one.text, Event.written_append, String.append_assoc]

/-! ## Lines -/

theorem run_refuse {α : Type} (cause : Misalignment) (notebook : Notebook) :
    (refuse cause : NotebookM α).run notebook = .error cause.fault notebook := rfl

theorem run_store (path : String) (change : FileTree → Except StorageError FileTree)
    (left : FileTree → FileTree) (notebook : Notebook) :
    (store path change left).run notebook =
      match change notebook.files with
      | .ok files => .ok () { notebook with files }
      | .error error =>
        .error (.storage path error.text) { notebook with files := left notebook.files } := rfl

/-- The place of the log among the files. -/
abbrev logPlace (notebook : Notebook) : Place :=
  FileTree.destination notebook.files.home notebook.logPath

/-- The file of the log is opened once the directories above it are there. -/
theorem run_openFile (notebook : Notebook) :
    let opening : NotebookM Unit := do
      store notebook.logPath (fun files => files.openForAppending notebook.logPath) id
      modify fun notebook => { notebook with logOpen := true }
    (∃ fault, opening.run notebook = .error fault notebook ∧ LogFault notebook.logPath fault) ∨
      ∃ files, opening.run notebook = .ok () { notebook with files, logOpen := true } ∧
        FileTree.Adds notebook.files files notebook.logPlace "" ∧
        ∃ target, files.openForWriting notebook.logPath = .ok target := by
  simp only [EStateM.run_bind, run_store, EStateM.run_modify]
  cases opened : notebook.files.openForAppending notebook.logPath with
  | error error => exact .inl ⟨_, rfl, notebook.logPath, _, rfl, .inl rfl⟩
  | ok files =>
    obtain ⟨added, ready⟩ := FileTree.openForAppending_inv opened
    exact .inr ⟨files, rfl, added, ready⟩

/-- Opening the log adds nothing to it.  If it fails, only directories may have come into being, and
the fault is one of the log. -/
theorem run_openLog (notebook : Notebook) :
    (∃ fault files, openLog.run notebook = .error fault { notebook with files } ∧
        FileTree.Adds notebook.files files notebook.logPlace "" ∧
        LogFault notebook.logPath fault) ∨
      ∃ files, openLog.run notebook = .ok () { notebook with files, logOpen := true } ∧
        FileTree.Adds notebook.files files notebook.logPlace "" ∧
        ∃ target, files.openForWriting notebook.logPath = .ok target := by
  simp only [openLog, EStateM.run_bind, EStateM.run_get]
  split
  · rename_i parent above
    have isParent : Path.parent? notebook.logPath = some parent :=
      (Option.filter_eq_some_iff.mp above).1
    simp only [EStateM.run_bind, run_store]
    cases ran : notebook.files.makeDirectories parent with
    | error error =>
      exact .inl ⟨_, _, rfl, (FileTree.leftByMaking_spares notebook.files parent).adds _,
        parent, _, rfl, .inr isParent⟩
    | ok made =>
      have added := FileTree.makeDirectories_adds ran notebook.logPlace
      rcases run_openFile { notebook with files := made } with
          ⟨fault, failed, fromLog⟩ | ⟨files, opened, same, ready⟩
      · exact .inl ⟨fault, made, failed, added, fromLog⟩
      · rw [logPlace, added.home] at same
        exact .inr ⟨files, opened, by simpa using added.trans same, ready⟩
  · rcases run_openFile notebook with ⟨fault, failed, fromLog⟩ | opened
    · exact .inl ⟨fault, notebook.files, failed, .refl .., fromLog⟩
    · exact .inr opened

/-- A log that is had can be opened: the directories above it need not be made. -/
theorem HasLog.openLog {notebook : Notebook} (has : notebook.HasLog) :
    ∃ opened, Notebook.openLog.run notebook = .ok () opened := by
  obtain ⟨⟨place, content⟩, found⟩ := has.ready
  have located := (FileTree.openForWriting_inv found).1
  have opened : notebook.files.openForAppending notebook.logPath =
      .ok (notebook.files.put place (.file content)) := by
    simp only [FileTree.openForAppending, found]
  refine ⟨{ notebook with
    files := notebook.files.put place (.file content), logOpen := true }, ?_⟩
  simp only [Notebook.openLog, EStateM.run_bind, EStateM.run_get]
  split
  · rename_i parent above
    obtain ⟨isParent, named⟩ := Option.filter_eq_some_iff.mp above
    have present := FileTree.isDirectory_parent located isParent (by simpa using named)
    simp only [EStateM.run_bind, run_store, FileTree.makeDirectories_of_isDirectory present,
      opened, EStateM.run_modify]
  · simp only [EStateM.run_bind, run_store, opened, EStateM.run_modify]

/-- The notebook after a line has reached its log. -/
abbrev withLine (notebook : Notebook) (line : String) (files : FileTree) : Notebook :=
  { notebook with
    logOpen := true, files, journal := .logged notebook.logPath line :: notebook.journal }

theorem run_appendLine_open {notebook : Notebook} (isOpen : notebook.logOpen = true)
    (line : String) :
    (appendLine line).run notebook =
      match notebook.files.append notebook.logPath (line ++ "\n") with
      | .ok files => .ok () (notebook.withLine line files)
      | .error error => .error (.storage notebook.logPath error.text)
        { notebook with
          files := notebook.files.leftByAppending notebook.logPath (line ++ "\n") } := by
  simp only [appendLine, EStateM.run_bind, EStateM.run_get, isOpen, Bool.not_true,
    Bool.false_eq_true, if_false, run_store, note, EStateM.run_modify, withLine]
  cases notebook.files.append notebook.logPath (line ++ "\n") <;> rfl

theorem run_appendLine_closed {notebook : Notebook} (closed : notebook.logOpen = false)
    (line : String) :
    (appendLine line).run notebook =
      match openLog.run notebook with
      | .ok _ opened => (appendLine line).run opened
      | .error fault failed => .error fault failed := by
  simp only [appendLine, EStateM.run_bind, EStateM.run_get, closed, Bool.not_false, if_true]
  rcases run_openLog notebook with ⟨fault, files, failed, -⟩ | ⟨files, opened, -⟩
  · rw [failed]
  · rw [opened]
    rfl

theorem logText_of_adds {before after : Notebook} {text : String}
    (path : after.logPath = before.logPath)
    (added : FileTree.Adds before.files after.files before.logPlace text) :
    after.logText = before.logText ++ text := by
  rw [logText, path, added.home]
  exact added.here

/-- A line that reached the log is all that was added to it. -/
abbrev LineTaken (notebook : Notebook) (line : String) (files : FileTree) : Prop :=
  notebook.Extends [.logged notebook.logPath line] (notebook.withLine line files)

theorem lineTaken_of_append {notebook : Notebook} {line : String} {files : FileTree}
    (appended : notebook.files.append notebook.logPath (line ++ "\n") = .ok files) :
    notebook.LineTaken line files := by
  obtain ⟨-, -, added, ready⟩ := FileTree.append_inv appended
  have text : (notebook.withLine line files).logText = notebook.logText ++ (line ++ "\n") :=
    logText_of_adds rfl added
  refine ⟨rfl, rfl, ?_, fun reliable => ⟨added.unlimited reliable.room, fun _ => ready⟩,
    fun has => ⟨added.unlimited has.room, ready⟩⟩
  simpa [Event.written, Event.lineText] using text

/-- An open reliable log takes every line. -/
theorem append_of_reliable {notebook : Notebook} (reliable : notebook.Reliable)
    (isOpen : notebook.logOpen = true) (line : String) :
    ∃ files, notebook.files.append notebook.logPath (line ++ "\n") = .ok files :=
  FileTree.append_of_opened reliable.room (reliable.ready isOpen) (line ++ "\n")

theorem appendLine_of_open {notebook : Notebook} (reliable : notebook.Reliable)
    (isOpen : notebook.logOpen = true) (line : String) :
    ∃ files, (appendLine line).run notebook = .ok () (notebook.withLine line files) ∧
      notebook.LineTaken line files := by
  obtain ⟨files, appended⟩ := append_of_reliable reliable isOpen line
  exact ⟨files, by rw [run_appendLine_open isOpen, appended], lineTaken_of_append appended⟩

/-- Opening the log extends nothing. -/
theorem extends_of_opened {notebook : Notebook} {opened : FileTree}
    (added : FileTree.Adds notebook.files opened notebook.logPlace "")
    (ready : ∃ target, opened.openForWriting notebook.logPath = .ok target) :
    notebook.Extends [] { notebook with files := opened, logOpen := true } :=
  ⟨rfl, rfl, logText_of_adds rfl added,
    fun reliable => ⟨added.unlimited reliable.room, fun _ => ready⟩,
    fun has => ⟨added.unlimited has.room, ready⟩⟩

/-- What a lost line can have done: an open log stays open, the line has left a part of itself at
most, and a reliable log was closed and could not be opened. -/
structure LineLost (notebook : Notebook) (line : String) (files : FileTree) (isOpen : Bool) :
    Prop where
  stays : notebook.logOpen = true → isOpen = true
  torn : ∃ part, notebook.files.room.Cuts (line ++ "\n") part ∧
    notebook.Tears [] part { notebook with files, logOpen := isOpen }
  unopened : notebook.Reliable → notebook.logOpen = false ∧ isOpen = false ∧
    notebook.Extends [] { notebook with files, logOpen := isOpen }

/-- The sweep in progress and its samples have no part in what becomes of a line. -/
theorem LineTaken.forget {notebook : Notebook} {current : Option Series} {pending : List Sample}
    {line : String} {files : FileTree}
    (taken : LineTaken { notebook with current, pending } line files) :
    notebook.LineTaken line files :=
  (Extends.forget taken).update rfl rfl rfl fun _ => rfl

theorem LineLost.forget {notebook : Notebook} {current : Option Series} {pending : List Sample}
    {line : String} {files : FileTree} {isOpen : Bool}
    (lost : LineLost { notebook with current, pending } line files isOpen) :
    notebook.LineLost line files isOpen where
  stays := lost.stays
  torn :=
    have ⟨part, cuts, torn⟩ := lost.torn
    ⟨part, cuts, torn.path, torn.journal, torn.text⟩
  unopened := fun reliable =>
    have ⟨closed, unopened, extended⟩ := lost.unopened ⟨reliable.room, reliable.ready⟩
    ⟨closed, unopened, extended.forget.update rfl rfl rfl id⟩

theorem newline_ne_nothing (line : String) : line ++ "\n" ≠ "" := by
  intro nothing
  have length := congrArg String.length nothing
  rw [String.length_append] at length
  exact absurd length (Nat.succ_ne_zero _)

/-- What is left where a line could not be appended to an open log. -/
theorem tears_of_append (notebook : Notebook) {line : String} {error : StorageError}
    (failed : notebook.files.append notebook.logPath (line ++ "\n") = .error error) :
    ∃ part, notebook.files.room.Cuts (line ++ "\n") part ∧
      notebook.Tears [] part { notebook with
        files := notebook.files.leftByAppending notebook.logPath (line ++ "\n") } := by
  obtain ⟨part, cuts, added⟩ :=
    FileTree.leftByAppending_adds failed (newline_ne_nothing line)
  refine ⟨part, cuts, rfl, rfl, ?_⟩
  rw [Event.written, List.map_nil, String.join_nil, String.empty_append]
  exact logText_of_adds rfl added

/-- A line reaches the log, or is lost. -/
theorem run_appendLine (notebook : Notebook) (line : String) :
    (∃ files, (appendLine line).run notebook = .ok () (notebook.withLine line files) ∧
        notebook.LineTaken line files) ∨
      ∃ fault files isOpen,
        (appendLine line).run notebook =
            .error fault { notebook with files, logOpen := isOpen } ∧
          notebook.LineLost line files isOpen := by
  cases state : notebook.logOpen with
  | true =>
    rw [run_appendLine_open state]
    cases appended : notebook.files.append notebook.logPath (line ++ "\n") with
    | ok files => exact .inl ⟨files, rfl, lineTaken_of_append appended⟩
    | error error =>
      obtain ⟨part, cuts, torn⟩ := tears_of_append notebook appended
      refine .inr ⟨_, _, true, by rw [← state], fun _ => rfl,
        ⟨part, cuts, torn.path, torn.journal, torn.text⟩, fun reliable => ?_⟩
      obtain ⟨files, taken⟩ := append_of_reliable reliable state line
      cases appended.symm.trans taken
  | false =>
    rw [run_appendLine_closed state]
    rcases run_openLog notebook with
        ⟨fault, files, failed, added, -⟩ | ⟨opened, succeeded, added, ready⟩
    · rw [failed]
      have same : Notebook.logText { notebook with files, logOpen := false } =
          notebook.logText ++ "" := logText_of_adds rfl added
      refine .inr ⟨fault, files, false, by rw [← state], by simp [state],
        ⟨"", Room.cuts_nothing _ (newline_ne_nothing line), rfl, rfl, same⟩, fun reliable => ?_⟩
      refine ⟨state, rfl, rfl, rfl, same, fun _ => ⟨added.unlimited reliable.room, nofun⟩,
        fun has => ?_⟩
      obtain ⟨opened, succeeded⟩ := has.openLog
      cases failed.symm.trans succeeded
    · rw [succeeded]
      dsimp only
      rw [run_appendLine_open rfl]
      have before := extends_of_opened added ready
      cases appended : opened.append notebook.logPath (line ++ "\n") with
      | ok files => exact .inl ⟨files, rfl, before.trans (lineTaken_of_append appended)⟩
      | error error =>
        obtain ⟨part, cuts, torn⟩ :=
          tears_of_append { notebook with files := opened, logOpen := true } appended
        have room : opened.room = notebook.files.room :=
          added.room.trans (Room.afterTaking_nothing _)
        refine .inr ⟨_, _, true, rfl, fun _ => rfl, ⟨part, room ▸ cuts, before.tears torn⟩,
          fun reliable => ?_⟩
        obtain ⟨files, taken⟩ := append_of_reliable (before.reliable reliable) rfl line
        cases appended.symm.trans taken

/-! ## A sweep in progress -/

theorem run_inProgressSeries {notebook : Notebook} {series : Series}
    (current : notebook.current = some series) :
    inProgressSeries.run notebook = .ok series notebook := by
  simp only [inProgressSeries, EStateM.run_bind, EStateM.run_get, current, EStateM.run_pure]

theorem run_inProgressSeries_idle {notebook : Notebook} (idle : notebook.current = none) :
    inProgressSeries.run notebook = .error Misalignment.nothingOpen.fault notebook := by
  simp only [inProgressSeries, EStateM.run_bind, EStateM.run_get, idle, run_refuse]

theorem run_begin_busy {notebook : Notebook} {series : Series}
    (current : notebook.current = some series) (timestamp : String) (sweep : Sweep)
    (endpoints : List Endpoint) :
    (begin timestamp sweep endpoints).run notebook =
      .error (Misalignment.sweepStillOpen sweep.name series.sweep.name).fault notebook := by
  simp only [begin, EStateM.run_bind, EStateM.run_get, current, run_refuse]

theorem run_begin_idle {notebook : Notebook} (idle : notebook.current = none) (timestamp : String)
    (sweep : Sweep) (endpoints : List Endpoint) :
    (begin timestamp sweep endpoints).run notebook =
      match (appendLine (sectionHeader timestamp sweep.title endpoints)).run notebook with
      | .ok _ logged =>
        .ok () { logged with
          current := some (.start sweep (endpoints.map Endpoint.name)), pending := [] }
      | .error fault failed => .error fault failed := by
  simp only [begin, EStateM.run_bind, EStateM.run_get, idle, EStateM.run_modify]
  cases (appendLine (sectionHeader timestamp sweep.title endpoints)).run notebook <;> rfl

/-- The sample that a sweep in progress waits for. -/
def Awaits (notebook : Notebook) (series : Series) (point : Nat) (endpoint : Endpoint) : Prop :=
  notebook.current = some series ∧ point = series.length ∧
    series.endpoints[notebook.pending.length]? = some endpoint.name

theorem run_record {notebook : Notebook} {series : Series} {point : Nat} {endpoint : Endpoint}
    (awaited : notebook.Awaits series point endpoint) (sample : Sample) :
    (record point endpoint sample).run notebook =
      .ok () { notebook with pending := notebook.pending ++ [sample] } := by
  obtain ⟨current, rfl, expected⟩ := awaited
  simp only [record, EStateM.run_bind, run_inProgressSeries current, bne_self_eq_false,
    Bool.false_eq_true, if_false, EStateM.run_get, expected, EStateM.run_modify]

/-- Any other sample is refused. -/
theorem record_cases (notebook : Notebook) (point : Nat) (endpoint : Endpoint) (sample : Sample) :
    (∃ cause : Misalignment,
        (record point endpoint sample).run notebook = .error cause.fault notebook) ∨
      ∃ series, notebook.Awaits series point endpoint := by
  cases current : notebook.current with
  | none =>
    simp only [record, EStateM.run_bind, run_inProgressSeries_idle current]
    exact .inl ⟨_, rfl⟩
  | some series =>
    simp only [record, EStateM.run_bind, run_inProgressSeries current]
    split
    · exact .inl ⟨_, rfl⟩
    · rename_i position
      simp only [EStateM.run_bind, EStateM.run_get]
      split
      · exact .inl ⟨_, rfl⟩
      · rename_i name expected
        split
        · exact .inl ⟨_, rfl⟩
        · rename_i same
          have named : name = endpoint.name := by simpa using same
          exact .inr ⟨series, current, by simpa using position, named ▸ expected⟩

/-- The point that a sweep in progress has every sample for. -/
def Completes (notebook : Notebook) (series : Series) (point : Point) : Prop :=
  notebook.current = some series ∧ series.sweep.points[series.length]? = some point ∧
    notebook.pending.length = series.endpoints.length

/-- Adding the row cannot fail once its line is written: the checks made before the line was are
at least those of the series. -/
theorem push_of_completes {notebook : Notebook} {series : Series} {point : Point}
    (complete : notebook.Completes series point) :
    series.push notebook.pending =
      .ok { series with rows := series.rows ++ [notebook.pending] } := by
  obtain ⟨-, declared, width⟩ := complete
  have room : series.length < series.sweep.length := (List.getElem?_eq_some_iff.mp declared).1
  rw [Series.push, if_neg (not_not_intro width), if_neg (Nat.not_le.mpr room)]

theorem run_commit {notebook : Notebook} {series : Series} {point : Point}
    (complete : notebook.Completes series point) :
    commit.run notebook =
      match (appendLine (pointLine series.sweep.axis point series.endpoints
          notebook.pending)).run notebook with
      | .ok _ logged =>
        .ok () { logged with
          current := some { series with rows := series.rows ++ [notebook.pending] }
          pending := [] }
      | .error fault failed => .error fault failed := by
  obtain ⟨current, declared, width⟩ := id complete
  simp only [commit, EStateM.run_bind, run_inProgressSeries current, EStateM.run_get, declared,
    width, bne_self_eq_false, Bool.false_eq_true, if_false, EStateM.run_modify,
    push_of_completes complete]
  cases (appendLine (pointLine series.sweep.axis point series.endpoints
    notebook.pending)).run notebook <;> rfl

/-- An incomplete point is refused. -/
theorem commit_cases (notebook : Notebook) :
    (∃ cause : Misalignment, commit.run notebook = .error cause.fault notebook) ∨
      ∃ series point, notebook.Completes series point := by
  cases current : notebook.current with
  | none =>
    simp only [commit, EStateM.run_bind, run_inProgressSeries_idle current]
    exact .inl ⟨_, rfl⟩
  | some series =>
    simp only [commit, EStateM.run_bind, run_inProgressSeries current, EStateM.run_get]
    split
    · exact .inl ⟨_, rfl⟩
    · rename_i point declared
      split
      · exact .inl ⟨_, rfl⟩
      · rename_i width
        exact .inr ⟨series, point, current, declared, by simpa using width⟩

/-! ## The end of a sweep -/

theorem run_takeCurrent {notebook : Notebook} {series : Series}
    (current : notebook.current = some series) :
    takeCurrent.run notebook = .ok series { notebook with current := none } := by
  simp only [takeCurrent, EStateM.run_bind, run_inProgressSeries current, EStateM.run_modify,
    EStateM.run_pure]

theorem run_takeCurrent_idle {notebook : Notebook} (idle : notebook.current = none) :
    takeCurrent.run notebook = .error Misalignment.nothingOpen.fault notebook := by
  simp only [takeCurrent, EStateM.run_bind, run_inProgressSeries_idle idle]

theorem run_finish {notebook : Notebook} {series : Series}
    (current : notebook.current = some series) (committed : notebook.pending = []) :
    finish.run notebook = .ok series { notebook with current := none, logOpen := false } := by
  simp only [finish, EStateM.run_bind, EStateM.run_get, committed, List.isEmpty_nil, Bool.not_true,
    Bool.false_eq_true, if_false, run_takeCurrent current, closeLog, EStateM.run_modify,
    EStateM.run_pure]

/-- A sweep with samples that are not committed, or none at all, cannot be finished. -/
theorem finish_cases (notebook : Notebook) :
    (∃ cause : Misalignment, finish.run notebook = .error cause.fault notebook) ∨
      ∃ series, notebook.current = some series ∧ notebook.pending = [] := by
  simp only [finish, EStateM.run_bind, EStateM.run_get]
  split
  · exact .inl ⟨_, rfl⟩
  · rename_i committed
    cases current : notebook.current with
    | none =>
      simp only [EStateM.run_bind, run_takeCurrent_idle current]
      exact .inl ⟨_, rfl⟩
    | some series => exact .inr ⟨series, rfl, by simpa using committed⟩

/-- What a finished sweep yields was in progress, without pending samples. -/
theorem finish_inv {notebook after : Notebook} {series : Series}
    (finished : finish.run notebook = .ok series after) :
    notebook.current = some series ∧ notebook.pending = [] := by
  rcases notebook.finish_cases with ⟨cause, refused⟩ | ⟨other, current, committed⟩
  · cases refused.symm.trans finished
  · cases (run_finish current committed).symm.trans finished
    exact ⟨current, committed⟩

theorem run_abort {notebook : Notebook} {series : Series}
    (current : notebook.current = some series) :
    abort.run notebook =
      match (appendLine (abortMarker series.length series.sweep.length)).run
          { notebook with pending := [], current := none } with
      | .ok _ logged => .ok series { logged with logOpen := false }
      | .error fault failed => .error fault failed := by
  have taken : takeCurrent.run { notebook with pending := [] } =
      .ok series { notebook with pending := [], current := none } := run_takeCurrent current
  simp only [abort, EStateM.run_bind, EStateM.run_modify, taken, closeLog, EStateM.run_pure]
  cases (appendLine (abortMarker series.length series.sweep.length)).run
    { notebook with pending := [], current := none } <;> rfl

theorem run_abort_idle {notebook : Notebook} (idle : notebook.current = none) :
    abort.run notebook =
      .error Misalignment.nothingOpen.fault { notebook with pending := [] } := by
  have nothing : takeCurrent.run { notebook with pending := [] } =
      .error Misalignment.nothingOpen.fault { notebook with pending := [] } :=
    run_takeCurrent_idle idle
  simp only [abort, EStateM.run_bind, EStateM.run_modify, nothing]

/-- What an interrupted sweep yields was in progress. -/
theorem abort_inv {notebook after : Notebook} {series : Series}
    (aborted : abort.run notebook = .ok series after) : notebook.current = some series := by
  cases current : notebook.current with
  | none => cases (run_abort_idle current).symm.trans aborted
  | some other =>
    rw [run_abort current] at aborted
    split at aborted
    · cases aborted
      rfl
    · cases aborted

end Notebook

end LoadSweep
