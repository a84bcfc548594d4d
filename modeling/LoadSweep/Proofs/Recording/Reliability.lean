import LoadSweep.Proofs.Recording.Actions

/-!
# Reliable notebooks

An action whose turn it is can fail only by the loss of its line: a complete point is committed, and
a sweep is begun, finished or interrupted (`commit_or_loses`, `begin_cases`, `finish_closes`,
`abort_or_loses`).  A reliable notebook loses no line while its log is open; what can go wrong there
is the opening of the log when a sweep begins.

A notebook is writable when its log takes every line, which is so exactly if it is reliable and its
log is open or can be opened (`writable_iff`).
-/

namespace LoadSweep.Notebook

set_option autoImplicit false

/-! ## Actions whose turn it is -/

/-- Nothing is in progress, and the log is closed. -/
structure Closed (notebook : Notebook) : Prop where
  current : notebook.current = none
  pending : notebook.pending = []
  log : notebook.logOpen = false

/-- The log has lost a line, of which a part may be left.  An open log of a reliable notebook loses
none. -/
structure Loses (before : Notebook) (line torn : String) (after : Notebook) : Prop where
  cuts : before.files.room.Cuts (line ++ "\n") torn
  tears : before.Tears [] torn after
  closed : before.Reliable → before.logOpen = false

theorem LineLost.loses {notebook : Notebook} {line : String} {files : FileTree} {isOpen : Bool}
    (lost : notebook.LineLost line files isOpen) :
    ∃ torn, notebook.Loses line torn { notebook with files, logOpen := isOpen } := by
  obtain ⟨torn, cuts, tears⟩ := lost.torn
  exact ⟨torn, cuts, tears, fun reliable => (lost.unopened reliable).1⟩

/-- A complete point is committed, unless the log loses its line. -/
theorem commit_or_loses {notebook : Notebook} {series : Series} {point : Point}
    (complete : notebook.Completes series point) :
    (∃ next, commit.run notebook = .ok () next ∧
        notebook.Extends
          [.logged notebook.logPath
            (pointLine series.sweep.axis point series.endpoints notebook.pending)] next ∧
        next.current = some { series with rows := series.rows ++ [notebook.pending] } ∧
        next.pending = [] ∧ next.logOpen = true) ∨
      ∃ fault next torn, commit.run notebook = .error fault next ∧
        notebook.Loses (pointLine series.sweep.axis point series.endpoints notebook.pending) torn
          next := by
  have committed := run_commit complete
  rcases notebook.run_appendLine
        (pointLine series.sweep.axis point series.endpoints notebook.pending) with
      ⟨files, written, taken⟩ | ⟨fault, files, isOpen, failed, lost⟩
  · rw [written] at committed
    exact .inl ⟨_, committed, taken.update rfl rfl rfl fun _ => rfl, rfl, rfl, rfl⟩
  · rw [failed] at committed
    obtain ⟨torn, loses⟩ := lost.loses
    exact .inr ⟨fault, _, torn, committed, loses⟩

/-- A sweep without pending samples is finished. -/
theorem finish_closes {notebook : Notebook} {series : Series}
    (current : notebook.current = some series) (committed : notebook.pending = []) :
    ∃ next, finish.run notebook = .ok series next ∧ notebook.Extends [] next ∧ next.Closed :=
  ⟨_, run_finish current committed, .quiet rfl rfl rfl nofun rfl, rfl, committed, rfl⟩

/-- A sweep is interrupted, unless the log loses the marker. -/
theorem abort_or_loses {notebook : Notebook} {series : Series}
    (current : notebook.current = some series) :
    (∃ next, abort.run notebook = .ok series next ∧
        notebook.Extends
          [.logged notebook.logPath (abortMarker series.length series.sweep.length)] next ∧
        next.Closed) ∨
      ∃ fault next torn, abort.run notebook = .error fault next ∧
        notebook.Loses (abortMarker series.length series.sweep.length) torn next := by
  have aborted := run_abort current
  rcases run_appendLine { notebook with pending := [], current := none }
        (abortMarker series.length series.sweep.length) with
      ⟨files, written, taken⟩ | ⟨fault, files, isOpen, failed, lost⟩
  · rw [written] at aborted
    have taken : notebook.LineTaken (abortMarker series.length series.sweep.length) files :=
      LineTaken.forget taken
    exact .inl ⟨_, aborted, taken.update rfl rfl rfl nofun, rfl, rfl, rfl⟩
  · rw [failed] at aborted
    obtain ⟨torn, cuts, tears, closed⟩ := lost.loses
    exact .inr ⟨fault, _, torn, aborted, cuts, ⟨tears.path, tears.journal, tears.text⟩,
      fun reliable => closed ⟨reliable.room, reliable.ready⟩⟩

/-- What a fault in beginning a sweep can have done: a part of the header may be left, but in a
reliable notebook at most directories have come into being. -/
structure Unbegun (notebook : Notebook) (header : String) (files : FileTree) (isOpen : Bool) :
    Prop where
  torn : ∃ part, notebook.files.room.Cuts (header ++ "\n") part ∧
    notebook.Tears [] part { notebook with files, logOpen := isOpen }
  kept : notebook.Reliable → isOpen = notebook.logOpen ∧
    notebook.Extends [] { notebook with files, logOpen := isOpen }

/-- A sweep is begun, unless one is in progress or the log loses the header. -/
theorem begin_cases (notebook : Notebook) (timestamp : String) (sweep : Sweep)
    (endpoints : List Endpoint) :
    (∃ fault files isOpen, (begin timestamp sweep endpoints).run notebook =
          .error fault { notebook with files, logOpen := isOpen } ∧
        notebook.Unbegun (sectionHeader timestamp sweep.title endpoints) files isOpen) ∨
      ∃ next, (begin timestamp sweep endpoints).run notebook = .ok () next ∧
        notebook.Extends
          [.logged notebook.logPath (sectionHeader timestamp sweep.title endpoints)] next ∧
        next.current = some (.start sweep (endpoints.map Endpoint.name)) ∧
        next.pending = [] ∧ next.logOpen = true := by
  rcases Option.eq_none_or_eq_some notebook.current with idle | ⟨series, current⟩
  · have begun := run_begin_idle idle timestamp sweep endpoints
    rcases notebook.run_appendLine (sectionHeader timestamp sweep.title endpoints) with
        ⟨files, written, taken⟩ | ⟨fault, files, isOpen, failed, lost⟩
    · rw [written] at begun
      exact .inr ⟨_, begun, taken.update rfl rfl rfl fun _ => rfl, rfl, rfl, rfl⟩
    · rw [failed] at begun
      refine .inl ⟨fault, files, isOpen, begun, lost.torn, fun reliable => ?_⟩
      obtain ⟨closed, unopened, extended⟩ := lost.unopened reliable
      exact ⟨unopened.trans closed.symm, extended⟩
  · have busy := run_begin_busy current timestamp sweep endpoints
    have same : notebook.Tears [] "" notebook := ⟨rfl, rfl, by simp [Event.written]⟩
    exact .inl ⟨_, notebook.files, notebook.logOpen, busy,
      ⟨"", Room.cuts_nothing _ (newline_ne_nothing _), same⟩, fun _ => ⟨rfl, .refl notebook⟩⟩

/-! ## Writable notebooks -/

/-- The log takes a line. -/
def Takes (notebook : Notebook) (line : String) : Prop :=
  ∃ written, (appendLine line).run notebook = .ok () written

/-- The log can be opened, and takes every line. -/
def Writable (notebook : Notebook) : Prop :=
  ∀ line, notebook.Takes line

/-- The log is open, or can be opened. -/
def Openable (notebook : Notebook) : Prop :=
  notebook.logOpen = true ∨ ∃ opened, openLog.run notebook = .ok () opened

/-- A log that takes a line has room for it, leads to a file if it is open, and can be opened. -/
theorem Takes.openable {notebook : Notebook} {line : String} (takes : notebook.Takes line) :
    notebook.files.room.fits (line ++ "\n") = true ∧
      (notebook.logOpen = true →
        ∃ target, notebook.files.openForWriting notebook.logPath = .ok target) ∧
      notebook.Openable := by
  obtain ⟨written, appended⟩ := takes
  cases state : notebook.logOpen with
  | true =>
    rw [run_appendLine_open state] at appended
    split at appended
    · rename_i files held
      obtain ⟨fits, ready, -⟩ := FileTree.append_inv held
      exact ⟨fits, fun _ => ready, .inl state⟩
    · cases appended
  | false =>
    rw [run_appendLine_closed state] at appended
    rcases notebook.run_openLog with ⟨fault, files, failed, -⟩ | ⟨files, opened, added, -⟩
    · rw [failed] at appended
      cases appended
    · rw [opened] at appended
      dsimp only at appended
      rw [run_appendLine_open rfl] at appended
      split at appended
      · rename_i held
        have room : files.room = notebook.files.room :=
          added.room.trans (Room.afterTaking_nothing _)
        exact ⟨room ▸ (FileTree.append_inv held).1, nofun, .inr ⟨_, opened⟩⟩
      · cases appended

/-- A log that takes a line is that of a reliable notebook, or the room is limited. -/
theorem Takes.reliable_or_limited {notebook : Notebook} {line : String}
    (takes : notebook.Takes line) :
    notebook.Reliable ∨ ∃ free, notebook.files.room = some free ∧ 0 < free := by
  obtain ⟨fits, ready, -⟩ := takes.openable
  rcases Room.limited_of_fits (newline_ne_nothing line) fits with unlimited | limited
  · exact .inl ⟨unlimited, ready⟩
  · exact .inr limited

/-- A sweep is begun by a log that takes its header. -/
theorem takes_of_begin {notebook begun : Notebook} {timestamp : String} {sweep : Sweep}
    {endpoints : List Endpoint}
    (began : (begin timestamp sweep endpoints).run notebook = .ok () begun) :
    notebook.Takes (sectionHeader timestamp sweep.title endpoints) := by
  rcases Option.eq_none_or_eq_some notebook.current with idle | ⟨series, current⟩
  · rw [run_begin_idle idle] at began
    split at began
    · rename_i written
      exact ⟨_, written⟩
    · cases began
  · rw [run_begin_busy current] at began
    cases began

theorem writable_of_openable {notebook : Notebook} (reliable : notebook.Reliable)
    (openable : notebook.Openable) : notebook.Writable := by
  intro line
  cases state : notebook.logOpen with
  | true =>
    obtain ⟨files, taken, -⟩ := appendLine_of_open reliable state line
    exact ⟨_, taken⟩
  | false =>
    rw [Takes, run_appendLine_closed state]
    rcases openable with isOpen | ⟨found, openable⟩
    · cases state.symm.trans isOpen
    rcases notebook.run_openLog with ⟨fault, files, failed, -⟩ | ⟨files, opened, added, ready⟩
    · cases failed.symm.trans openable
    · have kept : Reliable { notebook with files, logOpen := true } :=
        ⟨added.unlimited reliable.room, fun _ => ready⟩
      obtain ⟨later, taken, -⟩ := appendLine_of_open kept rfl line
      rw [opened]
      exact ⟨_, taken⟩

theorem writable_iff {notebook : Notebook} :
    notebook.Writable ↔ notebook.Reliable ∧ notebook.Openable := by
  constructor
  · intro writable
    obtain ⟨-, ready, openable⟩ := (writable "").openable
    exact ⟨⟨Room.eq_none_of_fits fun line => (writable line).openable.1, ready⟩, openable⟩
  · rintro ⟨reliable, openable⟩
    exact writable_of_openable reliable openable

theorem HasLog.writable {notebook : Notebook} (has : notebook.HasLog) : notebook.Writable :=
  writable_of_openable has.reliable (.inr has.openLog)

/-- The journal has no part in opening the log. -/
theorem run_openLog_journal (notebook : Notebook) (journal : List Event) :
    openLog.run { notebook with journal } =
      match openLog.run notebook with
      | .ok value opened => .ok value { opened with journal }
      | .error fault failed => .error fault { failed with journal } := by
  simp only [openLog, EStateM.run_bind, EStateM.run_get]
  split
  · rename_i parent _
    simp only [EStateM.run_bind, run_store, EStateM.run_modify]
    cases notebook.files.makeDirectories parent with
    | error error => rfl
    | ok above =>
      dsimp only
      cases above.openForAppending notebook.logPath <;> rfl
  · simp only [EStateM.run_bind, run_store, EStateM.run_modify]
    cases notebook.files.openForAppending notebook.logPath <;> rfl

theorem Writable.journal {notebook : Notebook} (writable : notebook.Writable)
    (journal : List Event) : Writable { notebook with journal } := by
  obtain ⟨reliable, openable⟩ := writable_iff.mp writable
  refine writable_of_openable ⟨reliable.room, reliable.ready⟩ ?_
  rcases openable with isOpen | ⟨found, opened⟩
  · exact .inl isOpen
  · refine .inr ⟨{ found with journal }, ?_⟩
    rw [run_openLog_journal, opened]

/-- A sweep is begun in an idle notebook whose log takes lines. -/
theorem begin_of_writable {notebook : Notebook} (writable : notebook.Writable)
    (idle : notebook.current = none) (timestamp : String) (sweep : Sweep)
    (endpoints : List Endpoint) :
    ∃ next, (begin timestamp sweep endpoints).run notebook = .ok () next := by
  obtain ⟨written, appended⟩ := writable (sectionHeader timestamp sweep.title endpoints)
  rw [run_begin_idle idle, appended]
  exact ⟨_, rfl⟩

end LoadSweep.Notebook
