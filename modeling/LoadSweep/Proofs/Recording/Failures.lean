import LoadSweep.Proofs.Recording.Intake
import LoadSweep.Proofs.Recording.Reliability

/-!
# Calls that fail

A call fails in one of two ways.  It is refused because it comes out of order; then nothing at all
has changed, although an interruption drops the pending samples before it finds that there is no
sweep.  Or the log cannot be opened or does not take the line; such a fault names the log or the
directory above it (`LogFault`).  Then the sweep in progress and its pending samples are what they
were, unless the sweep was being interrupted, and no row has been added whose line is missing.  What
can be left is a part of the line (`Notebook.LeavesPart`).  So the same point can be committed once
the log takes its line (`Notebook.commit_again`).

The main statement is `failed_call_keeps_sweep`.
-/

namespace LoadSweep

set_option autoImplicit false

open Call (Result)

/-! ## Faults of the log -/

namespace Notebook

variable {notebook failed : Notebook} {fault : Fault}

/-- A line is lost only through the log. -/
theorem logFault_of_appendLine {line : String}
    (lost : (appendLine line).run notebook = .error fault failed) :
    LogFault notebook.logPath fault := by
  cases state : notebook.logOpen with
  | true =>
    rw [run_appendLine_open state] at lost
    split at lost
    · cases lost
    · cases lost
      exact ⟨notebook.logPath, _, rfl, .inl rfl⟩
  | false =>
    rw [run_appendLine_closed state] at lost
    rcases notebook.run_openLog with ⟨_, files, unopened, -, fromLog⟩ | ⟨files, opened, -⟩
    · rw [unopened] at lost
      cases lost
      exact fromLog
    · rw [opened] at lost
      dsimp only at lost
      rw [run_appendLine_open rfl] at lost
      split at lost
      · cases lost
      · cases lost
        exact ⟨notebook.logPath, _, rfl, .inl rfl⟩

/-- In an idle notebook a sweep fails to begin only through the log. -/
theorem logFault_of_begin (idle : notebook.current = none) {timestamp : String} {sweep : Sweep}
    {endpoints : List Endpoint}
    (blocked : (begin timestamp sweep endpoints).run notebook = .error fault failed) :
    LogFault notebook.logPath fault := by
  rw [run_begin_idle idle] at blocked
  split at blocked
  · cases blocked
  · rename_i lost
    cases blocked
    exact logFault_of_appendLine lost

/-- A complete point fails to be committed only through the log. -/
theorem logFault_of_commit {series : Series} {point : Point}
    (complete : notebook.Completes series point)
    (blocked : commit.run notebook = .error fault failed) : LogFault notebook.logPath fault := by
  rw [run_commit complete] at blocked
  split at blocked
  · cases blocked
  · rename_i lost
    cases blocked
    exact logFault_of_appendLine lost

/-- A sweep in progress fails to be interrupted only through the log. -/
theorem logFault_of_abort {series : Series} (current : notebook.current = some series)
    (blocked : abort.run notebook = .error fault failed) : LogFault notebook.logPath fault := by
  rw [run_abort current] at blocked
  split at blocked
  · cases blocked
  · rename_i lost
    cases blocked
    have fault := logFault_of_appendLine lost
    exact fault

end Notebook

/-! ## Refusals -/

/-- A fault of the log is no misalignment. -/
theorem LogFault.ne_misaligned {logPath detail : String} {fault : Fault}
    (lost : LogFault logPath fault) : fault ≠ .misaligned detail := by
  obtain ⟨path, reason, rfl, -⟩ := lost
  exact nofun

/-- An action whose value is only seen in another way fails if it fails at all. -/
theorem failed_of_view {α β : Type} {action : NotebookM α} {view : α → β}
    {before after : Notebook} {fault : Fault}
    (failed : (action >>= fun value => pure (view value)).run before = .error fault after) :
    action.run before = .error fault after := by
  rw [EStateM.run_bind] at failed
  cases ran : action.run before with
  | ok value next =>
    rw [ran] at failed
    cases failed
  | error cause next =>
    rw [ran] at failed
    cases failed
    rfl

/-- A misaligned call on a sound notebook has no effect. -/
theorem Notebook.Sound.misaligned {before after : Notebook} (sound : before.Sound) {call : Call}
    {detail : String} (failed : call.action.run before = .error (.misaligned detail) after) :
    after = before := by
  obtain ⟨lines, reacts⟩ := reaction before call
  rw [failed] at reacts
  cases reacts with
  | refused => rfl
  | unheaded timestamp sweep endpoints _ files isOpen idle =>
    exact absurd rfl (Notebook.logFault_of_begin idle (failed_of_view failed)).ne_misaligned
  | unwritten series point _ files isOpen complete =>
    exact absurd rfl (Notebook.logFault_of_commit complete (failed_of_view failed)).ne_misaligned
  | unmarked series _ files isOpen current =>
    exact absurd rfl (Notebook.logFault_of_abort current (failed_of_view failed)).ne_misaligned
  | nothingToAbort _ idle =>
    -- The samples that were dropped were none, since nothing was in progress.
    have nothing : before.pending = [] := sound.idle idle
    rw [← nothing]

/-! ## Lost lines -/

/-- The line that a call writes, if it is its turn: the header of a section, the line of the point
in progress, or the marker of an interruption. -/
def Call.line? (notebook : Notebook) : Call → Option String
  | begin timestamp sweep endpoints => some (sectionHeader timestamp sweep.title endpoints)
  | commit => notebook.current.bind fun series =>
    series.sweep.points[series.length]?.map fun point =>
      pointLine series.sweep.axis point series.endpoints notebook.pending
  | abort => notebook.current.map fun series => abortMarker series.length series.sweep.length
  | _ => none

namespace Notebook

/-- What a call that fails leaves of the line that it would have written: nothing, or a part of it
where there was some room. -/
structure LeavesPart (before : Notebook) (call : Call) (part : String) (after : Notebook) :
    Prop where
  tears : before.Tears [] part after
  cut : part ≠ "" → ∃ line, call.line? before = some line ∧
    before.files.room.Cuts (line ++ "\n") part

theorem leavesPart_nothing (notebook : Notebook) (call : Call) :
    notebook.LeavesPart call "" notebook :=
  ⟨⟨rfl, rfl, by simp [Event.written]⟩, absurd rfl⟩

theorem LineLost.leavesPart {before : Notebook} {call : Call} {line : String} {files : FileTree}
    {isOpen : Bool} (lost : before.LineLost line files isOpen)
    (writes : call.line? before = some line) :
    ∃ part, before.LeavesPart call part { before with files, logOpen := isOpen } := by
  obtain ⟨part, cuts, tears⟩ := lost.torn
  exact ⟨part, tears, fun _ => ⟨line, writes, cuts⟩⟩

end Notebook

/-- A call that fails, but for an interruption, keeps the sweep in progress and its pending samples,
and leaves a part of its line at most. -/
theorem kept_of_failed {before after : Notebook} {call : Call} {fault : Fault}
    (ordinary : call ≠ .abort) (failed : call.action.run before = .error fault after) :
    after.current = before.current ∧ after.pending = before.pending ∧
      ∃ part, before.LeavesPart call part after := by
  obtain ⟨lines, reacts⟩ := reaction before call
  rw [failed] at reacts
  cases reacts with
  | refused => exact ⟨rfl, rfl, "", before.leavesPart_nothing call⟩
  | unheaded _ _ _ _ _ _ _ lost => exact ⟨rfl, rfl, lost.leavesPart rfl⟩
  | unwritten series point _ _ _ complete lost =>
    obtain ⟨current, declared, -⟩ := complete
    refine ⟨rfl, rfl, lost.leavesPart ?_⟩
    rw [Call.line?, current, Option.bind_some, declared, Option.map_some]
  | unmarked => exact absurd rfl ordinary
  | nothingToAbort => exact absurd rfl ordinary

namespace Notebook

/-- A point whose line was lost has every sample. -/
theorem completes_of_lost {before after : Notebook} {path reason : String}
    (failed : commit.run before = .error (.storage path reason) after) :
    ∃ series point, before.Completes series point := by
  rcases before.commit_cases with ⟨cause, refused⟩ | complete
  · rw [refused] at failed
    cases failed
  · exact complete

/-- A point with every sample is committed in any notebook whose log takes its line. -/
theorem commit_again {notebook : Notebook} {series : Series} {point : Point}
    (complete : notebook.Completes series point)
    (takes : notebook.Takes
      (pointLine series.sweep.axis point series.endpoints notebook.pending)) :
    ∃ next, commit.run notebook = .ok () next ∧
      next.current = some { series with rows := series.rows ++ [notebook.pending] } ∧
      next.pending = [] ∧
      next.logText = notebook.logText ++
        (pointLine series.sweep.axis point series.endpoints notebook.pending ++ "\n") := by
  obtain ⟨written, appended⟩ := takes
  rcases commit_or_loses complete with
      ⟨next, committed, extended, current, pending, -⟩ | ⟨fault, failed, torn, lost, -⟩
  · refine ⟨next, committed, current, pending, extended.text.trans ?_⟩
    simp [Event.written, Event.lineText]
  · rw [run_commit complete, appended] at lost
    cases lost

end Notebook

/-- **A failed call keeps the sweep in progress.** In a notebook that any turns of a session have
left, with changes of the files from elsewhere among them: a call that is refused because it comes
out of order has no effect whatever.  A call other than an interruption that fails through the log
keeps the sweep in progress and the pending samples.  Of its line it leaves a part at most, and only
where there was some room: the text of the log is what it was, and that part.  If the call was a
commit, the same point is committed, with its line, as soon as the files let the log take the
line. -/
theorem failed_call_keeps_sweep (logPath : String) (files : FileTree) (turns : List Turn)
    (call : Call) (fault : Fault) (after : Notebook) :
    let before := ((Session.fresh logPath files).run turns).notebook
    call.action.run before = .error fault after →
      (∀ detail, fault = .misaligned detail → after = before) ∧
      ∀ path reason, fault = .storage path reason → call ≠ .abort →
        after.current = before.current ∧ after.pending = before.pending ∧
        (∃ part, after.logText = before.logText ++ part ∧
          (part ≠ "" → ∃ line, call.line? before = some line ∧
            before.files.room.Cuts (line ++ "\n") part)) ∧
        after.journal = before.journal ∧
        (call = .commit → ∃ series point, before.Completes series point ∧
          ∀ files, Notebook.Takes { after with files }
              (pointLine series.sweep.axis point series.endpoints before.pending) →
            ∃ next, Notebook.commit.run { after with files } = .ok () next ∧
              next.current = some { series with rows := series.rows ++ [before.pending] } ∧
              next.pending = [] ∧
              next.logText = Notebook.logText { after with files } ++
                (pointLine series.sweep.axis point series.endpoints before.pending ++ "\n")) := by
  intro before failed
  have sound : before.Sound :=
    ((Session.kept_fresh logPath files).run turns).sound
  constructor
  · rintro detail rfl
    exact sound.misaligned failed
  · rintro path reason rfl ordinary
    obtain ⟨current, pending, part, leaves⟩ := kept_of_failed ordinary failed
    have text : after.logText = before.logText ++ part := by
      rw [leaves.tears.text, Event.written, List.map_nil, String.join_nil, String.empty_append]
    refine ⟨current, pending, ⟨part, text, leaves.cut⟩, leaves.tears.journal, ?_⟩
    rintro rfl
    obtain ⟨series, point, complete⟩ := Notebook.completes_of_lost (failed_of_view failed)
    refine ⟨series, point, complete, fun files takes => ?_⟩
    obtain ⟨busy, declared, width⟩ := complete
    have still : Notebook.Completes { after with files } series point :=
      ⟨current.trans busy, declared, pending.symm ▸ width⟩
    rw [← pending] at takes
    obtain ⟨next, committed, row, emptied, written⟩ := Notebook.commit_again still takes
    exact ⟨next, committed, row.trans (by rw [pending]), emptied, written.trans (by rw [pending])⟩

/-- The one sample of a point is taken, and then there is room for five bytes only. -/
def crowdedOut : List Turn :=
  let endpoint : Endpoint := ⟨"redis", "127.0.0.1", 6378⟩
  let sweep : Sweep := ⟨"get", "GET sweep", .get, .clients, [⟨1, 1, 10⟩]⟩
  [.call (.begin "12:00" sweep [endpoint]), .call (.record 0 endpoint .empty),
    .elsewhere { FileTree.empty with room := some 5 }]

/-- The sweep cannot be finished, which changes nothing; its point cannot be committed and leaves
five bytes of its line, but is kept and committed once there is room. -/
theorem crowdedOut_commits_later :
    let before := ((Session.fresh "log.txt" .empty).run crowdedOut).notebook
    (∃ detail, Call.finish.action.run before = .error (.misaligned detail) before) ∧
      ∃ path reason after,
        Call.commit.action.run before = .error (.storage path reason) after ∧
          after.pending.length = 1 ∧ after.logText = "Clien" ∧
          ∃ next, Notebook.commit.run { after with files := .empty } = .ok () next ∧
            next.current.map (fun series => series.rows.getLast?) = some (some before.pending) := by
  intro before
  have early : (match Call.finish.action.run before with
      | .error (.misaligned _) _ => true
      | _ => false) = true := by
    decide +kernel
  have blocked : (match Call.commit.action.run before with
      | .error (.storage ..) after =>
        after.logPath == "log.txt" && after.logOpen && after.logText == "Clien"
      | _ => false) = true := by
    decide +kernel
  have one : before.pending.length = 1 := by decide +kernel
  constructor
  · split at early
    · rename_i detail after failed
      have same : after = before :=
        (failed_call_keeps_sweep "log.txt" .empty crowdedOut .finish _ after failed).1 detail rfl
      exact ⟨detail, same ▸ failed⟩
    · cases early
  · split at blocked
    · rename_i path reason after failed
      obtain ⟨⟨named, isOpen⟩, torn⟩ := by simpa using blocked
      obtain ⟨current, pending, -, -, later⟩ :=
        (failed_call_keeps_sweep "log.txt" .empty crowdedOut .commit _ after failed).2 path reason
          rfl nofun
      obtain ⟨series, point, -, again⟩ := later rfl
      have place : ∃ target, FileTree.empty.openForWriting after.logPath = .ok target :=
        ⟨(["log.txt".toList], ""), by rw [named]; rfl⟩
      have writable : Notebook.Writable { after with files := .empty } :=
        Notebook.writable_of_openable ⟨rfl, fun _ => place⟩ (.inl isOpen)
      obtain ⟨next, committed, row, -, -⟩ := again .empty (writable _)
      refine ⟨path, reason, after, failed, by rw [pending, one], torn, next, committed, ?_⟩
      rw [row, Option.map_some, List.getLast?_concat]
    · cases blocked

end LoadSweep
