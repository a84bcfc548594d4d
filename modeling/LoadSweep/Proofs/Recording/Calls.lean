import LoadSweep.Proofs.Recording.Actions
import LoadSweep.Proofs.Series.Alignment

/-!
# Calls on a notebook

A call is an action with its arguments, in any order and with any arguments; a sixth one takes a new
notebook for the same log.  `Reaction` lists everything that a call can lead to, refusals included,
with the lines that it adds to the log, and `reaction` says that the list is complete; whatever is
preserved by each of its cases is preserved by every sequence of calls.

The invariant is `Sound`: a sweep in progress is aligned, at most one sample for each endpoint is
pending, and the log is open; without a sweep nothing is pending.  With it, a reliable notebook
loses no line of a sweep in progress, so its log grows by the lines of each reaction
(`Reaction.text`).
-/

namespace LoadSweep

set_option autoImplicit false

/-- An action on a notebook with its arguments. -/
inductive Call where
  | begin (timestamp : String) (sweep : Sweep) (endpoints : List Endpoint)
  | record (point : Nat) (endpoint : Endpoint) (sample : Sample)
  | commit
  | finish
  | abort
  /-- Takes a new notebook for the same log. -/
  | renew

namespace Call

/-- What a call does; the end of a sweep yields its series. -/
def action : Call → NotebookM (Option Series)
  | begin timestamp sweep endpoints => do
    Notebook.begin timestamp sweep endpoints
    return none
  | record point endpoint sample => do
    Notebook.record point endpoint sample
    return none
  | commit => do
    Notebook.commit
    return none
  | finish => return some (← Notebook.finish)
  | abort => return some (← Notebook.abort)
  | renew => do
    modify Notebook.renew
    return none

/-- How a call ends. -/
abbrev Result := EStateM.Result Fault Notebook (Option Series)

/-- The notebook that a call leaves. -/
def Result.notebook : Result → Notebook
  | .ok _ notebook => notebook
  | .error _ notebook => notebook

/-- Whether a call went through. -/
def Result.succeeded : Result → Bool
  | .ok .. => true
  | .error .. => false

end Call

open Call (Result)

/-- What a call on a notebook can lead to, with the lines that it adds to the log. -/
inductive Reaction (before : Notebook) : Call → List String → Result → Prop where
  /-- A call out of order changes nothing. -/
  | refused (call : Call) (fault : Fault) (ordinary : call ≠ .abort ∧ call ≠ .renew) :
      Reaction before call [] (.error fault before)
  /-- The header of a section is lost. -/
  | unheaded (timestamp : String) (sweep : Sweep) (endpoints : List Endpoint) (fault : Fault)
      (files : FileTree) (isOpen : Bool) (idle : before.current = none)
      (lost : before.LineLost (sectionHeader timestamp sweep.title endpoints) files isOpen) :
      Reaction before (.begin timestamp sweep endpoints) []
        (.error fault { before with files, logOpen := isOpen })
  | begun (timestamp : String) (sweep : Sweep) (endpoints : List Endpoint) (files : FileTree)
      (idle : before.current = none)
      (taken : before.LineTaken (sectionHeader timestamp sweep.title endpoints) files) :
      Reaction before (.begin timestamp sweep endpoints)
        [sectionHeader timestamp sweep.title endpoints]
        (.ok none { before.withLine (sectionHeader timestamp sweep.title endpoints) files with
          current := some (.start sweep (endpoints.map Endpoint.name)), pending := [] })
  | recorded (point : Nat) (endpoint : Endpoint) (sample : Sample) (series : Series)
      (awaited : before.Awaits series point endpoint) :
      Reaction before (.record point endpoint sample) []
        (.ok none { before with pending := before.pending ++ [sample] })
  /-- The line of a point is lost, and the point stays pending. -/
  | unwritten (series : Series) (point : Point) (fault : Fault) (files : FileTree) (isOpen : Bool)
      (complete : before.Completes series point)
      (lost : before.LineLost
        (pointLine series.sweep.axis point series.endpoints before.pending) files isOpen) :
      Reaction before .commit [] (.error fault { before with files, logOpen := isOpen })
  | committed (series : Series) (point : Point) (files : FileTree)
      (complete : before.Completes series point)
      (taken : before.LineTaken
        (pointLine series.sweep.axis point series.endpoints before.pending) files) :
      Reaction before .commit
        [pointLine series.sweep.axis point series.endpoints before.pending]
        (.ok none
          { before.withLine
              (pointLine series.sweep.axis point series.endpoints before.pending) files with
            current := some { series with rows := series.rows ++ [before.pending] }
            pending := [] })
  | finished (series : Series) (current : before.current = some series)
      (complete : before.pending = []) :
      Reaction before .finish []
        (.ok (some series) { before with current := none, logOpen := false })
  /-- The marker of an interrupted sweep is lost, and the sweep with it. -/
  | unmarked (series : Series) (fault : Fault) (files : FileTree) (isOpen : Bool)
      (current : before.current = some series)
      (lost : before.LineLost (abortMarker series.length series.sweep.length) files isOpen) :
      Reaction before .abort []
        (.error fault { before with files, logOpen := isOpen, current := none, pending := [] })
  | aborted (series : Series) (files : FileTree) (current : before.current = some series)
      (taken : before.LineTaken (abortMarker series.length series.sweep.length) files) :
      Reaction before .abort [abortMarker series.length series.sweep.length]
        (.ok (some series)
          { before.withLine (abortMarker series.length series.sweep.length) files with
            logOpen := false, current := none, pending := [] })
  | nothingToAbort (fault : Fault) (idle : before.current = none) :
      Reaction before .abort [] (.error fault { before with pending := [] })
  | renewed : Reaction before .renew [] (.ok none before.renew)

namespace Reaction

theorem of_begin (before : Notebook) (timestamp : String) (sweep : Sweep)
    (endpoints : List Endpoint) :
    ∃ lines, Reaction before (.begin timestamp sweep endpoints) lines
      ((Call.begin timestamp sweep endpoints).action.run before) := by
  simp only [Call.action, EStateM.run_bind, EStateM.run_pure]
  cases state : before.current with
  | some series =>
    rw [Notebook.run_begin_busy state]
    exact ⟨_, .refused _ _ ⟨nofun, nofun⟩⟩
  | none =>
    rw [Notebook.run_begin_idle state]
    rcases before.run_appendLine (sectionHeader timestamp sweep.title endpoints) with
        ⟨files, written, taken⟩ | ⟨fault, files, isOpen, failed, lost⟩
    · rw [written]
      exact ⟨_, .begun timestamp sweep endpoints files state taken⟩
    · rw [failed]
      exact ⟨_, .unheaded timestamp sweep endpoints fault files isOpen state lost⟩

theorem of_record (before : Notebook) (point : Nat) (endpoint : Endpoint) (sample : Sample) :
    ∃ lines, Reaction before (.record point endpoint sample) lines
      ((Call.record point endpoint sample).action.run before) := by
  simp only [Call.action, EStateM.run_bind, EStateM.run_pure]
  rcases before.record_cases point endpoint sample with ⟨cause, refused⟩ | ⟨series, awaited⟩
  · rw [refused]
    exact ⟨_, .refused _ _ ⟨nofun, nofun⟩⟩
  · rw [Notebook.run_record awaited]
    exact ⟨_, .recorded point endpoint sample series awaited⟩

theorem of_commit (before : Notebook) :
    ∃ lines, Reaction before .commit lines (Call.commit.action.run before) := by
  simp only [Call.action, EStateM.run_bind, EStateM.run_pure]
  rcases before.commit_cases with ⟨cause, refused⟩ | ⟨series, point, complete⟩
  · rw [refused]
    exact ⟨_, .refused _ _ ⟨nofun, nofun⟩⟩
  · rw [Notebook.run_commit complete]
    rcases before.run_appendLine
          (pointLine series.sweep.axis point series.endpoints before.pending) with
        ⟨files, written, taken⟩ | ⟨fault, files, isOpen, failed, lost⟩
    · rw [written]
      exact ⟨_, .committed series point files complete taken⟩
    · rw [failed]
      exact ⟨_, .unwritten series point fault files isOpen complete lost⟩

theorem of_finish (before : Notebook) :
    ∃ lines, Reaction before .finish lines (Call.finish.action.run before) := by
  simp only [Call.action, EStateM.run_bind, EStateM.run_pure]
  rcases before.finish_cases with ⟨cause, refused⟩ | ⟨series, current, complete⟩
  · rw [refused]
    exact ⟨_, .refused _ _ ⟨nofun, nofun⟩⟩
  · rw [Notebook.run_finish current complete]
    exact ⟨_, .finished series current complete⟩

theorem of_abort (before : Notebook) :
    ∃ lines, Reaction before .abort lines (Call.abort.action.run before) := by
  simp only [Call.action, EStateM.run_bind, EStateM.run_pure]
  cases state : before.current with
  | none =>
    rw [Notebook.run_abort_idle state]
    exact ⟨_, .nothingToAbort _ state⟩
  | some series =>
    rw [Notebook.run_abort state]
    rcases Notebook.run_appendLine { before with pending := [], current := none }
          (abortMarker series.length series.sweep.length) with
        ⟨files, written, taken⟩ | ⟨fault, files, isOpen, failed, lost⟩
    · rw [written]
      exact ⟨_, .aborted series files state (Notebook.LineTaken.forget taken)⟩
    · rw [failed]
      exact ⟨_, .unmarked series fault files isOpen state lost.forget⟩

end Reaction

/-- A call leads to one of the listed outcomes. -/
theorem reaction (before : Notebook) (call : Call) :
    ∃ lines, Reaction before call lines (call.action.run before) := by
  cases call with
  | begin timestamp sweep endpoints => exact Reaction.of_begin before timestamp sweep endpoints
  | record point endpoint sample => exact Reaction.of_record before point endpoint sample
  | commit => exact Reaction.of_commit before
  | finish => exact Reaction.of_finish before
  | abort => exact Reaction.of_abort before
  | renew => exact ⟨_, .renewed⟩

/-! ## Soundness -/

namespace Notebook

/-- What holds of a notebook between calls, however they ended. -/
structure Sound (notebook : Notebook) : Prop where
  idle : notebook.current = none → notebook.pending = []
  aligned : ∀ series, notebook.current = some series → series.Aligned
  pending : ∀ series, notebook.current = some series →
    notebook.pending.length ≤ series.endpoints.length
  opened : ∀ series, notebook.current = some series → notebook.logOpen = true

/-- A notebook with nothing in progress and nothing pending is sound. -/
theorem Sound.of_idle {notebook : Notebook} (idle : notebook.current = none)
    (nothing : notebook.pending = []) : notebook.Sound :=
  ⟨fun _ => nothing, by simp [idle], by simp [idle], by simp [idle]⟩

/-- The only sweep in progress is a given one. -/
theorem Sound.of_busy {notebook : Notebook} {series : Series}
    (current : notebook.current = some series) (aligned : series.Aligned)
    (pending : notebook.pending.length ≤ series.endpoints.length)
    (opened : notebook.logOpen = true) : notebook.Sound where
  idle := by simp [current]
  aligned := by
    rintro _ same
    cases current.symm.trans same
    exact aligned
  pending := by
    rintro _ same
    cases current.symm.trans same
    exact pending
  opened := fun _ _ => opened

theorem sound_fresh (logPath : String) (files : FileTree) : (fresh logPath files).Sound :=
  .of_idle rfl rfl

/-- A lost line leaves a sound notebook. -/
theorem Sound.of_lost {notebook : Notebook} (sound : notebook.Sound) {line : String}
    {files : FileTree} {isOpen : Bool} (lost : notebook.LineLost line files isOpen) :
    Sound { notebook with files, logOpen := isOpen } where
  idle := sound.idle
  aligned := sound.aligned
  pending := sound.pending
  opened := fun series current => lost.stays (sound.opened series current)

end Notebook

/-- No call, whether it goes through or not, leaves an unsound notebook. -/
theorem Reaction.sound {before : Notebook} {call : Call} {lines : List String} {result : Result}
    (reaction : Reaction before call lines result) (sound : before.Sound) :
    result.notebook.Sound := by
  cases reaction with
  | refused => exact sound
  | unheaded _ _ _ _ _ _ _ lost => exact sound.of_lost lost
  | begun timestamp sweep endpoints files =>
    exact .of_busy rfl (Series.aligned_start ..) (Nat.zero_le _) rfl
  | recorded point endpoint sample series awaited =>
    obtain ⟨current, -, expected⟩ := awaited
    have room : before.pending.length < series.endpoints.length :=
      (List.getElem?_eq_some_iff.mp expected).1
    refine .of_busy current (sound.aligned series current) ?_ (sound.opened series current)
    simp only [Result.notebook, List.length_append, List.length_singleton]
    exact room
  | unwritten _ _ _ _ _ _ lost => exact sound.of_lost lost
  | committed series point files complete =>
    obtain ⟨current, declared, width⟩ := complete
    have room : series.length < series.sweep.length := (List.getElem?_eq_some_iff.mp declared).1
    exact .of_busy rfl ((sound.aligned series current).append room width) (Nat.zero_le _) rfl
  | finished series _ complete => exact .of_idle rfl complete
  | unmarked => exact .of_idle rfl rfl
  | aborted => exact .of_idle rfl rfl
  | nothingToAbort _ idle => exact .of_idle idle rfl
  | renewed => exact .of_idle rfl rfl

/-! ## The log -/

/-- A call that fails writes nothing. -/
theorem Reaction.lines_of_failed {before after : Notebook} {call : Call} {lines : List String}
    {fault : Fault} (reaction : Reaction before call lines (.error fault after)) : lines = [] := by
  cases reaction <;> rfl

/-- In a sound and reliable notebook the line of a point, or of an interruption, is never lost. -/
theorem Notebook.Sound.not_lost {notebook : Notebook} (sound : notebook.Sound)
    (reliable : notebook.Reliable) {series : Series} (current : notebook.current = some series)
    {line : String} {files : FileTree} {isOpen : Bool} :
    ¬ notebook.LineLost line files isOpen := by
  intro lost
  have closed := (lost.unopened reliable).1
  rw [sound.opened series current] at closed
  cases closed

/-- The lines of a reaction are what a sound and reliable notebook adds to its log. -/
theorem Reaction.extends {before : Notebook} {call : Call} {lines : List String} {result : Result}
    (reaction : Reaction before call lines result) (sound : before.Sound)
    (reliable : before.Reliable) :
    before.Extends (lines.map (.logged before.logPath)) result.notebook := by
  cases reaction with
  | refused => exact .refl before
  | unheaded _ _ _ _ _ _ _ lost => exact (lost.unopened reliable).2.2
  | begun _ _ _ _ _ taken => exact taken.update rfl rfl rfl fun _ => rfl
  | recorded => exact (Notebook.Extends.refl before).update rfl rfl rfl id
  | unwritten _ _ _ _ _ complete lost => exact absurd lost (sound.not_lost reliable complete.1)
  | committed _ _ _ _ taken => exact taken.update rfl rfl rfl fun _ => rfl
  | finished => exact (Notebook.Extends.refl before).update rfl rfl rfl nofun
  | unmarked _ _ _ _ current lost => exact absurd lost (sound.not_lost reliable current)
  | aborted _ _ _ taken => exact taken.update rfl rfl rfl nofun
  | nothingToAbort => exact (Notebook.Extends.refl before).update rfl rfl rfl id
  | renewed => exact (Notebook.Extends.refl before).update rfl rfl rfl nofun

/-- The text of the log grows by the lines of a reaction. -/
theorem Reaction.text {before : Notebook} {call : Call} {lines : List String} {result : Result}
    (reaction : Reaction before call lines result) (sound : before.Sound)
    (reliable : before.Reliable) :
    result.notebook.logText = before.logText ++ String.join (lines.map (· ++ "\n")) := by
  rw [(reaction.extends sound reliable).text, Event.written, List.map_map]
  rfl

namespace Notebook

/-- A notebook that comes about in a tree with all the room it needs: by calls, and by notes of what
else is done. -/
inductive Reached : Notebook → Prop where
  | fresh (logPath : String) (files : FileTree) (room : files.room = none) :
      Reached (fresh logPath files)
  | call {before : Notebook} (reached : Reached before) (call : Call) :
      Reached (Result.notebook (call.action.run before))
  | note {before : Notebook} (reached : Reached before) (event : Event) :
      Reached { before with journal := event :: before.journal }

/-- Every notebook that comes about is sound, and appending to its open log succeeds. -/
theorem Reached.reliable {notebook : Notebook} (reached : notebook.Reached) :
    notebook.Sound ∧ notebook.Reliable := by
  induction reached with
  | fresh logPath files room => exact ⟨sound_fresh logPath files, room, nofun⟩
  | @call before _ call ih =>
    obtain ⟨sound, reliable⟩ := ih
    obtain ⟨lines, reacts⟩ := reaction before call
    exact ⟨reacts.sound sound, (reacts.extends sound reliable).reliable reliable⟩
  | note _ _ ih =>
    obtain ⟨sound, reliable⟩ := ih
    exact ⟨⟨sound.idle, sound.aligned, sound.pending, sound.opened⟩, reliable.room, reliable.ready⟩

end Notebook

end LoadSweep
