import Mathlib.Data.List.Basic
import LoadSweep.Proofs.Storage.Files
import LoadSweep.Report.Artifacts

/-!
# Runs of report steps

Reports are written step by step until a step fails.  A run of steps that ends well has written the
files of its steps and touched no other (`FileTree.perform_ok`).  A run that fails is one that ends
well and a step that fails (`FileTree.perform_error`), and of a failed step only its own file can
show a trace: it is as it was, or torn (`FileTree.left_next`).  So the writing of files breaks off
between two of them or inside one (`FileTree.breaksOff_of_perform`), and however a run ends, no
file is touched but those of its steps (`FileTree.perform_spares`).
-/

namespace LoadSweep

open FileTree

set_option autoImplicit false

/-! ## Files of steps -/

namespace ReportStep

/-- The file that a step writes, with its text. -/
def file? : ReportStep → Option (String × String)
  | .directory _ => none
  | .file path text => some (path, text)

/-- The files that steps write, in order. -/
def files (steps : List ReportStep) : List (String × String) :=
  steps.filterMap file?

/-- What a step leaves that fails. -/
def left (tree : FileTree) : ReportStep → FileTree
  | .directory path => tree.leftByMaking path
  | .file path text => tree.leftByWriting path text

/-- The step fails. -/
def Fails (tree : FileTree) : ReportStep → Prop
  | .directory path => ∃ error, tree.makeDirectories path = .error error
  | .file path text => ∃ error, tree.write path text = .error error

theorem files_append (first second : List ReportStep) :
    files (first ++ second) = files first ++ files second :=
  List.filterMap_append

theorem files_ne_nil {steps : List ReportStep} {path text : String}
    (last : steps.getLast? = some (.file path text)) : files steps ≠ [] :=
  List.ne_nil_of_mem (List.mem_filterMap.mpr
    ⟨_, List.mem_of_getLast? last, show file? _ = some (path, text) from rfl⟩)

end ReportStep

namespace FileTree

/-- The places that the paths of files lead to. -/
def places (home : Place) (files : List (String × String)) : List Place :=
  files.map fun file => destination home file.1

theorem places_append (home : Place) (first second : List (String × String)) :
    places home (first ++ second) = places home first ++ places home second :=
  List.map_append

/-- Files are written: nothing but their places is touched, and each holds its text if no two of
them have one place. -/
structure Writes (before after : FileTree) (files : List (String × String)) : Prop where
  spares : Spares before after (places before.home files)
  held : (places before.home files).Nodup → ∀ file ∈ files, after.read file.1 = .ok file.2

variable {first second third : FileTree}

theorem Writes.nothing (tree : FileTree) : Writes tree tree [] :=
  ⟨.refl _ _, nofun⟩

/-- Files may be written one after the other. -/
theorem Writes.trans {files more : List (String × String)} (one : Writes first second files)
    (two : Writes second third more) : Writes first third (files ++ more) where
  spares := by
    have both := one.spares.trans two.spares
    rwa [one.spares.home, ← places_append] at both
  held := by
    intro distinct
    rw [places_append, List.nodup_append] at distinct
    obtain ⟨earlier, later, apart⟩ := distinct
    have others := two.held (one.spares.home ▸ later)
    refine List.forall_mem_append.mpr ⟨fun file member => ?_, others⟩
    refine two.spares.read ?_ (one.held earlier file member)
    rw [one.spares.home]
    intro again
    exact apart _ (List.mem_map_of_mem member) _ again rfl

/-! ## Single steps -/

/-- A directory that is made writes no file. -/
theorem writes_of_directory {before after : FileTree} {path : String}
    (made : before.makeDirectories path = .ok after) :
    Writes before after (ReportStep.files [.directory path]) :=
  ⟨makeDirectories_spares made, nofun⟩

/-- A file that is written holds its text. -/
theorem writes_of_file {before after : FileTree} {path text : String}
    (written : before.write path text = .ok after) :
    Writes before after (ReportStep.files [.file path text]) :=
  ⟨write_spares written, fun _ => List.forall_mem_singleton.mpr (read_of_write written)⟩

/-- A step goes through, and the steps after it follow, or it fails, and none of them does. -/
theorem perform_cons (before : FileTree) (earlier : List String) (step : ReportStep) :
    (∃ middle, Writes before middle (ReportStep.files [step]) ∧
        ∀ steps, before.perform earlier (step :: steps) =
          middle.perform (earlier ++ (ReportStep.files [step]).map Prod.fst) steps) ∨
      step.Fails before ∧ ∃ fault, ∀ steps,
        before.perform earlier (step :: steps) = ⟨step.left before, .error fault⟩ := by
  cases step with
  | directory path =>
    simp only [perform, ensureReportDirectory]
    cases made : before.makeDirectories path with
    | ok middle =>
      refine .inl ⟨middle, writes_of_directory made, fun steps => ?_⟩
      rw [show (ReportStep.files [.directory path]).map Prod.fst = [] from rfl, List.append_nil]
      rfl
    | error error => exact .inr ⟨⟨error, made⟩, _, fun steps => rfl⟩
  | file path text =>
    simp only [perform, writeReport]
    cases written : before.write path text with
    | ok middle => exact .inl ⟨middle, writes_of_file written, fun steps => rfl⟩
    | error error => exact .inr ⟨⟨error, written⟩, _, fun steps => rfl⟩

/-- A failed step touches no file but its own. -/
theorem left_spares {tree : FileTree} {step : ReportStep} (fails : step.Fails tree) :
    Spares tree (step.left tree) (places tree.home (ReportStep.files [step])) := by
  cases step with
  | directory path => exact leftByMaking_spares tree path
  | file path text =>
    obtain ⟨error, failed⟩ := fails
    exact (leftByWriting_spares failed).1

/-- Of the files that were still to be written, a failed step touches at most the first, and leaves
it as it was or torn. -/
theorem left_next {tree : FileTree} {step : ReportStep} {rest : List ReportStep}
    {next : String × String} {later : List (String × String)} (fails : step.Fails tree)
    (more : ReportStep.files (step :: rest) = next :: later) :
    Spares tree (step.left tree) [destination tree.home next.1] ∧
      ((step.left tree).fileAt? (destination tree.home next.1) =
          tree.fileAt? (destination tree.home next.1) ∨
        ∃ part, Torn next.2 part ∧
          (step.left tree).fileAt? (destination tree.home next.1) = some part) := by
  cases step with
  | directory path =>
    have spares := leftByMaking_spares tree path
    exact ⟨spares.mono nofun, .inl (spares.files _ List.not_mem_nil)⟩
  | file path text =>
    cases more
    obtain ⟨error, failed⟩ := fails
    obtain ⟨spares, same | ⟨part, cuts, held⟩⟩ := leftByWriting_spares failed
    · exact ⟨spares, .inl same⟩
    · exact ⟨spares, .inr ⟨part, cuts.toTorn, held⟩⟩

/-! ## Runs of steps -/

/-- **A run of steps that ends well** names the files that it has written. -/
theorem perform_ok {steps : List ReportStep} {before after : FileTree} {earlier paths : List String}
    (done : before.perform earlier steps = ⟨after, .ok paths⟩) :
    paths = earlier ++ (ReportStep.files steps).map Prod.fst ∧
      Writes before after (ReportStep.files steps) := by
  induction steps generalizing before earlier with
  | nil =>
    cases done
    exact ⟨(List.append_nil _).symm, .nothing _⟩
  | cons step steps ih =>
    rw [← List.singleton_append, ReportStep.files_append]
    rcases before.perform_cons earlier step with ⟨middle, first, onward⟩ | ⟨-, fault, stops⟩
    · rw [onward] at done
      obtain ⟨named, others⟩ := ih done
      refine ⟨?_, first.trans others⟩
      rw [named, List.map_append, List.append_assoc]
    · cases (stops steps).symm.trans done

/-- **A run of steps that fails** is a run that ends well, and then a step that fails. -/
theorem perform_error {steps : List ReportStep} {before after : FileTree} {earlier : List String}
    {fault : Fault} (failed : before.perform earlier steps = ⟨after, .error fault⟩) :
    ∃ done step rest middle paths, steps = done ++ step :: rest ∧
      before.perform earlier done = ⟨middle, .ok paths⟩ ∧ step.Fails middle ∧
      after = step.left middle := by
  induction steps generalizing before earlier with
  | nil => cases failed
  | cons step steps ih =>
    rcases before.perform_cons earlier step with ⟨next, -, onward⟩ | ⟨fails, cause, stops⟩
    · rw [onward] at failed
      obtain ⟨done, last, rest, middle, paths, rfl, ran, ends⟩ := ih failed
      exact ⟨step :: done, last, rest, middle, paths, rfl, (onward done).trans ran, ends⟩
    · cases (stops steps).symm.trans failed
      exact ⟨[], step, steps, before, earlier, rfl, rfl, fails, rfl⟩

/-- However a run of steps ends, it touches no file but those of its steps. -/
theorem perform_spares (before : FileTree) (earlier : List String) (steps : List ReportStep) :
    Spares before (before.perform earlier steps).tree
      (places before.home (ReportStep.files steps)) := by
  rcases ran : before.perform earlier steps with ⟨after, fault | paths⟩
  · obtain ⟨done, step, rest, middle, paths, rfl, ended, fails, rfl⟩ := perform_error ran
    have writes := (perform_ok ended).2
    have both := writes.spares.trans (left_spares fails)
    rw [writes.spares.home, ← places_append, ← ReportStep.files_append] at both
    refine both.mono fun place member => ?_
    rw [← List.singleton_append (l := rest), ← List.append_assoc, ReportStep.files_append,
      places_append]
    exact List.mem_append_left _ member
  · exact (perform_ok ran).2.spares

/-- The writing of files breaks off: some that come first are written, the next file is as it was or
has a beginning of its text, which is not the whole of it, and nothing else is touched. -/
def BreaksOff (before after : FileTree) (files : List (String × String)) : Prop :=
  ∃ done next later, files = done ++ next :: later ∧
    (∀ file ∈ done, after.read file.1 = .ok file.2) ∧
    (after.fileAt? (destination before.home next.1) =
        before.fileAt? (destination before.home next.1) ∨
      ∃ part, Torn next.2 part ∧ after.fileAt? (destination before.home next.1) = some part) ∧
    ∀ place, place ∉ places before.home (done ++ [next]) →
      after.fileAt? place = before.fileAt? place

/-- A failed run of steps, of which the last is a file, breaks off the writing of its files. -/
theorem breaksOff_of_perform {steps : List ReportStep} {before after : FileTree}
    {earlier : List String} {fault : Fault}
    (failed : before.perform earlier steps = ⟨after, .error fault⟩) {path text : String}
    (last : steps.getLast? = some (.file path text))
    (distinct : (places before.home (ReportStep.files steps)).Nodup) :
    BreaksOff before after (ReportStep.files steps) := by
  obtain ⟨done, step, rest, middle, paths, rfl, ran, fails, rfl⟩ := perform_error failed
  -- The last step is the failed one or comes after it, so there is a file that is not written.
  rw [List.getLast?_append_of_ne_nil _ (List.cons_ne_nil _ _)] at last
  obtain ⟨next, later, more⟩ := List.exists_cons_of_ne_nil (ReportStep.files_ne_nil last)
  rw [ReportStep.files_append, more] at distinct ⊢
  have writes := (perform_ok ran).2
  obtain ⟨spares, trace⟩ := left_next fails more
  rw [writes.spares.home] at spares trace
  rw [places_append, List.nodup_append] at distinct
  obtain ⟨earlierDistinct, -, apart⟩ := distinct
  have nextApart : destination before.home next.1 ∉
      places before.home (ReportStep.files done) := by
    intro member
    exact apart _ member _ List.mem_cons_self rfl
  refine ⟨_, next, later, rfl, ?_, ?_, ?_⟩
  · intro file member
    refine spares.read ?_ (writes.held earlierDistinct file member)
    rw [writes.spares.home, List.mem_singleton]
    intro same
    exact nextApart (same ▸ List.mem_map_of_mem member)
  · rwa [writes.spares.files _ nextApart] at trace
  · intro place off
    rw [places_append, List.mem_append, not_or] at off
    exact (spares.files place off.2).trans (writes.spares.files place off.1)

end FileTree

end LoadSweep
