import LoadSweep.Proofs.Report.Artifacts
import LoadSweep.Settings

/-!
# Reports and the report directory

Reports are meant to stay below the report directory.  The name of a sweep is joined to it as it
stands, though, and what a declaration asks of a name is only that it is not blank; so a name may
hold slashes and lead anywhere (`valid_sweep_leaves_report_directory`).

Which names stay inside does not depend on the kind of file or on the directory.  The files of a
sweep lie below every report directory if its name is confined (`Series.below_reportDirectory`); if
it is not, each of them leads out of some report directory (`Series.exists_left_reportDirectory`).
Names without slashes are confined (`Path.confined_of_slashless`).
-/

namespace LoadSweep

open FileTree

set_option autoImplicit false

namespace Series

variable {series : Series}

/-- The files of a sweep with a confined name lie below the report directory. -/
theorem below_reportDirectory (confined : Path.Confined series.sweep.name)
    (output : OutputSettings) (kind : ReportKind) (home : Place) :
    Below (destination home output.reportDirectory)
      (destination home (series.reportPath output kind)) :=
  below_of_confined confined kind.slashless_ending kind.long_ending
    (destination_join_name home output.reportDirectory kind.plain_directory)

/-- The files of a sweep with any other name lead out of some report directory. -/
theorem exists_left_reportDirectory (free : ¬ Path.Confined series.sweep.name)
    (output : OutputSettings) (kind : ReportKind) :
    ∃ directory : String, ∀ home, ¬ Below (destination home directory)
      (destination home (series.reportPath { output with reportDirectory := directory } kind)) :=
  exists_left_of_not_confined free kind.slashless_ending kind.long_ending kind.plain_directory

end Series

/-- **Reports of a sweep with a confined name stay inside.**  However the writing of reports ends,
it touches no file but those of the series.  These lie below the report directory if the name of the
sweep is confined; otherwise a file of any kind leads out of some report directory, wherever paths
start. -/
theorem reports_with_confined_name_stay_inside {series : Series} {output : OutputSettings}
    {timestamp : String} {before : FileTree} {written : Written}
    (ran : series.writeReports? output timestamp before = some written) :
    ∃ files, series.Reports output timestamp files ∧
      (∀ place, place ∉ places before.home files →
        written.tree.fileAt? place = before.fileAt? place) ∧
      (Path.Confined series.sweep.name → ∀ place ∈ places before.home files,
        Below (destination before.home output.reportDirectory) place) ∧
      (¬ Path.Confined series.sweep.name → ∀ kind : ReportKind, ∃ directory : String, ∀ home,
        ¬ Below (destination home directory)
          (destination home
            (series.reportPath { output with reportDirectory := directory } kind))) := by
  obtain ⟨steps, _, _, reports, -, performed⟩ := Series.steps_of_writeReports? ran
  have spares := perform_spares before [] steps
  rw [performed] at spares
  refine ⟨_, reports, spares.files, ?_, fun free => Series.exists_left_reportDirectory free output⟩
  intro confined place member
  obtain ⟨file, listed, rfl⟩ := List.mem_map.mp member
  have path : file.1 ∈ (ReportKind.written output.charts).map (series.reportPath output) := by
    rw [← reports.paths]
    exact List.mem_map_of_mem listed
  obtain ⟨kind, -, named⟩ := List.mem_map.mp path
  rw [← named]
  exact Series.below_reportDirectory confined output kind before.home

/-- A name that climbs no further than to the report directory is confined. -/
theorem name_in_report_directory_stays_inside :
    Path.Confined "../client_get" ∧ ∃ written,
      (onePoint "../client_get").writeReports? { charts := false } "2026-01-02 03:04:05" .empty =
        some written ∧
      written.result = .ok ["result/json/../client_get.json"] ∧
      written.tree.fileAt? ["result".toList, "client_get.json".toList] =
        some (onePoint "../client_get").dataset ∧
      ∀ place, ¬ Below ["result".toList] place → written.tree.fileAt? place = none := by
  have confined : Path.Confined "../client_get" := by decide
  refine ⟨confined, _, rfl, rfl, congrArg some String.empty_append, ?_⟩
  have ran : (onePoint "../client_get").writeReports? { charts := false } "2026-01-02 03:04:05"
    .empty = some _ := rfl
  obtain ⟨files, -, untouched, inside, -⟩ := reports_with_confined_name_stay_inside ran
  intro place outside
  rw [untouched place fun member => outside (inside confined place member), fileAt?_empty]

/-- Settings with one sweep, which is named after a file two levels up. -/
def namedOutside : Settings :=
  { sweeps := [.overClients "../../outside" .get]
    output := { reportDirectory := "reports", charts := false } }

/-- The settings are valid, but their sweep writes its dataset beside the report directory. -/
theorem valid_sweep_leaves_report_directory :
    namedOutside.validate = .ok () ∧ ∃ sweep written,
      namedOutside.resolveSweeps [] = .ok [sweep] ∧
      (Series.start sweep ["redis"]).writeReports? namedOutside.output "2026-01-02 03:04:05"
        .empty = some written ∧
      written.result = .ok ["reports/json/../../outside.json"] ∧
      FileTree.empty.fileAt? ["outside.json".toList] = none ∧
      written.tree.fileAt? ["outside.json".toList] =
        some (Series.start sweep ["redis"]).dataset ∧
      ¬ Below (destination FileTree.empty.home namedOutside.output.reportDirectory)
        ["outside.json".toList] := by
  refine ⟨by decide, _, _, rfl, rfl, rfl, rfl, congrArg some String.empty_append, fun below => ?_⟩
  exact absurd below.inside (by decide)

end LoadSweep
