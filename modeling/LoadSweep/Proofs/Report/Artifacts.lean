import LoadSweep.Proofs.Report.Projected
import LoadSweep.Proofs.Report.Steps
import LoadSweep.Proofs.Storage.Joins

/-!
# The report files of a series

The reports of a series are files with their texts (`Series.Reports`), one of each kind: a dataset,
and with charts also two charts and a page.  A kind has a directory of its own, or shares it with
kinds whose endings are not endings of its own (`ReportKind.eq_of_suffix`).

A sweep whose name holds no slash has its files at places that the name decides
(`Series.destination_reportPath`), and from such a place the name and the kind can be read off
(`ReportKind.place_injective`).  So the files of one sweep have distinct places
(`Series.Reports.nodup`), and those of two sweeps with different names have no place in common
(`Series.Reports.disjoint`), whatever the names are: the files of the one outlast the writing of the
other.
-/

namespace LoadSweep

open FileTree

set_option autoImplicit false

/-! ## Kinds of files -/

/-- A kind of report file. -/
inductive ReportKind where
  | dataset
  | chart (metric : Metric)
  | page
  deriving DecidableEq

namespace ReportKind

/-- The directory for a kind, below the report directory. -/
def directory : ReportKind → String
  | dataset => "json"
  | chart _ => "svg"
  | page => "html"

/-- What follows the name of the sweep in the name of a file. -/
def ending : ReportKind → String
  | dataset => ".json"
  | chart metric => s!"_{metric.key}.svg"
  | page => ".html"

/-- The kinds of files that are written, in order. -/
def written (charts : Bool) : List ReportKind :=
  dataset :: if charts then Metric.charted.map chart ++ [page] else []

theorem nodup_written (charts : Bool) : (written charts).Nodup := by
  cases charts <;> decide

theorem plain_directory (kind : ReportKind) : Path.Plain kind.directory.toList := by
  cases kind <;> rw [directory] <;> constructor <;> decide

theorem slashless_ending (kind : ReportKind) : '/' ∉ kind.ending.toList := by
  rcases kind with _ | metric | _
  · decide
  · cases metric <;> decide
  · decide

theorem long_ending (kind : ReportKind) : 2 < kind.ending.toList.length := by
  rcases kind with _ | metric | _
  · decide
  · cases metric <;> decide
  · decide

theorem chart_of_suffix : ∀ first ∈ Metric.all, ∀ second ∈ Metric.all,
    (chart first).ending.toList <:+ (chart second).ending.toList → first = second := by
  decide +kernel

/-- In one directory, no kind has an ending that ends in that of another kind. -/
theorem eq_of_suffix {one two : ReportKind} (same : one.directory = two.directory)
    (suffix : one.ending.toList <:+ two.ending.toList) : one = two := by
  rcases one with _ | first | _ <;> rcases two with _ | second | _
  case dataset.dataset | page.page => rfl
  case chart.chart =>
    rw [chart_of_suffix first first.mem_all second second.mem_all suffix]
  all_goals simp [directory] at same

/-- The place of a file of a kind for a sweep, below a report directory. -/
def place (directory : Place) (name : String) (kind : ReportKind) : Place :=
  directory ++ [kind.directory.toList, name.toList ++ kind.ending.toList]

/-- The place of a file tells the name of the sweep and the kind. -/
theorem place_injective {directory : Place} {name other : String} {one two : ReportKind}
    (same : place directory name one = place directory other two) : name = other ∧ one = two := by
  rw [place, place, List.append_cancel_left_eq, List.cons.injEq, List.singleton_inj] at same
  obtain ⟨directories, names⟩ := same
  -- Both endings end the file name, so the shorter one ends the longer one.
  have here : one.ending.toList <:+ name.toList ++ one.ending.toList := List.suffix_append ..
  have there : two.ending.toList <:+ name.toList ++ one.ending.toList := ⟨_, names.symm⟩
  have kinds : one = two := by
    have alike := String.toList_inj.mp directories
    rcases List.suffix_or_suffix_of_suffix here there with suffix | suffix
    · exact eq_of_suffix alike suffix
    · exact (eq_of_suffix alike.symm suffix).symm
  subst kinds
  exact ⟨String.toList_inj.mp (List.append_cancel_right names), rfl⟩

end ReportKind

/-! ## The files of a series -/

namespace Series

/-- The path of a report file. -/
def reportPath (series : Series) (output : OutputSettings) (kind : ReportKind) : String :=
  Path.join (Path.join output.reportDirectory kind.directory) (series.sweep.name ++ kind.ending)

/-- The report files of a series with their texts, in the order in which they are written. -/
inductive Reports (series : Series) (output : OutputSettings) (timestamp : String) :
    List (String × String) → Prop
  | bare (without : output.charts = false) :
    Reports series output timestamp [(series.reportPath output .dataset, series.dataset)]
  | charted (asked : output.charts = true) {throughput median : Report} {page : String}
    (throughput_eq : series.report? .throughput = some throughput)
    (median_eq : series.report? .latencyP50 = some median)
    (page_eq : series.page? output.missing timestamp = some page) :
    Reports series output timestamp
      [(series.reportPath output .dataset, series.dataset),
        (series.reportPath output (.chart .throughput), throughput.chart output.missing),
        (series.reportPath output (.chart .latencyP50), median.chart output.missing),
        (series.reportPath output .page, page)]

variable {series other : Series} {output : OutputSettings} {timestamp : String}
  {files : List (String × String)}

theorem reportPath_chart (series : Series) (output : OutputSettings) (metric : Metric) :
    series.reportPath output (.chart metric) =
      Path.join (Path.join output.reportDirectory "svg")
        s!"{series.sweep.name}_{metric.key}.svg" := by
  rw [reportPath, ReportKind.ending, String.append_assoc, String.append_assoc, ← String.append_assoc]
  rfl

/-- The paths of the files of a series are those of the kinds that are written. -/
theorem Reports.paths (reports : series.Reports output timestamp files) :
    files.map Prod.fst = (ReportKind.written output.charts).map (series.reportPath output) := by
  cases reports with
  | bare without =>
    rw [without]
    rfl
  | charted asked _ _ _ =>
    rw [asked]
    rfl

/-- Writing reports is running steps that write the files of the series, the last step among
them. -/
theorem steps_of_writeReports? {tree : FileTree} {written : Written}
    (ran : series.writeReports? output timestamp tree = some written) :
    ∃ steps path text, series.Reports output timestamp (ReportStep.files steps) ∧
      steps.getLast? = some (.file path text) ∧ tree.perform [] steps = written := by
  rw [writeReports?] at ran
  split at ran
  · rename_i asked
    obtain ⟨steps, chartSteps, performed⟩ := Option.map_eq_some_iff.mp ran
    rw [chartSteps?] at chartSteps
    obtain ⟨charts, chartFiles, pageSteps⟩ := Option.bind_eq_some_iff.mp chartSteps
    obtain ⟨page, page_eq, rfl⟩ := Option.map_eq_some_iff.mp pageSteps
    simp only [Metric.charted, List.mapM_cons, List.mapM_nil, chartStep?, Option.bind_eq_bind,
      Option.bind_eq_some_iff, Option.map_eq_some_iff, Option.pure_def, Option.some.injEq,
      ← reportPath_chart] at chartFiles
    obtain ⟨_, ⟨throughput, throughput_eq, rfl⟩, _, ⟨_, ⟨median, median_eq, rfl⟩, _, rfl, rfl⟩, rfl⟩ :=
      chartFiles
    refine ⟨_, series.reportPath output .page, page, ?_, ?_, performed⟩
    · exact .charted asked throughput_eq median_eq page_eq
    · rfl
  · rename_i without
    rw [Bool.not_eq_true] at without
    exact ⟨_, _, _, .bare without, rfl, Option.some.inj ran⟩

/-! ## Places -/

/-- A name without slashes leads below the directory of the kind. -/
theorem destination_reportPath (slashless : '/' ∉ series.sweep.name.toList) (home : Place)
    (kind : ReportKind) :
    destination home (series.reportPath output kind) =
      kind.place (destination home output.reportDirectory) series.sweep.name := by
  have plain : Path.Plain (series.sweep.name ++ kind.ending).toList := by
    rw [String.toList_append]
    exact Path.plain_append slashless kind.slashless_ending kind.long_ending
  rw [reportPath, destination_join_name home _ plain,
    destination_join_name home _ kind.plain_directory, List.append_assoc, String.toList_append]
  rfl

/-- The files of a series are at a place for each kind that is written. -/
theorem Reports.places_eq (reports : series.Reports output timestamp files)
    (slashless : '/' ∉ series.sweep.name.toList) (home : Place) :
    places home files = (ReportKind.written output.charts).map
      (ReportKind.place (destination home output.reportDirectory) series.sweep.name) := by
  have byPath : places home files = (files.map Prod.fst).map (destination home) := by
    rw [List.map_map]
    rfl
  rw [byPath, reports.paths, List.map_map]
  exact List.map_congr_left fun kind _ => destination_reportPath slashless home kind

/-- The files of a series have distinct places. -/
theorem Reports.nodup (reports : series.Reports output timestamp files)
    (slashless : '/' ∉ series.sweep.name.toList) (home : Place) : (places home files).Nodup := by
  rw [reports.places_eq slashless]
  exact (ReportKind.nodup_written _).map fun _ _ same => (ReportKind.place_injective same).2

/-- The files of sweeps with different names have no place in common. -/
theorem Reports.disjoint {later : OutputSettings} {moment : String}
    {others : List (String × String)} (reports : series.Reports output timestamp files)
    (slashless : '/' ∉ series.sweep.name.toList)
    (otherReports : other.Reports later moment others)
    (otherSlashless : '/' ∉ other.sweep.name.toList)
    (different : other.sweep.name ≠ series.sweep.name)
    (shared : later.reportDirectory = output.reportDirectory) (home : Place) :
    (places home files).Disjoint (places home others) := by
  rw [reports.places_eq slashless, otherReports.places_eq otherSlashless, shared]
  intro place here there
  obtain ⟨_, -, rfl⟩ := List.mem_map.mp here
  obtain ⟨_, -, same⟩ := List.mem_map.mp there
  exact different (ReportKind.place_injective same).1

/-- Writing reports has an outcome exactly if the series can be projected, or need not be. -/
theorem isSome_writeReports?_iff (series : Series) (output : OutputSettings) (timestamp : String)
    (tree : FileTree) : (series.writeReports? output timestamp tree).isSome = true ↔
      (output.charts = true → series.Projectable) := by
  constructor
  · intro shown asked
    obtain ⟨written, ran⟩ := Option.isSome_iff_exists.mp shown
    obtain ⟨steps, _, _, reports, -, -⟩ := steps_of_writeReports? ran
    generalize ReportStep.files steps = files at reports
    cases reports with
    | bare without => simp [asked] at without
    | charted _ _ _ page_eq =>
      rw [← isSome_page?_iff series output.missing timestamp, page_eq]
      rfl
  · intro projectable
    rw [writeReports?]
    cases asked : output.charts with
    | false => rfl
    | true =>
      have shown := projectable asked
      simp [chartSteps?, chartStep?, Metric.charted, report?_of_projectable shown,
        page?_of_projectable shown]

end Series

/-! ## Writing -/

/-- What the writing of files has come to.  A result without fault names their paths, each file
holds its text, and no other file is touched; otherwise the writing has broken off. -/
def Written.Accounts (written : Written) (before : FileTree) (files : List (String × String)) :
    Prop :=
  match written.result with
  | .ok paths => paths = files.map Prod.fst ∧
      (∀ file ∈ files, written.tree.read file.1 = .ok file.2) ∧
      ∀ place, place ∉ places before.home files →
        written.tree.fileAt? place = before.fileAt? place
  | .error _ => BreaksOff before written.tree files

/-- Steps of which the last writes a file account for their files. -/
theorem accounts_perform {steps : List ReportStep} {before : FileTree} {written : Written}
    (performed : before.perform [] steps = written) {path text : String}
    (last : steps.getLast? = some (.file path text))
    (distinct : (places before.home (ReportStep.files steps)).Nodup) :
    written.Accounts before (ReportStep.files steps) := by
  rcases written with ⟨after, fault | paths⟩
  · exact breaksOff_of_perform performed last distinct
  · obtain ⟨named, writes⟩ := perform_ok performed
    exact ⟨named, writes.held distinct, writes.spares.files⟩

/-- **Reports are written apart.**  The writing of a series whose name holds no slash accounts for
the files of the series, which have distinct places.  If the reports of another series with another
such name follow, none of their files has a place in common with them, and what could be read from
the files of the first is read from them again, however either writing ends. -/
theorem reports_are_written_apart {series : Series} {output : OutputSettings}
    {timestamp : String} {before : FileTree} {written : Written}
    (slashless : '/' ∉ series.sweep.name.toList)
    (ran : series.writeReports? output timestamp before = some written) :
    ∃ files, series.Reports output timestamp files ∧ written.Accounts before files ∧
      (places before.home files).Nodup ∧
      ∀ (other : Series) (later : OutputSettings) (moment : String) (last : Written),
        '/' ∉ other.sweep.name.toList → other.sweep.name ≠ series.sweep.name →
        later.reportDirectory = output.reportDirectory →
        other.writeReports? later moment written.tree = some last →
        ∃ others, other.Reports later moment others ∧
          (places before.home files).Disjoint (places before.home others) ∧
          (∀ place ∈ places before.home files,
            last.tree.fileAt? place = written.tree.fileAt? place) ∧
          ∀ file ∈ files, ∀ text, written.tree.read file.1 = .ok text →
            last.tree.read file.1 = .ok text := by
  obtain ⟨steps, _, _, reports, lastStep, performed⟩ := Series.steps_of_writeReports? ran
  have distinct := reports.nodup slashless before.home
  refine ⟨_, reports, accounts_perform performed lastStep distinct, distinct, ?_⟩
  intro other later moment last otherSlashless different shared otherRan
  obtain ⟨otherSteps, _, _, otherReports, -, otherPerformed⟩ :=
    Series.steps_of_writeReports? otherRan
  have apart :=
    reports.disjoint slashless otherReports otherSlashless different shared before.home
  have home : written.tree.home = before.home := by
    rw [← performed]
    exact (perform_spares before [] steps).home
  have spares := perform_spares written.tree [] otherSteps
  rw [otherPerformed, home] at spares
  refine ⟨_, otherReports, apart, fun place member => spares.files place (apart member), ?_⟩
  intro file member text found
  refine spares.read ?_ found
  rw [home]
  exact apart (List.mem_map_of_mem member)

/-- A series of one point over one endpoint. -/
def onePoint (name : String) : Series :=
  { sweep :=
      { name := name
        title := "GET"
        operation := .get
        axis := .clients
        points := [⟨1, 1, 1000⟩] }
    endpoints := ["redis"]
    rows := [[.empty]] }

/-- A tree with a note in the report directory. -/
def treeWithNote : FileTree :=
  { FileTree.empty with
    entries := [(["result".toList], .directory),
      (["result".toList, "notes.txt".toList], .file "second run")] }

set_option maxRecDepth 10000 in
/-- The note outlasts the reports of a sweep, and these outlast those of another sweep. -/
theorem note_and_reports_outlast :
    ∃ written last,
      (onePoint "client_get").writeReports? {} "2026-01-02 03:04:05" treeWithNote = some written ∧
      written.result = .ok ["result/json/client_get.json",
        "result/svg/client_get_throughput_ops_per_sec.svg",
        "result/svg/client_get_latency_p50_ms.svg", "result/html/client_get.html"] ∧
      written.tree.fileAt? ["result".toList, "notes.txt".toList] = some "second run" ∧
      (onePoint "client").writeReports? {} "2026-01-02 03:04:06" written.tree = some last ∧
      last.tree.read "result/json/client_get.json" = .ok (onePoint "client_get").dataset := by
  have projectable (name : String) : (onePoint name).Projectable :=
    ⟨Nat.le_refl 1, List.forall_mem_singleton.mpr (Nat.le_refl 1)⟩
  have outcome (name timestamp : String) (tree : FileTree) := Option.isSome_iff_exists.mp <|
    (Series.isSome_writeReports?_iff (onePoint name) {} timestamp tree).mpr fun _ =>
      projectable name
  obtain ⟨written, ran⟩ := outcome "client_get" "2026-01-02 03:04:05" treeWithNote
  obtain ⟨last, otherRan⟩ := outcome "client" "2026-01-02 03:04:06" written.tree
  obtain ⟨files, reports, accounts, -, others⟩ := reports_are_written_apart (by decide) ran
  obtain ⟨-, -, -, -, again⟩ := others _ _ _ _ (by decide) (by decide) rfl otherRan
  have result : written.result = .ok ["result/json/client_get.json",
      "result/svg/client_get_throughput_ops_per_sec.svg",
      "result/svg/client_get_latency_p50_ms.svg", "result/html/client_get.html"] :=
    Option.some.inj ((congrArg (Option.map Written.result) ran).symm.trans rfl)
  rw [Written.Accounts, result] at accounts
  obtain ⟨-, held, untouched⟩ := accounts
  rw [reports.places_eq (by decide)] at untouched
  have dataset : ((onePoint "client_get").reportPath {} .dataset, (onePoint "client_get").dataset) ∈
      files := by
    cases reports <;> exact List.mem_cons_self
  exact ⟨written, last, ran, result, untouched _ (by decide), otherRan,
    again _ dataset _ (held _ dataset)⟩

end LoadSweep
