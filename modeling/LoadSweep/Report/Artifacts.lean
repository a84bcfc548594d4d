import LoadSweep.Report.Page
import LoadSweep.Series.Dataset
import LoadSweep.Storage.Tree

/-!
# Report files

The reports of a sweep are a dataset and, with charts, a chart for each charted metric and a page.
Each kind of file has a directory below the report directory, and each file is named after the
sweep.  The files are written in that order, and the first failure ends the writing.
-/

namespace LoadSweep

set_option autoImplicit false

/-- The outcome of writing: the tree afterwards, and the paths written or the fault. -/
structure Written where
  tree : FileTree
  result : Except Fault (List String)

/-- Makes the directory for a kind of file. -/
def FileTree.ensureReportDirectory (tree : FileTree) (directory : String) :
    Except Fault FileTree :=
  (tree.makeDirectories directory).mapError fun error => .storage directory error.text

/-- Writes one report file. -/
def FileTree.writeReport (tree : FileTree) (path text : String) : Except Fault FileTree :=
  (tree.write path text).mapError fun error => .storage path error.text

/-- A step of writing reports. -/
inductive ReportStep where
  | directory (path : String)
  | file (path text : String)
  deriving Repr, DecidableEq

/-- Performs steps until one fails; what the failed step has done is left. -/
def FileTree.perform (tree : FileTree) (written : List String) : List ReportStep → Written
  | [] => ⟨tree, .ok written⟩
  | .directory path :: steps =>
    match tree.ensureReportDirectory path with
    | .ok tree => tree.perform written steps
    | .error fault => ⟨tree.leftByMaking path, .error fault⟩
  | .file path text :: steps =>
    match tree.writeReport path text with
    | .ok tree => tree.perform (written ++ [path]) steps
    | .error fault => ⟨tree.leftByWriting path text, .error fault⟩

/-- The step that writes the chart of one metric. -/
def Series.chartStep? (series : Series) (output : OutputSettings) (directory : String)
    (metric : Metric) : Option ReportStep :=
  (series.report? metric).map fun report =>
    .file (Path.join directory s!"{series.sweep.name}_{metric.key}.svg")
      (report.chart output.missing)

/-- The steps for the dataset. -/
def Series.datasetSteps (series : Series) (output : OutputSettings) : List ReportStep :=
  let directory := Path.join output.reportDirectory "json"
  [.directory directory, .file (Path.join directory s!"{series.sweep.name}.json") series.dataset]

/-- The steps for charts and page. -/
def Series.chartSteps? (series : Series) (output : OutputSettings) (timestamp : String) :
    Option (List ReportStep) :=
  let charts := Path.join output.reportDirectory "svg"
  let pages := Path.join output.reportDirectory "html"
  (Metric.charted.mapM (series.chartStep? output charts)).bind fun chartFiles =>
    (series.page? output.missing timestamp).map fun page =>
      .directory charts :: chartFiles
        ++ [.directory pages, .file (Path.join pages s!"{series.sweep.name}.html") page]

/-- Writes the reports of a series; there is no outcome if the series cannot be projected. -/
def Series.writeReports? (series : Series) (output : OutputSettings) (timestamp : String)
    (tree : FileTree) : Option Written :=
  if output.charts then
    (series.chartSteps? output timestamp).map fun steps =>
      tree.perform [] (series.datasetSteps output ++ steps)
  else some (tree.perform [] (series.datasetSteps output))

end LoadSweep
