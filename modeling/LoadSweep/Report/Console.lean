import LoadSweep.Comparison
import LoadSweep.Report.Table

/-!
# Console output

The console shows the tables of a series, and for each comparison a summary line and a line for
each point.
-/

namespace LoadSweep

open LoadSweep.Text LoadSweep.Number

set_option autoImplicit false

/-- A line of eighty equals signs. -/
def banner : String :=
  String.ofList (List.replicate 80 '=')

/-- The heading of a series and its tables. -/
def Series.consoleText? (series : Series) : Option String :=
  (Metric.charted.mapM series.report?).map fun reports =>
    s!"\n{banner}\nSWEEP: {series.sweep.title} ({series.sweep.name})\n{banner}\n"
      ++ "Endpoints: " ++ joined ", " series.endpoints ++ "\n"
      ++ s!"Points: {series.length} of {series.sweep.length}\n"
      ++ String.join (reports.map fun report => "\n" ++ report.plainTable)

/-- The mark of a verdict. -/
def Verdict.mark : Verdict → String
  | better => "+"
  | worse => "-"
  | equal => "="
  | missing => "?"

/-- The change of a compared point in percent. -/
def PointComparison.consoleChange (point : PointComparison) : String :=
  match point.change with
  | some percent => fixedSigned .always 1 percent ++ "%"
  | none => missingText

/-- The line for a compared point. -/
def PointComparison.consoleLine (point : PointComparison) : String :=
  s!"  [{point.verdict.mark}] {padStart 6 point.category}: {point.consoleChange}\n"

/-- The summary line of a comparison. -/
def Comparison.summary (comparison : Comparison) : String :=
  s!"{comparison.candidate} vs {comparison.baseline} ({comparison.metric.label}): "
    ++ s!"{comparison.wins} better, {comparison.losses} worse"
    ++ match comparison.meanChange with
      | some mean => s!", mean change {fixedSigned .always 1 mean}%"
      | none => ""

/-- The summary line and the lines of the points. -/
def Comparison.consoleText (comparison : Comparison) : String :=
  comparison.summary ++ "\n" ++ String.join (comparison.points.map PointComparison.consoleLine)

end LoadSweep
