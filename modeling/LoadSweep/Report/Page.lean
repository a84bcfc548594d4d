import LoadSweep.Comparison
import LoadSweep.Report.Chart

/-!
# Pages

A page shows a series by itself: charts and tables of the charted metrics, and for each endpoint
after the first how it compares with the baseline in throughput.
-/

namespace LoadSweep.Page

open LoadSweep.Markup LoadSweep.Number

set_option autoImplicit false

/-- The style sheet. -/
def style : String :=
  "body \x7b font-family: sans-serif; margin: 2em; color: #222; \x7d\n"
    ++ ".charts \x7b display: flex; flex-wrap: wrap; gap: 1em; \x7d\n"
    ++ ".charts svg \x7b max-width: 100%; height: auto; border: 1px solid #ddd; \x7d\n"
    ++ "table \x7b border-collapse: collapse; margin: 1em 0; \x7d\n"
    ++ "th, td \x7b border: 1px solid #ccc; padding: 4px 10px; text-align: right; \x7d\n"
    ++ "th \x7b background: #f4f4f4; \x7d\n"
    ++ ".better \x7b color: #1a7f37; \x7d\n"
    ++ ".worse \x7b color: #c62828; \x7d\n"

/-- The head of a page and the heading of its body. -/
def opening (series : Series) (timestamp : String) : String :=
  let title := escape series.sweep.title
  "<!DOCTYPE html>\n<html>\n<head>\n<meta charset=\"utf-8\">\n"
    ++ s!"<title>{title}</title>\n"
    ++ s!"<style>\n{style}</style>\n</head>\n<body>\n"
    ++ s!"<h1>{title}</h1>\n"
    ++ s!"<p>Generated: {timestamp} &middot; points: {series.length} of {series.sweep.length}</p>\n"

/-- The rows of a table, from a position on. -/
def rowsFrom (report : Report) (position : Nat) : List String → String
  | [] => ""
  | category :: categories =>
    s!"<tr><td>{escape category}</td>"
      ++ String.join (report.columns.map fun column =>
        s!"<td>{cell report.metric (column.value? position)}</td>")
      ++ "</tr>\n"
      ++ rowsFrom report (position + 1) categories

/-- The table of a report. -/
def table (report : Report) : String :=
  s!"<h2>{escape report.title}</h2>\n<table>\n<tr>"
    ++ s!"<th>{escape report.axisLabel}</th>"
    ++ String.join (report.columns.map fun column =>
      s!"<th>{escape column.endpoint} ({escape report.unit})</th>")
    ++ "</tr>\n"
    ++ rowsFrom report 0 report.categories
    ++ "</table>\n"

/-- The style class of a verdict. -/
def styleClass : Verdict → String
  | .better => "better"
  | .worse => "worse"
  | .equal => ""
  | .missing => ""

/-- The text of a change in percent. -/
def changeText (change : Option Float) : String :=
  match change with
  | some percent => fixedSigned .always 1 percent ++ "%"
  | none => missingText

/-- The item for a compared point. -/
def item (axis : Axis) (point : PointComparison) : String :=
  s!"<li>{axis.label} {escape point.category}: <span class=\"{styleClass point.verdict}\">"
    ++ s!"{changeText point.change}</span></li>\n"

/-- The list for a comparison. -/
def comparison (axis : Axis) (compared : Comparison) : String :=
  s!"<h2>{escape compared.candidate} vs {escape compared.baseline} ({compared.metric.label})</h2>\n"
    ++ "<ul>\n" ++ String.join (compared.points.map (item axis)) ++ "</ul>\n"

end LoadSweep.Page

namespace LoadSweep

/-- The page of a series. -/
def Series.page? (series : Series) (missing : MissingPolicy) (timestamp : String) :
    Option String :=
  (Metric.charted.mapM series.report?).bind fun reports =>
    (series.comparisons? .throughput).map fun comparisons =>
      Page.opening series timestamp
        ++ "<div class=\"charts\">\n"
        ++ String.join (reports.map fun report => report.chart missing)
        ++ "</div>\n"
        ++ String.join (reports.map Page.table)
        ++ String.join (comparisons.map (Page.comparison series.sweep.axis))
        ++ "</body>\n</html>\n"

end LoadSweep
