import LoadSweep.Report
import LoadSweep.Report.Cell
import LoadSweep.Text.Blank
import LoadSweep.Text.Utf8

/-!
# Tables

A table has one row for each point and one column for each endpoint, after the column of labels.
The width of a column is the greatest number of bytes of its cells, and a cell is filled up with
blanks to that number of characters.
-/

namespace LoadSweep

open LoadSweep.Text

set_option autoImplicit false

namespace Report

/-- The names of the columns. -/
def headerCells (report : Report) : List String :=
  report.axisLabel :: report.columns.map fun column => s!"{column.endpoint} ({report.unit})"

/-- The cells of the row at a position. -/
def rowCells (report : Report) (position : Nat) (category : String) : List String :=
  category :: report.columns.map fun column => cell report.metric (column.value? position)

/-- The rows from a position on. -/
def rowsFrom (report : Report) (position : Nat) : List String → List (List String)
  | [] => []
  | category :: categories =>
    report.rowCells position category :: report.rowsFrom (position + 1) categories

/-- The cells of all rows. -/
def rows (report : Report) : List (List String) :=
  report.rowsFrom 0 report.categories

end Report

/-- The number of bytes of a text. -/
def byteWidth (text : String) : Nat :=
  byteLength text.toList

/-- The greater of two widths, cell by cell. -/
def widen : List Nat → List String → List Nat
  | width :: widths, text :: texts => max width (byteWidth text) :: widen widths texts
  | widths, _ => widths

/-- The blanks that fill a text up to a number of characters. -/
def filling (width : Nat) (text : String) : String :=
  String.ofList (List.replicate (width - text.length) ' ')

/-- A text filled up at its end. -/
def padEnd (width : Nat) (text : String) : String :=
  text ++ filling width text

/-- A text filled up at its start. -/
def padStart (width : Nat) (text : String) : String :=
  filling width text ++ text

namespace Report

/-- The width of each column. -/
def widths (report : Report) : List Nat :=
  report.rows.foldl widen (report.headerCells.map byteWidth)

/-- A line of a plain table. -/
def plainLine (separator : String) (cells : List String) : String :=
  joined separator cells

/-- A plain table: the title, the names, a rule and the rows, with numbers flush right. -/
def plainTable (report : Report) : String :=
  let widths := report.widths
  let header := plainLine " | " (List.zipWith padEnd widths report.headerCells)
  let rule := plainLine "-+-" (widths.map fun width => String.ofList (List.replicate width '-'))
  let body := report.rows.map fun row => plainLine " | " (List.zipWith padStart widths row)
  String.join ((report.title :: String.ofList (trimEnd header.toList) :: rule :: body).map
    (· ++ "\n"))

/-- A line of a Markdown table. -/
def markdownLine (cells : List String) : String :=
  "| " ++ joined " | " cells ++ " |\n"

/-- A Markdown table. -/
def markdownTable (report : Report) : String :=
  let header := report.headerCells
  s!"### {report.title}\n\n" ++ markdownLine header
    ++ "|" ++ joined "|" (header.map fun _ => "---:") ++ "|\n"
    ++ String.join (report.rows.map markdownLine)

end Report

end LoadSweep
