import LoadSweep.Proofs.Report.ChartContents
import LoadSweep.Report.Page

/-!
# The marks of a page

A page is written mark by mark, like the charts in it: `page_marked` puts the marks of head, charts,
tables and comparisons together.  The time of its making must be plain, which every time of day in
digits is.
-/

namespace LoadSweep.Page

open Markup Chart

set_option autoImplicit false

/-! ## Parts of a page -/

/-- The marks of a row. -/
def rowMarks (report : Report) (position : Nat) (category : String) : List Mark :=
  element .tr [] ""
    (leaf .td [] (escape category) ""
      ++ report.columns.flatMap fun column =>
        leaf .td [] (cell report.metric (column.value? position)) "") "\n"

/-- The name of a column as it is written. -/
def columnText (report : Report) (column : ReportColumn) : String :=
  s!"{escape column.endpoint} ({escape report.unit})"

/-- The marks of the names of the columns. -/
def headerMarks (report : Report) : List Mark :=
  element .tr [] ""
    (leaf .th [] (escape report.axisLabel) ""
      ++ report.columns.flatMap fun column => leaf .th [] (columnText report column) "") "\n"

/-- The marks of the rows, category by category. -/
def rowsMarks (report : Report) : List Mark :=
  report.categories.zipIdx.flatMap fun (category, position) => rowMarks report position category

/-- The marks of a table. -/
def tableMarks (report : Report) : List Mark :=
  leaf .h2 [] (escape report.title) "\n"
    ++ element .table [] "\n" (headerMarks report ++ rowsMarks report) "\n"

theorem numeric_changeText (change : Option Float) : Numeric (changeText change) := by
  cases change with
  | none => decide
  | some percent => exact numeric_percent percent

/-- The marks of the item for a compared point. -/
def itemMarks (axis : Axis) (point : PointComparison) : List Mark :=
  element .li [] s!"{axis.label} {escape point.category}: "
    (leaf .span [("class", styleClass point.verdict)] (changeText point.change) "") "\n"

/-- The heading of a comparison as it is written. -/
def headingText (compared : Comparison) : String :=
  s!"{escape compared.candidate} vs {escape compared.baseline} ({compared.metric.label})"

/-- The marks of a comparison. -/
def comparisonMarks (axis : Axis) (compared : Comparison) : List Mark :=
  leaf .h2 [] (headingText compared) "\n"
    ++ element .ul [] "\n" (compared.points.flatMap (itemMarks axis)) "\n"

/-- The marks of the head. -/
def headMarks (series : Series) : List Mark :=
  element .head [] "\n"
    (⟨"meta charset=\x22utf-8\x22", "\n"⟩ :: (leaf .title [] (escape series.sweep.title) "\n"
      ++ leaf .style [] ("\n" ++ style) "\n")) "\n"

/-- The line about the making of a page. -/
def generatedText (series : Series) (timestamp : String) : String :=
  s!"Generated: {timestamp} &middot; points: {series.length} of {series.sweep.length}"

/-- The marks of what is in the body. -/
def bodyMarks (series : Series) (missing : MissingPolicy) (timestamp : String)
    (reports : List Report) (comparisons : List Comparison) : List Mark :=
  leaf .h1 [] (escape series.sweep.title) "\n"
    ++ leaf .p [] (generatedText series timestamp) "\n"
    ++ element .div [("class", "charts")] "\n"
      (reports.flatMap fun report => chartMarks report missing) "\n"
    ++ reports.flatMap tableMarks
    ++ comparisons.flatMap (comparisonMarks series.sweep.axis)

/-- The marks of a page. -/
def pageMarks (series : Series) (missing : MissingPolicy) (timestamp : String)
    (reports : List Report) (comparisons : List Comparison) : List Mark :=
  ⟨"!DOCTYPE html", "\n"⟩ :: element .html [] "\n"
    (headMarks series
      ++ element .body [] "\n" (bodyMarks series missing timestamp reports comparisons) "\n") "\n"

/-! ## A page is written mark by mark -/

/-- A row of a table. -/
def row (report : Report) (position : Nat) (category : String) : String :=
  s!"<tr><td>{escape category}</td>"
    ++ String.join (report.columns.map fun column =>
      s!"<td>{cell report.metric (column.value? position)}</td>")
    ++ "</tr>\n"

theorem rowsFrom_eq (report : Report) (position : Nat) (categories : List String) :
    rowsFrom report position categories =
      String.join ((categories.zipIdx position).map fun (category, place) =>
        row report place category) :=
  eq_join_zipIdx (fun _ => rfl) (fun _ _ _ => rfl) position categories

theorem row_marked (report : Report) (position : Nat) (category : String) :
    Marked (row report position category) (rowMarks report position category) := by
  have label : Marked _ (leaf .td [] (escape category) "") :=
    leaf_marked (by decide) (plain_escape category)
  have cells : Marked (String.join (report.columns.map fun column =>
      s!"<td>{cell report.metric (column.value? position)}</td>"))
      (report.columns.flatMap fun column =>
        leaf .td [] (cell report.metric (column.value? position)) "") := by
    refine .flatMap fun column _ => ?_
    have value := numeric_cell report.metric (column.value? position)
    exact (leaf_marked (by decide) value.plain).of_toList
      (by simp [ElementName.shown, attributesText, toString])
  have whole : Marked _ (rowMarks report position category) :=
    .element (by decide) (by decide) (label.append cells)
  exact whole.of_toList (by simp [row, ElementName.shown, attributesText, toString])

theorem rows_marked (report : Report) :
    Marked (rowsFrom report 0 report.categories) (rowsMarks report) := by
  rw [rowsFrom_eq]
  refine .flatMap ?_
  rintro ⟨category, position⟩ -
  exact row_marked report position category

theorem table_marked (report : Report) : Marked (table report) (tableMarks report) := by
  have heading : Marked _ (leaf .h2 [] (escape report.title) "\n") :=
    leaf_marked (by decide) (plain_escape report.title)
  have label : Marked _ (leaf .th [] (escape report.axisLabel) "") :=
    leaf_marked (by decide) (plain_escape report.axisLabel)
  have names : Marked (String.join (report.columns.map fun column =>
      s!"<th>{escape column.endpoint} ({escape report.unit})</th>"))
      (report.columns.flatMap fun column => leaf .th [] (columnText report column) "") := by
    refine .flatMap fun column _ => ?_
    have plain : Plain (columnText report column) := by
      simp +decide [columnText, toString]
    exact (leaf_marked (by decide) plain).of_toList
      (by simp [columnText, ElementName.shown, attributesText, toString])
  have header : Marked _ (headerMarks report) :=
    .element (by decide) (by decide) (label.append names)
  have body : Marked _ (element .table [] "\n" _ "\n") :=
    .element (by decide) (by decide) (header.append (rows_marked report))
  exact (heading.append body).of_toList
    (by simp [table, ElementName.shown, attributesText, toString])

theorem plain_axisLabel (axis : Axis) : Plain axis.label := by
  cases axis <;> decide

theorem plain_metricLabel (metric : Metric) : Plain metric.label := by
  cases metric <;> decide

theorem item_marked (axis : Axis) (point : PointComparison) :
    Marked (item axis point) (itemMarks axis point) := by
  have styled : PlainAttributes [("class", styleClass point.verdict)] := by
    cases point.verdict <;> decide
  have lead : Plain s!"{axis.label} {escape point.category}: " := by
    simp +decide [toString, plain_axisLabel axis]
  have change : Marked _
      (leaf .span [("class", styleClass point.verdict)] (changeText point.change) "") :=
    leaf_marked ⟨styled, by decide⟩ (numeric_changeText point.change).plain
  have whole : Marked _ (itemMarks axis point) := .element (by decide) lead change
  exact whole.of_toList (by simp [item, ElementName.shown, attributesText, toString])

theorem comparison_marked (axis : Axis) (compared : Comparison) :
    Marked (comparison axis compared) (comparisonMarks axis compared) := by
  have plain : Plain (headingText compared) := by
    simp +decide [headingText, toString, plain_metricLabel compared.metric]
  have heading : Marked _ (leaf .h2 [] (headingText compared) "\n") :=
    leaf_marked (by decide) plain
  have items : Marked (String.join (compared.points.map (item axis)))
      (compared.points.flatMap (itemMarks axis)) :=
    .flatMap fun point _ => item_marked axis point
  have body : Marked _ (element .ul [] "\n" _ "\n") := .element (by decide) (by decide) items
  exact (heading.append body).of_toList
    (by simp [comparison, headingText, ElementName.shown, attributesText, toString])

/-- The head of a page. -/
def head (series : Series) : String :=
  "<head>\n<meta charset=\"utf-8\">\n" ++ s!"<title>{escape series.sweep.title}</title>\n"
    ++ s!"<style>\n{style}</style>\n</head>\n"

theorem plain_style : Plain style := by
  unfold style
  repeat rw [plain_append_iff]
  and_intros <;> exact plain_ofList rfl

theorem head_marked (series : Series) : Marked (head series) (headMarks series) := by
  have charset : Marked _ [⟨"meta charset=\x22utf-8\x22", "\n"⟩] :=
    .mark (by decide) (by decide)
  have title : Marked _ (leaf .title [] (escape series.sweep.title) "\n") :=
    leaf_marked (by decide) (plain_escape series.sweep.title)
  have plain : Plain ("\n" ++ style) := (plain_append_iff _ _).mpr ⟨by decide, plain_style⟩
  have sheet : Marked _ (leaf .style [] ("\n" ++ style) "\n") := leaf_marked (by decide) plain
  have whole : Marked _ (headMarks series) :=
    .element (by decide) (by decide) (charset.append (title.append sheet))
  refine whole.of_toList ?_
  unfold head
  obtain ⟨sheet, same⟩ : ∃ sheet, style = sheet := ⟨style, rfl⟩
  rw [same]
  simp [ElementName.shown, attributesText, toString]

/-- A page begins with its head, its title and the line about its making. -/
theorem opening_eq (series : Series) (timestamp : String) :
    opening series timestamp = "<!DOCTYPE html>\n" ++ "<html>\n" ++ head series ++ "<body>\n"
      ++ ("<h1>" ++ escape series.sweep.title ++ "</h1>\n")
      ++ ("<p>" ++ generatedText series timestamp ++ "</p>\n") := by
  unfold opening head generatedText
  -- a sheet that is not known cannot be unfolded either
  obtain ⟨sheet, same⟩ : ∃ sheet, style = sheet := ⟨style, rfl⟩
  rw [same, ← String.toList_inj]
  simp [toString]

theorem generatedText_eq (series : Series) (timestamp : String) :
    generatedText series timestamp = "Generated: " ++ timestamp ++ " &middot; points: "
      ++ toString series.length ++ " of " ++ toString series.sweep.length := by
  rw [← String.toList_inj]
  simp [generatedText, toString]

theorem plain_generatedText (series : Series) {timestamp : String} (plain : Plain timestamp) :
    Plain (generatedText series timestamp) := by
  have number (n : Nat) : Plain (toString n) := (numeric_toString n).plain
  simp only [generatedText_eq, plain_append_iff, plain, number, and_true]
  decide

/-- The page that shows given reports and comparisons. -/
def text (series : Series) (missing : MissingPolicy) (timestamp : String)
    (reports : List Report) (comparisons : List Comparison) : String :=
  opening series timestamp
    ++ "<div class=\"charts\">\n"
    ++ String.join (reports.map fun report => report.chart missing)
    ++ "</div>\n"
    ++ String.join (reports.map table)
    ++ String.join (comparisons.map (comparison series.sweep.axis))
    ++ "</body>\n</html>\n"

theorem page?_eq_some_iff (series : Series) (missing : MissingPolicy) (timestamp page : String) :
    series.page? missing timestamp = some page ↔
      ∃ reports comparisons, Metric.charted.mapM series.report? = some reports ∧
        series.comparisons? .throughput = some comparisons ∧
        text series missing timestamp reports comparisons = page := by
  simp only [Series.page?, Option.bind_eq_some_iff, Option.map_eq_some_iff]
  constructor
  · rintro ⟨reports, reported, comparisons, compared, same⟩
    exact ⟨reports, comparisons, reported, compared, same⟩
  · rintro ⟨reports, comparisons, reported, compared, same⟩
    exact ⟨reports, reported, comparisons, compared, same⟩

/-- **A page is written mark by mark.** -/
theorem page_marked (series : Series) (missing : MissingPolicy) {timestamp : String}
    (plain : Plain timestamp) (reports : List Report) (comparisons : List Comparison) :
    Marked (text series missing timestamp reports comparisons)
      (pageMarks series missing timestamp reports comparisons) := by
  have declaration : Marked _ [⟨"!DOCTYPE html", "\n"⟩] :=
    .mark (by decide) (by decide)
  have title : Marked _ (leaf .h1 [] (escape series.sweep.title) "\n") :=
    leaf_marked (by decide) (plain_escape series.sweep.title)
  have generated : Marked _ (leaf .p [] (generatedText series timestamp) "\n") :=
    leaf_marked (by decide) (plain_generatedText series plain)
  have charts : Marked (String.join (reports.map fun report => report.chart missing))
      (reports.flatMap fun report => chartMarks report missing) :=
    .flatMap fun report _ => chart_marked report missing
  have drawn : Marked _ (element .div [("class", "charts")] "\n" _ "\n") :=
    .element (by decide) (by decide) charts
  have tables : Marked (String.join (reports.map table)) (reports.flatMap tableMarks) :=
    .flatMap fun report _ => table_marked report
  have compared : Marked (String.join (comparisons.map (comparison series.sweep.axis)))
      (comparisons.flatMap (comparisonMarks series.sweep.axis)) :=
    .flatMap fun comparison _ => comparison_marked series.sweep.axis comparison
  have body : Marked _
      (element .body [] "\n" (bodyMarks series missing timestamp reports comparisons) "\n") :=
    .element (by decide) (by decide)
      ((((title.append generated).append drawn).append tables).append compared)
  have html : Marked _ (element .html [] "\n" _ "\n") :=
    .element (by decide) (by decide) ((head_marked series).append body)
  refine (declaration.append html).of_toList ?_
  rw [text, opening_eq]
  simp [ElementName.shown, attributesText]

end LoadSweep.Page
