import LoadSweep.LogLine
import LoadSweep.Proofs.Campaign.Visits
import LoadSweep.Proofs.Report.PageContents
import LoadSweep.Proofs.Report.Projected

/-!
# Every output shows the same text

A measurement is shown in five places: in the line of the log, in the plain and the Markdown table
of a report, in the table of a page, and in the title of a bar.  The log takes the value from the
sample, scales it there and has a formatter of its own (`measuredText_eq`); the others take it from
a report, whose columns are scaled before.
`Sample.shown` is the one text that all of them show (`outputs_agree`), and it is that of a missing
value exactly if the sample lacks the metric.

Each output is read at its own place.  A line of the log is split around the entry of an endpoint
(`pointLine_split`), since a name may contain anything; a table is read from its last lines; the
cells of a page are counted; and a bar is one of the places that are drawn.
-/

namespace LoadSweep

open Markup

set_option autoImplicit false

/-- The text of a metric of a sample: the value in the unit in which it is shown, or that it is
missing. -/
def Sample.shown (sample : Sample) (metric : Metric) : String :=
  cell metric ((sample.get metric).map metric.display)

/-! ## Lines of the log -/

/-- The unit behind a value of the log, if there is a value. -/
def Sample.unitText (sample : Sample) (metric : Metric) : String :=
  if (sample.get metric).isSome then " " ++ metric.unit else ""

/-- The log formats a value on its own, with the places that a cell has. -/
theorem measuredText_eq (sample : Sample) (metric : Metric) :
    measuredText sample metric = sample.shown metric ++ sample.unitText metric := by
  rw [measuredText, Sample.shown, Sample.unitText]
  cases sample.get metric with
  | none => rfl
  | some raw =>
    rw [← String.toList_inj]
    cases metric <;> simp [toString, cell, Metric.places]

/-- What a line of the log says of one endpoint, value by value. -/
def logEntry (name : String) (sample : Sample) : String :=
  " | " ++ name
    ++ ": throughput=" ++ sample.shown .throughput ++ sample.unitText .throughput
    ++ " p50=" ++ sample.shown .latencyP50 ++ sample.unitText .latencyP50

theorem endpointText_eq (name : String) (sample : Sample) :
    endpointText name sample = logEntry name sample := by
  rw [endpointText, logEntry, measuredText_eq, measuredText_eq, ← String.toList_inj]
  simp [toString]

/-- A list around the item at a position. -/
theorem take_cons_drop {α : Type} {items : List α} {position : Nat} {item : α}
    (held : items[position]? = some item) :
    items = items.take position ++ item :: items.drop (position + 1) := by
  obtain ⟨inside, rfl⟩ := List.getElem?_eq_some_iff.mp held
  rw [← List.drop_eq_getElem_cons inside, List.take_append_drop]

/-- A line of the log has the entry of an endpoint between those of the earlier and the later
ones. -/
theorem pointLine_split (axis : Axis) (point : Point) {names : List String} {row : List Sample}
    {position : Nat} {name : String} {sample : Sample} (named : names[position]? = some name)
    (sampled : row[position]? = some sample) :
    pointLine axis point names row =
      pointLine axis point (names.take position) (row.take position) ++ logEntry name sample
        ++ String.join (List.zipWith logEntry (names.drop (position + 1))
          (row.drop (position + 1))) := by
  have entries : endpointText = logEntry := funext fun name => funext (endpointText_eq name)
  have alike : (names.take position).length = (row.take position).length := by
    have inNames := (List.getElem?_eq_some_iff.mp named).1
    have inRow := (List.getElem?_eq_some_iff.mp sampled).1
    rw [List.length_take, List.length_take]
    omega
  have split : List.zipWith logEntry names row =
      List.zipWith logEntry (names.take position) (row.take position) ++
        logEntry name sample ::
          List.zipWith logEntry (names.drop (position + 1)) (row.drop (position + 1)) := by
    conv_lhs => rw [take_cons_drop named, take_cons_drop sampled]
    rw [List.zipWith_append alike, List.zipWith_cons_cons]
  rw [pointLine, pointLine, entries, split, String.join_append, String.join_cons,
    ← String.append_assoc, ← String.append_assoc]

/-! ## Cells of a report -/

namespace Series

variable {series : Series}

theorem length_categories_reportOf (projectable : series.Projectable) (metric : Metric) :
    (series.reportOf metric).categories.length = series.length := by
  have points : series.sweep.categories.length = series.sweep.length := List.length_map ..
  rw [reportOf, List.length_take, points]
  exact Nat.min_eq_left projectable.points

/-- The labels of a report are those of the points, decimal numerals. -/
theorem numeric_categories_reportOf (series : Series) (metric : Metric) :
    ∀ category ∈ (series.reportOf metric).categories, Numeric category := by
  intro category member
  obtain ⟨point, -, rfl⟩ := List.mem_map.mp (List.mem_of_mem_take member)
  exact point.numeric_category series.sweep.axis

theorem length_columns_reportOf (series : Series) (metric : Metric) :
    (series.reportOf metric).columns.length = series.endpoints.length := by
  rw [← series.endpoints_reportOf metric, List.length_map]

/-- The column of an endpoint shows its samples. -/
theorem column_of_sample {point position : Nat} {sample : Sample}
    (found : series.sample? point position = some sample) {name : String}
    (named : series.endpoints[position]? = some name) (metric : Metric) :
    ∃ column, (series.reportOf metric).columns[position]? = some column ∧
      column.endpoint = name ∧
      column.value? point = (sample.get metric).map metric.display := by
  refine ⟨⟨name, (series.valuesAt metric position).map fun value => value.map metric.display⟩,
    ?_, rfl, ?_⟩
  · rw [reportOf, List.getElem?_map, getElem?_columnsAt, named]
    rfl
  · rw [ReportColumn.value?, List.getElem?_map, getElem?_valuesAt found]
    rfl

/-- The label of a completed point. -/
theorem category_reportOf {point : Nat} {declared : Point} (completed : point < series.length)
    (atPoint : series.sweep.points[point]? = some declared) (metric : Metric) :
    (series.reportOf metric).categories[point]? = some (declared.category series.sweep.axis) := by
  rw [reportOf, List.getElem?_take_of_lt completed, Sweep.categories, List.getElem?_map, atPoint]
  rfl

/-- The cell of a row and an endpoint shows the sample that stands there. -/
theorem getElem?_rows_reportOf {point position : Nat} {sample : Sample} {declared : Point}
    (found : series.sample? point position = some sample) (completed : point < series.length)
    (atPoint : series.sweep.points[point]? = some declared) {name : String}
    (named : series.endpoints[position]? = some name) (metric : Metric) :
    ((series.reportOf metric).rows[point]?).bind (·[position + 1]?) =
      some (sample.shown metric) := by
  obtain ⟨column, held, -, value⟩ := column_of_sample found named metric
  rw [Report.getElem?_rows, category_reportOf completed atPoint, Option.map_some,
    Option.bind_some, Report.rowCells, List.getElem?_cons_succ, List.getElem?_map, held,
    Option.map_some, value]
  rfl

/-- The cells of a page are those of its tables, row by row. -/
theorem cells_of_page (projectable : series.Projectable) (missing : MissingPolicy)
    {timestamp page : String} (plain : Plain timestamp)
    (written : series.page? missing timestamp = some page) :
    contents "td" page =
      (Metric.charted.map fun metric => (series.reportOf metric).rows).flatten.flatten := by
  rw [page?_of_projectable projectable] at written
  cases written
  have inTable (report : Report) :
      (if "h2" = "td" then [report.title] else [])
        ++ (if "th" = "td" then report.headerCells else [])
        ++ (if "td" = "td" then report.rows.flatten else []) = report.rows.flatten := by
    rw [if_neg (by decide), if_neg (by decide), if_pos rfl, List.nil_append, List.nil_append]
  rw [contents, (Page.page_marked series missing plain _ _).read,
    Page.contentsOf_pageMarks (by decide), List.flatMap_congr fun report _ => inTable report]
  simp only [String.reduceEq, reduceIte, List.append_nil, flatMap_nothing]
  rw [List.nil_append, List.flatMap_map, List.flatMap_def, List.flatten_flatten,
    List.map_map]
  rfl

/-- The cell of a page for a metric, a row and an endpoint. -/
theorem getElem?_cells_of_page {page : String} {metric : Metric}
    (charted : metric ∈ Metric.charted) (projectable : series.Projectable) {point position : Nat}
    (completed : point < series.length) (inside : position < series.endpoints.length)
    (cells : contents "td" page =
      (Metric.charted.map fun metric => (series.reportOf metric).rows).flatten.flatten) :
    (contents "td" page)[(Metric.charted.idxOf metric * series.length + point)
        * (series.endpoints.length + 1) + (position + 1)]? =
      ((series.reportOf metric).rows[point]?).bind (·[position + 1]?) := by
  have rows : ∀ table ∈ Metric.charted.map fun metric => (series.reportOf metric).rows,
      table.length = series.length := by
    intro table member
    obtain ⟨other, -, rfl⟩ := List.mem_map.mp member
    rw [Report.length_rows, length_categories_reportOf projectable]
  have widths : ∀ row ∈ (Metric.charted.map fun metric => (series.reportOf metric).rows).flatten,
      row.length = series.endpoints.length + 1 := by
    intro row member
    obtain ⟨table, among, held⟩ := List.mem_flatten.mp member
    obtain ⟨other, -, rfl⟩ := List.mem_map.mp among
    rw [Report.length_of_mem_rows held, length_columns_reportOf]
  have numbered : Metric.charted[Metric.charted.idxOf metric]? = some metric :=
    List.getElem?_idxOf charted
  rw [cells, getElem?_flatten_of_width widths _ (Nat.succ_lt_succ inside),
    getElem?_flatten_of_width rows _ completed, List.getElem?_map, numbered]
  rfl

/-- The bar of a row and an endpoint has the sample in its title, and is drawn unless its value is
missing and gaps are left. -/
theorem place_of_sample {point position : Nat} {sample : Sample} {declared : Point}
    (found : series.sample? point position = some sample) (completed : point < series.length)
    (atPoint : series.sweep.points[point]? = some declared) {name : String}
    (named : series.endpoints[position]? = some name) (metric : Metric) (missing : MissingPolicy) :
    ∃ place ∈ (series.reportOf metric).places,
      place.group = point ∧ place.position = position ∧
      place.title metric =
        s!"{name} @ {declared.category series.sweep.axis}: {sample.shown metric}" ∧
      (place ∈ (series.reportOf metric).drawn missing ↔
        sample.get metric ≠ none ∨ missing = .flat) := by
  obtain ⟨column, held, rfl, value⟩ := column_of_sample found named metric
  have labelled := category_reportOf completed atPoint metric
  have within : Chart.Place.mk point (declared.category series.sweep.axis) position column ∈
      (series.reportOf metric).places := Report.mem_places.mpr ⟨labelled, held⟩
  refine ⟨_, within, rfl, rfl, ?_, ?_⟩
  · rw [Chart.Place.title, Chart.Place.value?, value]
    rfl
  · have drawn : Chart.Place.isDrawn missing
        ⟨point, declared.category series.sweep.axis, position, column⟩ = true ↔
          sample.get metric ≠ none ∨ missing = .flat := by
      rw [Chart.Place.isDrawn, Chart.Place.value?, value, Option.isSome_map, Bool.or_eq_true,
        Option.isSome_iff_ne_none, beq_iff_eq]
    rw [Report.drawn, List.mem_filter, drawn]
    exact and_iff_right within

end Series

/-- A cell of a table that is read back row by row. -/
theorem getElem?_read {lines : List (List Char)} {read : List Char → List String}
    {rows : List (List String)} (whole : lines.map read = rows) (row column : Nat) :
    (lines[row]?).bind (fun line => (read line)[column]?) =
      (rows[row]?).bind (·[column]?) := by
  rw [← whole, List.getElem?_map]
  cases lines[row]? <;> rfl

/-- **Every output shows the same text for the same measurement.** -/
theorem outputs_agree {series : Series} (aligned : series.Aligned) {timestamp : String}
    (plain : Plain timestamp) {point position : Nat} {sample : Sample}
    (found : series.sample? point position = some sample) {metric : Metric}
    (charted : metric ∈ Metric.charted) (missing : MissingPolicy) :
    ∃ report page declared row name,
      series.report? metric = some report ∧ series.page? missing timestamp = some page ∧
      series.sweep.points[point]? = some declared ∧ series.rows[point]? = some row ∧
      series.endpoints[position]? = some name ∧
      pointLine series.sweep.axis declared series.endpoints row =
        pointLine series.sweep.axis declared (series.endpoints.take position) (row.take position)
          ++ logEntry name sample
          ++ String.join (List.zipWith logEntry (series.endpoints.drop (position + 1))
            (row.drop (position + 1))) ∧
      ((lastLines series.length report.plainTable)[point]?).bind
        (fun line => (cellsOf line)[position + 1]?) = some (sample.shown metric) ∧
      ((lastLines series.length report.markdownTable)[point]?).bind
        (fun line => (innerCellsOf line)[position + 1]?) = some (sample.shown metric) ∧
      (contents "td" page)[(Metric.charted.idxOf metric * series.length + point)
        * (series.endpoints.length + 1) + (position + 1)]? = some (sample.shown metric) ∧
      contents "title" (report.chart missing) =
        (report.drawn missing).map (Chart.Place.title metric) ∧
      (∃ place ∈ report.places, place.group = point ∧ place.position = position ∧
        place.title metric =
          s!"{name} @ {declared.category series.sweep.axis}: {sample.shown metric}" ∧
        (place ∈ report.drawn missing ↔ sample.get metric ≠ none ∨ missing = .flat)) ∧
      (sample.shown metric = missingText ↔ sample.get metric = none) := by
  have projectable := aligned.projectable
  obtain ⟨completed, inside⟩ := (aligned.sample?_iff point position).mp ⟨sample, found⟩
  obtain ⟨row, atRow, atColumn⟩ := Series.row_of_sample? found
  obtain ⟨declared, atPoint⟩ : ∃ declared, series.sweep.points[point]? = some declared :=
    ⟨_, List.getElem?_eq_getElem (Nat.lt_of_lt_of_le completed aligned.points)⟩
  obtain ⟨name, named⟩ : ∃ name, series.endpoints[position]? = some name :=
    ⟨_, List.getElem?_eq_getElem inside⟩
  have written := Series.page?_of_projectable projectable missing timestamp
  have cells := Series.cells_of_page projectable missing plain written
  have cell := Series.getElem?_rows_reportOf found completed atPoint named metric
  have labels := series.numeric_categories_reportOf metric
  have count : (series.reportOf metric).rows.length = series.length := by
    rw [Report.length_rows, Series.length_categories_reportOf projectable]
  have plainRows := Report.plainTable_read labels
  have markdownRows := Report.markdownTable_read labels
  rw [count] at plainRows markdownRows
  refine ⟨series.reportOf metric, _, declared, row, name,
    Series.report?_of_projectable projectable metric, written, atPoint, atRow, named,
    pointLine_split series.sweep.axis declared named atColumn, ?_, ?_, ?_, ?_,
    Series.place_of_sample found completed atPoint named metric missing, ?_⟩
  · rw [getElem?_read plainRows, cell]
  · rw [getElem?_read markdownRows, cell]
  · rw [Series.getElem?_cells_of_page charted projectable completed inside cells, cell]
  · rw [contents, (Chart.chart_marked _ missing).read, Chart.titles_chartMarks]
    rfl
  · rw [Sample.shown, cell_eq_missing_iff, Option.map_eq_none_iff]

/-- A series of one point, whose second endpoint has a median but no throughput. -/
def halfMeasuredSeries : Series :=
  { sweep :=
      { name := "get"
        title := "GET | sweep"
        operation := .get
        axis := .clients
        points := [⟨8, 1, 1000⟩] }
    endpoints := ["redis", "val | key"]
    rows := [[.empty, Sample.empty.withValue .latencyP50 1.5]] }

/-- The median of the second endpoint is the same text in tables, page and chart. -/
theorem halfMeasuredSeries_agrees :
    halfMeasuredSeries.Aligned ∧
      halfMeasuredSeries.sample? 0 1 = some (Sample.empty.withValue .latencyP50 1.5) ∧
      Metric.latencyP50 ∈ Metric.charted ∧
      ∃ report page,
        halfMeasuredSeries.report? .latencyP50 = some report ∧
        halfMeasuredSeries.page? .gap "2026-01-02 03:04:05" = some page ∧
        ((lastLines 1 report.plainTable)[0]?).bind (fun line => (cellsOf line)[2]?) =
          some "1.500" ∧
        ((lastLines 1 report.markdownTable)[0]?).bind (fun line => (innerCellsOf line)[2]?) =
          some "1.500" ∧
        (contents "td" page)[5]? = some "1.500" ∧
        ∃ place ∈ report.drawn .gap, place.title .latencyP50 = "val | key @ 8: 1.500" := by
  have aligned : halfMeasuredSeries.Aligned := ⟨by decide, by decide⟩
  have found : halfMeasuredSeries.sample? 0 1 = some (Sample.empty.withValue .latencyP50 1.5) := rfl
  have charted : Metric.latencyP50 ∈ Metric.charted := by decide
  have plain : Plain "2026-01-02 03:04:05" := by decide
  have shown : (Sample.empty.withValue .latencyP50 1.5).shown .latencyP50 = "1.500" := by
    decide +kernel
  obtain ⟨report, page, declared, row, name, reported, written, atPoint, -, named, -, inPlain,
    inMarkdown, inPage, -, ⟨place, -, -, -, title, drawn⟩, -⟩ :=
      outputs_agree aligned plain found charted .gap
  rw [shown] at inPlain inMarkdown inPage title
  cases atPoint
  cases named
  exact ⟨aligned, found, charted, report, page, reported, written, inPlain, inMarkdown, inPage,
    place, drawn.mpr (.inl nofun), title⟩

end LoadSweep
