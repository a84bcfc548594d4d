import LoadSweep.Proofs.Report.PageContents
import LoadSweep.Proofs.Report.Projected

/-!
# Texts stay texts

Titles, names, labels and units come from outside and may contain anything.  A chart or a page has
the same tags whatever they are: the same as if all of them were empty (`tags_chartMarks`,
`tags_page?_textless`).  The tags are well nested, and the texts between them are the given ones
once the entities are undone.

The time of making is the only text of a page that is not escaped.  It is a date and a time of day,
so it is plain; nothing else is asked of it, and the two pages that are compared may be made at
different times.
-/

namespace LoadSweep

open Markup

set_option autoImplicit false

/-- A comparison whose endpoints have no names. -/
def Comparison.unnamed (compared : Comparison) : Comparison :=
  { compared with
    baseline := ""
    candidate := "" }

/-- A series whose title and names are empty. -/
def Series.textless (series : Series) : Series :=
  { series with
    sweep := { series.sweep with title := "" }
    endpoints := series.endpoints.map fun _ => "" }

/-- The name of the baseline, the first endpoint. -/
def Series.baselineName (series : Series) : String :=
  series.endpoints.headD ""

/-! ## Tags of a page -/

namespace Page

theorem tags_tableMarks (report : Report) :
    (tableMarks report.textless).map Mark.tag = (tableMarks report).map Mark.tag := by
  have cells (name : ElementName) (text other : ReportColumn → String) :
      (report.textless.columns.flatMap fun column => leaf name [] (text column) "").map Mark.tag =
        (report.columns.flatMap fun column => leaf name [] (other column) "").map Mark.tag := by
    have columns : report.textless.columns = report.columns.map ReportColumn.unnamed := rfl
    simp only [columns, List.flatMap_map, List.map_flatMap, tags_leaf]
  have header : (headerMarks report.textless).map Mark.tag = (headerMarks report).map Mark.tag := by
    simp only [headerMarks, tags_element, List.map_append, tags_leaf,
      cells .th _ (columnText report)]
  have row (position : Nat) (category : String) :
      (rowMarks report.textless position "").map Mark.tag =
        (rowMarks report position category).map Mark.tag := by
    simp only [rowMarks, tags_element, List.map_append, tags_leaf,
      cells .td _ fun column => cell report.metric (column.value? position)]
  have rows : (rowsMarks report.textless).map Mark.tag = (rowsMarks report).map Mark.tag :=
    map_flatMap_zipIdx (fun category position => row position category) report.categories
  simp only [tableMarks, List.map_append, tags_leaf, tags_element, header, rows]

theorem tags_comparisonMarks (axis : Axis) (compared : Comparison) :
    (comparisonMarks axis compared.unnamed).map Mark.tag =
      (comparisonMarks axis compared).map Mark.tag := by
  have points : compared.unnamed.points = compared.points := rfl
  simp only [comparisonMarks, List.map_append, tags_leaf, tags_element, points]

/-- The tags of items that are written alike. -/
theorem tags_flatMap {α : Type} (marksOf : α → List Mark) {erase : α → α}
    (alike : ∀ item, (marksOf (erase item)).map Mark.tag = (marksOf item).map Mark.tag)
    {items others : List α} (same : items.map erase = others.map erase) :
    (items.flatMap marksOf).map Mark.tag = (others.flatMap marksOf).map Mark.tag := by
  have erased (items : List α) : (items.flatMap marksOf).map Mark.tag =
      (items.map erase).flatMap fun item => (marksOf item).map Mark.tag := by
    rw [List.map_flatMap, List.flatMap_map]
    exact congrArg (List.flatMap · items) (funext fun item => (alike item).symm)
  rw [erased items, erased others, same]

/-- The tags of a page depend on its reports and comparisons without their texts. -/
theorem tags_pageMarks {series other : Series} (axis : other.sweep.axis = series.sweep.axis)
    (missing : MissingPolicy) (timestamp moment : String) {reports others : List Report}
    (reported : others.map Report.textless = reports.map Report.textless)
    {comparisons candidates : List Comparison}
    (compared : candidates.map Comparison.unnamed = comparisons.map Comparison.unnamed) :
    (pageMarks other missing moment others candidates).map Mark.tag =
      (pageMarks series missing timestamp reports comparisons).map Mark.tag := by
  have charts := tags_flatMap (fun report => Chart.chartMarks report missing)
    (fun report => Chart.tags_chartMarks report missing) reported
  have tables := tags_flatMap tableMarks tags_tableMarks reported
  have lists := tags_flatMap (comparisonMarks series.sweep.axis)
    (tags_comparisonMarks series.sweep.axis) compared
  simp only [pageMarks, headMarks, bodyMarks, List.map_cons, List.map_append, tags_leaf,
    tags_element, axis, charts, tables, lists]

end Page

/-! ## A series without its texts -/

namespace Series

theorem projectable_textless_iff (series : Series) :
    series.textless.Projectable ↔ series.Projectable := by
  have endpoints : series.textless.endpoints.length = series.endpoints.length :=
    List.length_map ..
  constructor
  · rintro ⟨points, width⟩
    exact ⟨points, endpoints ▸ width⟩
  · rintro ⟨points, width⟩
    exact ⟨points, endpoints.symm ▸ width⟩

theorem columnsAt_textless (series : Series) (metric : Metric) :
    series.textless.columnsAt metric 0 series.textless.endpoints =
      (series.columnsAt metric 0 series.endpoints).map fun column => ("", column.2) := by
  have endpoints : series.textless.endpoints = series.endpoints.map fun _ => "" := rfl
  rw [columnsAt, columnsAt, endpoints, List.zipIdx_map, List.map_map, List.map_map]
  rfl

theorem reportOf_textless (series : Series) (metric : Metric) :
    (series.textless.reportOf metric).textless = (series.reportOf metric).textless := by
  have columns : (series.textless.reportOf metric).columns.map ReportColumn.unnamed =
      (series.reportOf metric).columns.map ReportColumn.unnamed := by
    simp only [reportOf, columnsAt_textless, List.map_map]
    rfl
  rw [Report.textless, Report.textless, columns]
  rfl

theorem comparisons_textless (series : Series) (metric : Metric) :
    (series.textless.metricOf metric).comparisons.map Comparison.unnamed =
      (series.metricOf metric).comparisons.map Comparison.unnamed := by
  rw [MetricColumns.comparisons, MetricColumns.comparisons, metricOf, metricOf, columnsAt_textless]
  cases series.columnsAt metric 0 series.endpoints with
  | nil => rfl
  | cons baseline candidates =>
    simp only [List.map_cons, List.map_map]
    rfl

/-- Each endpoint after the first is compared with it. -/
theorem headings_comparisons (series : Series) (metric : Metric) :
    (series.metricOf metric).comparisons.map Page.heading =
      series.endpoints.tail.map fun candidate =>
        s!"{candidate} vs {series.baselineName} ({metric.label})" := by
  rw [metricOf, MetricColumns.comparisons, baselineName]
  cases endpoints : series.endpoints with
  | nil => rfl
  | cons baseline candidates =>
    have columns : series.columnsAt metric 0 (baseline :: candidates) =
        (baseline, series.valuesAt metric 0) :: series.columnsAt metric 1 candidates := rfl
    have names : (series.columnsAt metric 1 candidates).map Prod.fst = candidates := by
      rw [columnsAt, List.map_map]
      exact List.zipIdx_map_fst 1 candidates
    rw [columns, List.map_map]
    calc _
      _ = ((series.columnsAt metric 1 candidates).map Prod.fst).map fun candidate =>
          s!"{candidate} vs {baseline} ({metric.label})" := List.map_map.symm
      _ = _ := congrArg (List.map _) names

theorem tags_page?_textless (series : Series) (missing : MissingPolicy) {timestamp moment : String}
    (plain : Plain timestamp) (plainMoment : Plain moment) :
    (series.textless.page? missing moment).map tags =
      (series.page? missing timestamp).map tags := by
  by_cases projectable : series.Projectable
  · have textless := (projectable_textless_iff series).mpr projectable
    have reported : (Metric.charted.map series.textless.reportOf).map Report.textless =
        (Metric.charted.map series.reportOf).map Report.textless := by
      rw [List.map_map, List.map_map]
      exact List.map_congr_left fun metric _ => series.reportOf_textless metric
    rw [page?_of_projectable textless, page?_of_projectable projectable, Option.map_some,
      Option.map_some, (Page.page_marked _ missing plainMoment _ _).tags,
      (Page.page_marked _ missing plain _ _).tags]
    have axis : series.textless.sweep.axis = series.sweep.axis := rfl
    exact congrArg some (Page.tags_pageMarks axis missing timestamp moment reported
      (series.comparisons_textless .throughput))
  · have none {other : Series} (not : ¬ other.Projectable) (timestamp : String) :
        other.page? missing timestamp = none := by
      rw [← Option.not_isSome_iff_eq_none, isSome_page?_iff]
      exact not
    rw [none projectable, none (mt (projectable_textless_iff series).mp projectable)]

end Series

/-- **No text from outside becomes markup.** The tags of a chart and of a page are those of one
without titles, names, labels and units; they are well nested; and the titles, labels and names are
shown as they were given. -/
theorem texts_never_become_markup {timestamp moment : String} (plain : Plain timestamp)
    (plainMoment : Plain moment) :
    (∀ (report : Report) (missing : MissingPolicy),
      tags (report.textless.chart missing) = tags (report.chart missing) ∧
      WellNested (tags (report.chart missing)) ∧
      contents "text" (report.chart missing) = Chart.texts report ∧
      contents "title" (report.chart missing) =
        (report.drawn missing).map (Chart.Place.title report.metric)) ∧
    ∀ (series : Series) (missing : MissingPolicy),
      (series.textless.page? missing moment).map tags =
        (series.page? missing timestamp).map tags ∧
      ∀ page, series.page? missing timestamp = some page →
        WellNested (tags page) ∧
        contents "h1" page = [series.sweep.title] ∧
        contents "h2" page =
          (Metric.charted.map fun metric => s!"{series.sweep.title}: {metric.label}")
            ++ (series.endpoints.tail.map fun candidate =>
              s!"{candidate} vs {series.baselineName} ({Metric.throughput.label})") ∧
        contents "th" page = (Metric.charted.flatMap fun metric =>
          series.sweep.axis.label :: series.endpoints.map fun name => s!"{name} ({metric.unit})") ∧
        (∀ metric, series.report? metric = some (series.reportOf metric)) ∧
        contents "text" page =
          (Metric.charted.flatMap fun metric => Chart.texts (series.reportOf metric)) ∧
        contents "title" page = series.sweep.title :: Metric.charted.flatMap fun metric =>
          ((series.reportOf metric).drawn missing).map (Chart.Place.title metric) := by
  constructor
  · intro report missing
    have marked := Chart.chart_marked report missing
    refine ⟨?_, ?_, ?_, ?_⟩
    · rw [marked.tags, (Chart.chart_marked report.textless missing).tags, Chart.tags_chartMarks]
    · rw [marked.tags]
      exact (Chart.balanced_chartMarks report missing).wellNested
    · rw [contents, marked.read, Chart.texts_chartMarks]
    · rw [contents, marked.read, Chart.titles_chartMarks]
  · intro series missing
    refine ⟨series.tags_page?_textless missing plain plainMoment, ?_⟩
    intro page written
    have projectable : series.Projectable := by
      rw [← Series.isSome_page?_iff series missing timestamp, written]
      rfl
    rw [Series.page?_of_projectable projectable] at written
    cases written
    have marked := Page.page_marked series missing plain (Metric.charted.map series.reportOf)
      (series.metricOf .throughput).comparisons
    refine ⟨?_, ?_, ?_, ?_, Series.report?_of_projectable projectable, ?_, ?_⟩
    · rw [marked.tags]
      exact (Page.balanced_pageMarks _ _ _ _ _).wellNested
    · rw [contents, marked.read, Page.contentsOf_pageMarks (by decide)]
      simp [flatMap_nothing]
    · rw [contents, marked.read, Page.contentsOf_pageMarks (by decide),
        ← series.headings_comparisons]
      simp [flatMap_nothing, ← List.map_eq_flatMap]
      exact fun metric _ => rfl
    · rw [contents, marked.read, Page.contentsOf_pageMarks (by decide)]
      simp [flatMap_nothing, List.flatMap_map, Series.headerCells_reportOf]
    · rw [contents, marked.read, Page.contentsOf_pageMarks (by decide)]
      simp [flatMap_nothing, List.flatMap_map]
    · rw [contents, marked.read, Page.contentsOf_pageMarks (by decide)]
      simp [flatMap_nothing, List.flatMap_map]
      rfl

/-- A series whose title and names are full of markup. -/
def markedUpSeries : Series :=
  { sweep :=
      { name := "get"
        title := "</h1><script>&lt;"
        operation := .get
        axis := .clients
        points := [⟨1, 1, 1000⟩] }
    endpoints := ["a<b>", "\x22c\x22 &amp; 'd'"]
    rows := [[.empty, .empty]] }

/-- The page of that series is well nested and shows the title and the names as they are. -/
theorem markedUpSeries_is_shown :
    ∃ page, markedUpSeries.page? .gap "2026-01-02 03:04:05" = some page ∧
      WellNested (tags page) ∧ contents "h1" page = ["</h1><script>&lt;"] ∧
      contents "h2" page =
        ["</h1><script>&lt;: Throughput", "</h1><script>&lt;: Latency p50",
          "\x22c\x22 &amp; 'd' vs a<b> (Throughput)"] := by
  have projectable : markedUpSeries.Projectable := ⟨by decide, by decide⟩
  have written := Series.page?_of_projectable projectable .gap "2026-01-02 03:04:05"
  have plain : Plain "2026-01-02 03:04:05" := by decide
  obtain ⟨-, shown⟩ := (texts_never_become_markup plain plain).2 markedUpSeries .gap
  obtain ⟨nested, heading, headings, -⟩ := shown _ written
  exact ⟨_, written, nested, heading, headings.trans (by decide)⟩

end LoadSweep
