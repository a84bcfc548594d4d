import LoadSweep.Proofs.Report.PageMarks
import LoadSweep.Proofs.Series.Projections
import LoadSweep.Report.Table

/-!
# Reports of a series

A series that can be projected has a report of every metric (`report?_of_projectable`), comparisons
with its baseline and a page (`page?_of_projectable`); any other series has none of them
(`isSome_page?_iff`).
-/

namespace LoadSweep

set_option autoImplicit false

namespace Series

/-- The columns of a metric, for a series that can be projected. -/
def metricOf (series : Series) (metric : Metric) : MetricColumns :=
  ⟨metric, series.sweep.axis, series.sweep.categories.take series.length,
    series.columnsAt metric 0 series.endpoints⟩

/-- The report of a metric, for a series that can be projected. -/
def reportOf (series : Series) (metric : Metric) : Report :=
  { sweep := series.sweep.name
    title := s!"{series.sweep.title}: {metric.label}"
    axisLabel := series.sweep.axis.label
    metric := metric
    unit := metric.unit
    categories := series.sweep.categories.take series.length
    columns := (series.columnsAt metric 0 series.endpoints).map fun (endpoint, values) =>
      ⟨endpoint, values.map fun value => value.map metric.display⟩ }

variable {series : Series}

theorem report?_of_projectable (projectable : series.Projectable) (metric : Metric) :
    series.report? metric = some (series.reportOf metric) := by
  rw [report?, metric?_of_projectable projectable]
  rfl

theorem reports_of_projectable (projectable : series.Projectable) :
    Metric.charted.mapM series.report? = some (Metric.charted.map series.reportOf) :=
  mapM_of_reads fun metric _ => report?_of_projectable projectable metric

theorem comparisons?_of_projectable (projectable : series.Projectable) (metric : Metric) :
    series.comparisons? metric = some (series.metricOf metric).comparisons := by
  rw [comparisons?, metric?_of_projectable projectable]
  rfl

theorem page?_of_projectable (projectable : series.Projectable) (missing : MissingPolicy)
    (timestamp : String) :
    series.page? missing timestamp = some (Page.text series missing timestamp
      (Metric.charted.map series.reportOf) (series.metricOf .throughput).comparisons) :=
  (Page.page?_eq_some_iff ..).mpr ⟨_, _, reports_of_projectable projectable,
    comparisons?_of_projectable projectable .throughput, rfl⟩

theorem isSome_page?_iff (series : Series) (missing : MissingPolicy) (timestamp : String) :
    (series.page? missing timestamp).isSome = true ↔ series.Projectable := by
  constructor
  · intro shown
    obtain ⟨page, written⟩ := Option.isSome_iff_exists.mp shown
    obtain ⟨reports, comparisons, -, compared, -⟩ :=
      (Page.page?_eq_some_iff series missing timestamp page).mp written
    rw [← isSome_comparisons?_iff series .throughput, compared]
    rfl
  · intro projectable
    rw [page?_of_projectable projectable]
    rfl

/-- The names of the columns of a report are the endpoints. -/
theorem endpoints_reportOf (series : Series) (metric : Metric) :
    (series.reportOf metric).columns.map ReportColumn.endpoint = series.endpoints := by
  rw [reportOf, columnsAt, List.map_map, List.map_map]
  exact List.zipIdx_map_fst 0 series.endpoints

theorem headerCells_reportOf (series : Series) (metric : Metric) :
    (series.reportOf metric).headerCells =
      series.sweep.axis.label :: series.endpoints.map fun name => s!"{name} ({metric.unit})" := by
  conv_rhs => rw [← series.endpoints_reportOf metric, List.map_map]
  rfl

end Series

end LoadSweep
