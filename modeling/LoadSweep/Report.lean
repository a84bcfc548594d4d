import LoadSweep.Series

/-!
# Reports

A report is one metric of a series made ready for display: labels in point order, and for each
endpoint a column of values in the unit in which the metric is shown.  A column may be shorter than
the list of labels; then the values at its end are missing.
-/

namespace LoadSweep

set_option autoImplicit false

/-- The values of one endpoint, in the unit in which they are shown. -/
structure ReportColumn where
  endpoint : String
  values : List (Option Float)
  deriving Inhabited

/-- One metric of a series, ready for display. -/
structure Report where
  /-- The identifier of the sweep. -/
  sweep : String
  title : String
  axisLabel : String
  metric : Metric
  unit : String
  categories : List String
  columns : List ReportColumn
  deriving Inhabited

namespace Report

/-- The label of the values. -/
def valueLabel (report : Report) : String :=
  s!"{report.metric.label} ({report.unit})"

end Report

/-- The value at a position, if there is one. -/
def ReportColumn.value? (column : ReportColumn) (position : Nat) : Option Float :=
  (column.values[position]?).join

/-- The greater of a number and an earlier one; a NaN gives way to any number. -/
def greater (earlier value : Float) : Float :=
  if earlier.isNaN || earlier < value then value else earlier

/-- The values of a report that are present, column by column. -/
def Report.present (report : Report) : List Float :=
  report.columns.flatMap fun column => column.values.filterMap id

/-- The greatest value of a report. -/
def Report.maximum? (report : Report) : Option Float :=
  match report.present with
  | [] => none
  | value :: values => some (values.foldl greater value)

/-- The report of one metric of a series. -/
def Series.report? (series : Series) (metric : Metric) : Option Report :=
  (series.metric? metric).map fun projected =>
    { sweep := series.sweep.name
      title := s!"{series.sweep.title}: {metric.label}"
      axisLabel := series.sweep.axis.label
      metric := metric
      unit := metric.unit
      categories := projected.categories
      columns := projected.columns.map fun (endpoint, values) =>
        ⟨endpoint, values.map fun value => value.map metric.display⟩ }

end LoadSweep
