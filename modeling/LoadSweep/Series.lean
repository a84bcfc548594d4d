import LoadSweep.Fault
import LoadSweep.Sample
import LoadSweep.Sweep

/-!
# Series

A series holds what a sweep has yielded so far: one row for each completed point, in order, with
one sample for each endpoint.  A row is appended whole or not at all, so every column has the same
length and an index means the same point everywhere.

A dataset may hold more rows than points, or rows shorter than the list of endpoints.  The
projections of such a series have no value, and `none` says so.
-/

namespace LoadSweep

set_option autoImplicit false

/-- What a sweep has yielded so far. -/
structure Series where
  sweep : Sweep
  /-- The names of the endpoints in column order; the first is the baseline. -/
  endpoints : List String
  rows : List (List Sample)

/-- One metric of a series: a value or a gap for each point, by endpoint. -/
structure MetricColumns where
  metric : Metric
  axis : Axis
  categories : List String
  columns : List (String × List (Option Float))

namespace Series

/-- A series without rows. -/
def start (sweep : Sweep) (endpoints : List String) : Series :=
  ⟨sweep, endpoints, []⟩

/-- The number of completed points. -/
def length (series : Series) : Nat :=
  series.rows.length

/-- Whether every point is completed. -/
def isComplete (series : Series) : Bool :=
  series.length == series.sweep.length

/-- Appends the samples of the next point, one for each endpoint. -/
def push (series : Series) (samples : List Sample) : Except Fault Series :=
  if samples.length ≠ series.endpoints.length then
    .error (Misalignment.rowWidth series.length series.sweep.name samples.length
      series.endpoints.length).fault
  else if series.sweep.length ≤ series.length then
    .error (Misalignment.rowBeyondSweep series.sweep.name series.sweep.length).fault
  else .ok { series with rows := series.rows ++ [samples] }

/-- The completed points. -/
def points? (series : Series) : Option (List Point) :=
  if series.length ≤ series.sweep.length then some (series.sweep.points.take series.length)
  else none

/-- The labels of the completed points. -/
def categories? (series : Series) : Option (List String) :=
  series.points?.map fun points => points.map (Point.category series.sweep.axis)

/-- The position of an endpoint. -/
def endpointIndex? (series : Series) (name : String) : Option Nat :=
  series.endpoints.findIdx? (· == name)

/-- The samples of a point. -/
def row? (series : Series) (point : Nat) : Option (List Sample) :=
  series.rows[point]?

/-- The sample of a point and an endpoint. -/
def sample? (series : Series) (point endpoint : Nat) : Option Sample :=
  (series.row? point).bind fun row => row[endpoint]?

/-- The values of a metric at one position of every row. -/
def column? (series : Series) (metric : Metric) (endpoint : Nat) : Option (List (Option Float)) :=
  series.rows.mapM fun row => (row[endpoint]?).map fun sample => sample.get metric

/-- The columns for the endpoints from a position on. -/
def columnsFrom? (series : Series) (metric : Metric) (position : Nat) :
    List String → Option (List (String × List (Option Float)))
  | [] => some []
  | name :: names =>
    (series.column? metric position).bind fun values =>
      (series.columnsFrom? metric (position + 1) names).map ((name, values) :: ·)

/-- One metric, by endpoint. -/
def metric? (series : Series) (metric : Metric) : Option MetricColumns :=
  (series.columnsFrom? metric 0 series.endpoints).bind fun columns =>
    series.categories?.map fun categories => ⟨metric, series.sweep.axis, categories, columns⟩

end Series

/-- The values of an endpoint. -/
def MetricColumns.values? (columns : MetricColumns) (name : String) :
    Option (List (Option Float)) :=
  columns.columns.lookup name

end LoadSweep
