import LoadSweep.Series

/-!
# Comparison with the baseline

The first endpoint of a series is the baseline, and every other endpoint is compared with it point
by point for one metric.  Whether a change is better depends on the direction of the metric.
-/

namespace LoadSweep

set_option autoImplicit false

/-- How a candidate did at a point. -/
inductive Verdict where
  | better
  | worse
  | equal
  /-- A value is missing. -/
  | missing
  deriving Repr, DecidableEq, Inhabited

/-- The verdict as an answer names it. -/
def Verdict.key : Verdict → String
  | better => "better"
  | worse => "worse"
  | equal => "equal"
  | missing => "missing"

/-- The comparison of one point. -/
structure PointComparison where
  category : String
  baseline : Option Float
  candidate : Option Float
  /-- The change in percent of the baseline, unless a value is missing or the baseline is zero. -/
  change : Option Float
  verdict : Verdict

/-- The comparison of one endpoint with the baseline. -/
structure Comparison where
  baseline : String
  candidate : String
  metric : Metric
  points : List PointComparison
  /-- The mean of the changes that there are. -/
  meanChange : Option Float

namespace Comparison

/-- The change in percent of a baseline that is not zero. -/
def change? (baseline candidate : Float) : Option Float :=
  if baseline != 0.0 then some ((candidate - baseline) / baseline * 100.0) else none

/-- How a candidate did where both values are present. -/
def judge (metric : Metric) (baseline candidate : Float) : Verdict :=
  if candidate == baseline then .equal
  else if decide (baseline < candidate) == metric.higherIsBetter then .better
  else .worse

/-- Compares one point. -/
def comparePoint (metric : Metric) (category : String) (baseline candidate : Option Float) :
    PointComparison :=
  match baseline, candidate with
  | some b, some c => ⟨category, baseline, candidate, change? b c, judge metric b c⟩
  | _, _ => ⟨category, baseline, candidate, none, .missing⟩

/-- Compares the points with given labels. -/
def comparePoints (metric : Metric) : List String → List (Option Float) → List (Option Float) →
    List PointComparison
  | category :: categories, baseline :: baselines, candidate :: candidates =>
    comparePoint metric category baseline candidate
      :: comparePoints metric categories baselines candidates
  | _, _, _ => []

/-- The mean of numbers, if there are any. -/
def mean? (values : List Float) : Option Float :=
  if values.isEmpty then none
  else some (values.foldl (· + ·) (-0.0) / Float.ofNat values.length)

/-- Compares one column with the baseline's. -/
def ofColumns (metric : Metric) (categories : List String)
    (baseline candidate : String × List (Option Float)) : Comparison :=
  let points := comparePoints metric categories baseline.2 candidate.2
  { baseline := baseline.1
    candidate := candidate.1
    metric := metric
    points := points
    meanChange := mean? (points.filterMap PointComparison.change) }

/-- The number of points with a verdict. -/
def count (comparison : Comparison) (verdict : Verdict) : Nat :=
  (comparison.points.filter fun point => point.verdict == verdict).length

/-- The points where the candidate did better. -/
def wins (comparison : Comparison) : Nat :=
  comparison.count .better

/-- The points where the candidate did worse. -/
def losses (comparison : Comparison) : Nat :=
  comparison.count .worse

end Comparison

/-- The comparisons of the endpoints after the first with it. -/
def MetricColumns.comparisons (columns : MetricColumns) : List Comparison :=
  match columns.columns with
  | [] => []
  | baseline :: candidates =>
    candidates.map (Comparison.ofColumns columns.metric columns.categories baseline)

/-- The comparisons of a series for a metric. -/
def Series.comparisons? (series : Series) (metric : Metric) : Option (List Comparison) :=
  (series.metric? metric).map MetricColumns.comparisons

end LoadSweep
