import LoadSweep.Metric

/-!
# Samples

A sample holds what one run yielded: for each metric a value, or the knowledge that it was not
found, which is not the same as a measured zero.  A sample built here carries all six metrics; one
read from a dataset may lack some altogether, and then they are not found either.  The view of a
sample is `get`, and `set` changes it at one metric only.
-/

namespace LoadSweep

set_option autoImplicit false

/-- What one run yielded.  A slot is `none` if the sample does not mention the metric and
`some none` if it says that the metric was not found. -/
structure Sample where
  slot : Metric → Option (Option Float)

namespace Sample

/-- The sample that mentions no metric. -/
def blank : Sample := ⟨fun _ => none⟩

/-- The sample that found no metric. -/
def empty : Sample := ⟨fun _ => some none⟩

/-- The value of a metric, if it was found. -/
def get (sample : Sample) (metric : Metric) : Option Float :=
  (sample.slot metric).join

/-- A sample with another value for one metric. -/
def set (sample : Sample) (metric : Metric) (value : Option Float) : Sample :=
  ⟨fun other => if other = metric then some value else sample.slot other⟩

/-- A sample with one metric found. -/
def withValue (sample : Sample) (metric : Metric) (value : Float) : Sample :=
  sample.set metric (some value)

/-- The metrics that a sample mentions with their values, in report order. -/
def entries (sample : Sample) : List (Metric × Option Float) :=
  Metric.all.filterMap fun metric => (sample.slot metric).map fun value => (metric, value)

/-- The number of metrics that were found. -/
def foundCount (sample : Sample) : Nat :=
  (sample.entries.filter fun entry => entry.2.isSome).length

/-- Whether no metric was found. -/
def isEmpty (sample : Sample) : Bool :=
  sample.foundCount == 0

/-- Without anything known of a run, no metric was found. -/
instance : Inhabited Sample := ⟨empty⟩

/-- Samples are equal if they mention the same metrics with equal values.  Values are compared as
numbers: both zeros are equal, and a NaN is not equal to itself. -/
instance : BEq Sample := ⟨fun sample other => sample.entries == other.entries⟩

theorem slot_set_self {sample : Sample} {metric : Metric} {value : Option Float} :
    (sample.set metric value).slot metric = some value :=
  if_pos rfl

theorem slot_set_of_ne {sample : Sample} {metric other : Metric} {value : Option Float}
    (different : other ≠ metric) : (sample.set metric value).slot other = sample.slot other :=
  if_neg different

theorem get_set (sample : Sample) (metric other : Metric) (value : Option Float) :
    (sample.set metric value).get other = if other = metric then value else sample.get other := by
  by_cases same : other = metric <;> simp [get, set, same]

end Sample

end LoadSweep
