/-!
# Metrics

The benchmark client reports six numbers about a run.  Each has a key for datasets and file names,
a label for people, a unit in which it is shown and a direction in which it improves.  Values are
kept as the client printed them; only the throughput is shown in another unit.
-/

namespace LoadSweep

set_option autoImplicit false

/-- A number that the benchmark client reports about a run. -/
inductive Metric where
  | throughput
  | latencyP50
  | latencyAvg
  | latencyP95
  | latencyP99
  | latencyMax
  deriving Repr, DecidableEq, Inhabited

namespace Metric

/-- Every metric, in report order. -/
def all : List Metric :=
  [throughput, latencyP50, latencyAvg, latencyP95, latencyP99, latencyMax]

/-- The metrics that are tabled and charted. -/
def charted : List Metric :=
  [throughput, latencyP50]

/-- The name of a metric in datasets and file names. -/
def key : Metric → String
  | throughput => "throughput_ops_per_sec"
  | latencyP50 => "latency_p50_ms"
  | latencyAvg => "latency_avg_ms"
  | latencyP95 => "latency_p95_ms"
  | latencyP99 => "latency_p99_ms"
  | latencyMax => "latency_max_ms"

/-- The name of a metric for people. -/
def label : Metric → String
  | throughput => "Throughput"
  | latencyP50 => "Latency p50"
  | latencyAvg => "Latency avg"
  | latencyP95 => "Latency p95"
  | latencyP99 => "Latency p99"
  | latencyMax => "Latency max"

/-- The unit in which values are shown. -/
def unit : Metric → String
  | throughput => "Kops/sec"
  | _ => "msec"

/-- A value in the unit in which it is shown. -/
def display : Metric → Float → Float
  | throughput, raw => raw / 1000.0
  | _, raw => raw

/-- The number of decimal places with which a value is shown. -/
def places : Metric → Nat
  | throughput => 2
  | _ => 3

/-- Whether a larger value is better. -/
def higherIsBetter : Metric → Bool
  | throughput => true
  | _ => false

/-- The metric with a given key. -/
def ofKey? (key : String) : Option Metric :=
  all.find? fun metric => metric.key == key

theorem mem_all (metric : Metric) : metric ∈ all := by
  cases metric <;> decide

theorem ofKey?_key (metric : Metric) : ofKey? metric.key = some metric := by
  cases metric <;> decide

end Metric

end LoadSweep
