import LoadSweep.Sample
import LoadSweep.Scrape.LatencyTable

/-!
# Metrics in client output

The client has no structured output, so its metrics are scraped from text.  Every metric is looked
up on its own and is missing if it is not found; nothing is ever refused.  Progress lines are
redrawn with bare carriage returns, which end a line as line feeds do.
-/

namespace LoadSweep

open LoadSweep.Text LoadSweep.Scrape

set_option autoImplicit false

/-- A text in which carriage returns are line feeds. -/
def unifyLineEnds (text : List Char) : List Char :=
  text.map fun c => if c == '\r' then '\n' else c

/-- The value of one metric in a text and its latency table. -/
def findMetric? (text : List Char) (columns : Option (List (List Char × Float))) :
    Metric → Option Float
  | .throughput => figure? throughputAt? text
  | .latencyP50 => (figure? medianAt? text).or (column? columns "p50")
  | .latencyAvg => column? columns "avg"
  | .latencyP95 => column? columns "p95"
  | .latencyP99 => column? columns "p99"
  | .latencyMax => column? columns "max"

/-- What the output of a run yields. -/
def scrape (output : List Char) : Sample :=
  let text := unifyLineEnds output
  let columns := latencyColumns? text
  Metric.all.foldl (fun sample metric => sample.set metric (findMetric? text columns metric))
    Sample.empty

/-- What the output of a run yields. -/
def Sample.ofOutput (output : String) : Sample :=
  scrape output.toList

end LoadSweep
