import LoadSweep.Endpoint
import LoadSweep.Report.Cell
import LoadSweep.Sample
import LoadSweep.Sweep.Point
import LoadSweep.Text.Blank

/-!
# Lines of the result log

The result log has a section for each sweep: an empty line, a header with time, title and
endpoints, and one line for each completed point.  An interrupted sweep ends with a marker.
-/

namespace LoadSweep

open LoadSweep.Text LoadSweep.Number

set_option autoImplicit false

/-- The header of a section, after the empty line that sets it off. -/
def sectionHeader (timestamp title : String) (endpoints : List Endpoint) : String :=
  s!"\n=== {timestamp} | {title} | " ++ joined " " (endpoints.map Endpoint.assignment) ++ " ==="

/-- A value with its unit. -/
def measuredText (sample : Sample) (metric : Metric) : String :=
  match sample.get metric with
  | some raw =>
    let shown := metric.display raw
    match metric with
    | .throughput => s!"{fixed 2 shown} {metric.unit}"
    | _ => s!"{fixed 3 shown} {metric.unit}"
  | none => missingText

/-- What a line says about one endpoint. -/
def endpointText (name : String) (sample : Sample) : String :=
  s!" | {name}: throughput={measuredText sample .throughput} "
    ++ s!"p50={measuredText sample .latencyP50}"

/-- The line for a completed point. -/
def pointLine (axis : Axis) (point : Point) (endpoints : List String) (samples : List Sample) :
    String :=
  s!"{axis.label}: {point.category axis}"
    ++ String.join (List.zipWith endpointText endpoints samples)

/-- The line that ends the section of an interrupted sweep. -/
def abortMarker (completed declared : Nat) : String :=
  s!"--- aborted after {completed} of {declared} points ---"

end LoadSweep
