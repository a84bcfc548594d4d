import LoadSweep.Json.Reader
import LoadSweep.Json.Writer
import LoadSweep.Series
import LoadSweep.Settings.Decoding

/-!
# Datasets

A dataset is a series as JSON.  Writing and reading it back keeps the sweep, the order of endpoints
and rows, and every sample; an infinite value or a NaN, for which JSON has no numeral, comes back as
missing.
-/

namespace LoadSweep

set_option autoImplicit false

open Json Document

/-- The tree of a point. -/
def Point.toJson (point : Point) : Json :=
  ofMembers [("clients", ofNat point.clients.toNat), ("pipeline", ofNat point.pipeline.toNat),
    ("requests", ofNat point.requests.toNat)]

/-- The tree of a sweep. -/
def Sweep.toJson (sweep : Sweep) : Json :=
  ofMembers [("name", ofString sweep.name), ("title", ofString sweep.title),
    ("operation", ofString sweep.operation.key), ("axis", ofString sweep.axis.key),
    ("points", .array (sweep.points.map Point.toJson))]

/-- The tree of the value of a metric. -/
def Sample.valueToJson : Option Float → Json
  | some value => ofFloat value
  | none => .null

/-- The values that a sample mentions, by key of the metric. -/
def Sample.valuesToJson (sample : Sample) : Json :=
  ofMembers (sample.entries.map fun (metric, value) => (metric.key, valueToJson value))

/-- The tree of a sample. -/
def Sample.toJson (sample : Sample) : Json :=
  ofMembers [("values", sample.valuesToJson)]

/-- The tree of a series. -/
def Series.toJson (series : Series) : Json :=
  ofMembers [("sweep", series.sweep.toJson), ("endpoints", .array (series.endpoints.map ofString)),
    ("rows", .array (series.rows.map fun row => .array (row.map Sample.toJson)))]

/-- The text of a dataset. -/
def Series.dataset (series : Series) : String :=
  series.toJson.pretty

/-- Reads a point. -/
def Point.ofDocument? (document : Document) : Option Point := do
  let fields ← document.fields? ["clients", "pipeline", "requests"]
  let clients ← fields.required? "clients" word32?
  let pipeline ← fields.required? "pipeline" word32?
  let requests ← fields.required? "requests" word64?
  return { clients, pipeline, requests }

/-- Reads a sweep. -/
def Sweep.ofDocument? (document : Document) : Option Sweep := do
  let fields ← document.fields? ["name", "title", "operation", "axis", "points"]
  let name ← fields.required? "name" text?
  let title ← fields.required? "title" text?
  let operation ← fields.required? "operation" Operation.ofDocument?
  let axis ← fields.required? "axis" Axis.ofDocument?
  let points ← fields.required? "points" (listOf? Point.ofDocument?)
  return { name, title, operation, axis, points }

/-- Reads the value of a metric. -/
def Sample.valueOfDocument? : Document → Option (Option Float)
  | .null => some none
  | document => document.number?.map some

/-- Adds an entry to a sample; of several entries for one metric the last counts. -/
def Sample.addEntry? (sample : Sample) (entry : Document × Document) : Option Sample := do
  let metric ← Metric.ofKey? (← entry.1.text?)
  let value ← valueOfDocument? entry.2
  return sample.set metric value

/-- Reads the values of a sample.  Unlike a field, a metric that is not known is refused. -/
def Sample.valuesOfDocument? : Document → Option Sample
  | .record _ entries => entries.foldlM addEntry? blank
  | _ => none

/-- Reads a sample. -/
def Sample.ofDocument? (document : Document) : Option Sample := do
  let fields ← document.fields? ["values"]
  fields.required? "values" valuesOfDocument?

/-- Reads a series. -/
def Series.ofDocument? (document : Document) : Option Series := do
  let fields ← document.fields? ["sweep", "endpoints", "rows"]
  let sweep ← fields.required? "sweep" Sweep.ofDocument?
  let endpoints ← fields.required? "endpoints" (listOf? text?)
  let rows ← fields.required? "rows" (listOf? (listOf? Sample.ofDocument?))
  return { sweep, endpoints, rows }

/-- Reads the document of a JSON text. -/
def Document.ofJsonText? (text : String) : Option Document :=
  (Json.read? text).map ofJson

/-- Reads a dataset. -/
def Series.ofDataset (text : String) : Except Fault Series :=
  match (ofJsonText? text).bind ofDocument? with
  | some series => .ok series
  | none => .error (.document "the dataset does not hold a series")

/-- Reads a sample from JSON. -/
def Sample.ofJsonText (text : String) : Except Fault Sample :=
  match (ofJsonText? text).bind ofDocument? with
  | some sample => .ok sample
  | none => .error (.document "the text does not hold a sample")

end LoadSweep
