import LoadSweep.Document
import LoadSweep.Settings

/-!
# Decoding settings

Every section and most fields of a configuration may be left out and then have their defaults.  A
request rule names its kind in the field `rule` beside the fields of that kind, so the types of its
scalars are decided before the kind is known.
-/

namespace LoadSweep

set_option autoImplicit false

open Document

/-- Reads a 16-bit number. -/
def Document.word16? (document : Document) : Option UInt16 :=
  (document.natural? UInt16.size).map UInt16.ofNat

/-- Reads a 32-bit number. -/
def Document.word32? (document : Document) : Option UInt32 :=
  (document.natural? UInt32.size).map UInt32.ofNat

/-- Reads a 64-bit number. -/
def Document.word64? (document : Document) : Option UInt64 :=
  (document.natural? UInt64.size).map UInt64.ofNat

/-- Reads an endpoint. -/
def Endpoint.ofDocument? (document : Document) : Option Endpoint := do
  let fields ← document.fields? ["name", "host", "port"]
  let name ← fields.required? "name" text?
  let host ← fields.required? "host" text?
  let port ← fields.required? "port" word16?
  return { name, host, port }

/-- Reads a benchmarked command. -/
def Operation.ofDocument? (document : Document) : Option Operation :=
  document.choice?.bind ofKey?

/-- Reads an axis. -/
def Axis.ofDocument? (document : Document) : Option Axis :=
  document.choice?.bind ofKey?

/-- Reads a policy for missing values. -/
def MissingPolicy.ofDocument? (document : Document) : Option MissingPolicy :=
  document.choice?.bind ofKey?

namespace RequestRule

/-- How deep a document may be nested, given whether its types are decided. -/
def nestingLimit (decided : Bool) : Nat :=
  if decided then 127 else 128

/-- The lists and records around a rule in a configuration. -/
def enclosing : Nat := 3

/-- Reads a line of a request table. -/
def entryOfDocument? (document : Document) : Option RequestEntry := do
  let fields ← document.fields? ["value", "requests"]
  let value ← fields.required? "value" word32?
  let requests ← fields.required? "requests" word64?
  return { value, requests }

/-- Reads the fields of a kind of rule. -/
def ofKind? (kind : String) (document : Document) : Option RequestRule :=
  if kind == "fixed" then do
    let fields ← document.fields? ["count"]
    return fixed (← fields.required? "count" word64?)
  else if kind == "per_point" then do
    let fields ← document.fields? ["counts"]
    return perPoint (← fields.required? "counts" (listOf? entryOfDocument?))
  else if kind == "scaled" then do
    let fields ← document.fields? ["per_unit", "min", "max"]
    let perUnit ← fields.required? "per_unit" word64?
    let low ← fields.required? "min" word64?
    let high ← fields.required? "max" word64?
    return scaled perUnit low high
  else none

/-- The kind of a rule and its other entries with decided types.  The kind is a text however it is
written. -/
def splitKind? (room : Nat) : List (Document × Document) →
    Option (Option String × List (Document × Document))
  | [] => some (none, [])
  | (key, value) :: rest => do
    let key ← settle? room key
    if key.text? == some "rule" then
      let kind ← value.text?
      match ← splitKind? room rest with
      | (none, entries) => some (some kind, entries)
      | (some _, _) => none
    else
      let value ← settle? room value
      let (kind, entries) ← splitKind? room rest
      return (kind, (key, value) :: entries)

/-- Reads a rule: a record with its kind among the fields, or a list that starts with the kind. -/
def ofDocument? : Document → Option RequestRule
  | .record decided entries => do
    let (kind, entries) ← splitKind? (nestingLimit decided - enclosing - 1) entries
    ofKind? (← kind) (.record true entries)
  | .list decided (kind :: items) => do
    let items ← settleItems? (nestingLimit decided - enclosing - 1) items
    ofKind? (← kind.text?) (.list true items)
  | _ => none

end RequestRule

/-- Reads a declared sweep. -/
def SweepDeclaration.ofDocument? (document : Document) : Option SweepDeclaration := do
  let fields ← document.fields?
    ["name", "title", "operation", "axis", "values", "clients", "pipeline", "requests"]
  let name ← fields.required? "name" text?
  let title ← fields.required? "title" text?
  let operation ← fields.required? "operation" Operation.ofDocument?
  let axis ← fields.required? "axis" Axis.ofDocument?
  let values ← fields.required? "values" (listOf? word32?)
  let clients ← fields.optional? "clients" defaultClients word32?
  let pipeline ← fields.optional? "pipeline" defaultPipeline word32?
  let requests ← fields.required? "requests" RequestRule.ofDocument?
  return { name, title, operation, axis, values, clients, pipeline, requests }

/-- Reads how the client is called. -/
def ClientSettings.ofDocument? (document : Document) : Option ClientSettings := do
  let absent : ClientSettings := {}
  let fields ← document.fields? ["program", "extra_args", "timeout_secs", "warmup"]
  let program ← fields.optional? "program" absent.program text?
  let extraArguments ← fields.optional? "extra_args" absent.extraArguments (listOf? text?)
  let timeoutSeconds ← fields.optional? "timeout_secs" absent.timeoutSeconds word64?
  let warmup ← fields.optional? "warmup" absent.warmup flag?
  return { program, extraArguments, timeoutSeconds, warmup }

/-- Reads how the endpoints are probed. -/
def ProbeSettings.ofDocument? (document : Document) : Option ProbeSettings := do
  let absent : ProbeSettings := {}
  let fields ← document.fields? ["timeout_ms"]
  let timeoutMilliseconds ← fields.optional? "timeout_ms" absent.timeoutMilliseconds word64?
  return { timeoutMilliseconds }

/-- Reads where results go. -/
def OutputSettings.ofDocument? (document : Document) : Option OutputSettings := do
  let absent : OutputSettings := {}
  let fields ← document.fields? ["log_path", "report_dir", "null_policy", "charts"]
  let logPath ← fields.optional? "log_path" absent.logPath text?
  let reportDirectory ← fields.optional? "report_dir" absent.reportDirectory text?
  let missing ← fields.optional? "null_policy" absent.missing MissingPolicy.ofDocument?
  let charts ← fields.optional? "charts" absent.charts flag?
  return { logPath, reportDirectory, missing, charts }

/-- Reads settings. -/
def Settings.ofDocument? (document : Document) : Option Settings := do
  let absent : Settings := {}
  let fields ← document.fields? ["endpoints", "client", "probe", "sweeps", "output"]
  let endpoints ← fields.optional? "endpoints" absent.endpoints (listOf? Endpoint.ofDocument?)
  let client ← fields.optional? "client" absent.client ClientSettings.ofDocument?
  let probe ← fields.optional? "probe" absent.probe ProbeSettings.ofDocument?
  let sweeps ← fields.optional? "sweeps" absent.sweeps (listOf? SweepDeclaration.ofDocument?)
  let output ← fields.optional? "output" absent.output OutputSettings.ofDocument?
  return { endpoints, client, probe, sweeps, output }

end LoadSweep
