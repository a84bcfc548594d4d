import LoadSweep.Json.Writer
import LoadSweep.Settings

/-!
# Encoding settings

Settings are written with all their fields in the order of their declaration, as one tree for every
format.
-/

namespace LoadSweep

set_option autoImplicit false

open Json

/-- The tree of an endpoint. -/
def Endpoint.toJson (endpoint : Endpoint) : Json :=
  ofMembers [("name", ofString endpoint.name), ("host", ofString endpoint.host),
    ("port", ofNat endpoint.port.toNat)]

/-- The tree of a request rule: its kind and the fields of that kind. -/
def RequestRule.toJson : RequestRule → Json
  | .fixed count => ofMembers [("rule", ofString "fixed"), ("count", ofNat count.toNat)]
  | .perPoint entries =>
    ofMembers [("rule", ofString "per_point"),
      ("counts", .array (entries.map fun entry =>
        ofMembers [("value", ofNat entry.value.toNat), ("requests", ofNat entry.requests.toNat)]))]
  | .scaled perUnit low high =>
    ofMembers [("rule", ofString "scaled"), ("per_unit", ofNat perUnit.toNat),
      ("min", ofNat low.toNat), ("max", ofNat high.toNat)]

/-- The tree of a declared sweep. -/
def SweepDeclaration.toJson (declaration : SweepDeclaration) : Json :=
  ofMembers [("name", ofString declaration.name), ("title", ofString declaration.title),
    ("operation", ofString declaration.operation.key), ("axis", ofString declaration.axis.key),
    ("values", .array (declaration.values.map fun value => ofNat value.toNat)),
    ("clients", ofNat declaration.clients.toNat), ("pipeline", ofNat declaration.pipeline.toNat),
    ("requests", declaration.requests.toJson)]

/-- The tree of how the client is called. -/
def ClientSettings.toJson (client : ClientSettings) : Json :=
  ofMembers [("program", ofString client.program),
    ("extra_args", .array (client.extraArguments.map ofString)),
    ("timeout_secs", ofNat client.timeoutSeconds.toNat), ("warmup", .flag client.warmup)]

/-- The tree of where results go. -/
def OutputSettings.toJson (output : OutputSettings) : Json :=
  ofMembers [("log_path", ofString output.logPath),
    ("report_dir", ofString output.reportDirectory),
    ("null_policy", ofString output.missing.key), ("charts", .flag output.charts)]

/-- The tree of settings. -/
def Settings.toJson (settings : Settings) : Json :=
  ofMembers [("endpoints", .array (settings.endpoints.map Endpoint.toJson)),
    ("client", settings.client.toJson),
    ("probe", ofMembers [("timeout_ms", ofNat settings.probe.timeoutMilliseconds.toNat)]),
    ("sweeps", .array (settings.sweeps.map SweepDeclaration.toJson)),
    ("output", settings.output.toJson)]

end LoadSweep
