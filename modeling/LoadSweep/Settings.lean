import LoadSweep.Endpoint
import LoadSweep.Duration
import LoadSweep.Sweep.Declaration

/-!
# Settings

The settings of a comparison are read once: the servers under test, how the benchmark client is
called, how long a probe may take, the declared sweeps and where results go.  Valid settings have a
usable list of endpoints and only sweeps that resolve, so nothing about them can fail later.
-/

namespace LoadSweep

open LoadSweep.Text

set_option autoImplicit false

/-- How a chart draws a missing value. -/
inductive MissingPolicy where
  /-- As a bar without height. -/
  | flat
  /-- Not at all. -/
  | gap
  deriving Repr, DecidableEq, Inhabited

namespace MissingPolicy

/-- The policy as configurations name it. -/
def key : MissingPolicy → String
  | flat => "zero"
  | gap => "omit"

/-- The policy with a given key. -/
def ofKey? (key : String) : Option MissingPolicy :=
  [flat, gap].find? fun policy => policy.key == key

end MissingPolicy

/-- How the benchmark client is called. -/
structure ClientSettings where
  program : String := "redis-benchmark"
  /-- Arguments after the ones that a point needs. -/
  extraArguments : List String := []
  /-- The seconds after which a run is stopped. -/
  timeoutSeconds : UInt64 := 120
  /-- Whether the benchmarked key is written before each run. -/
  warmup : Bool := true
  deriving Repr, DecidableEq, Inhabited

/-- How the endpoints are probed. -/
structure ProbeSettings where
  timeoutMilliseconds : UInt64 := 1000
  deriving Repr, DecidableEq, Inhabited

/-- Where results go. -/
structure OutputSettings where
  logPath : String := "result/results.log"
  reportDirectory : String := "result"
  missing : MissingPolicy := .flat
  /-- Whether charts and pages are written beside the dataset. -/
  charts : Bool := true
  deriving Repr, DecidableEq, Inhabited

/-- The settings of a comparison. -/
structure Settings where
  endpoints : List Endpoint :=
    [⟨"redis", Endpoint.loopback, 6378⟩, ⟨"rutin", Endpoint.loopback, 6379⟩]
  client : ClientSettings := {}
  probe : ProbeSettings := {}
  sweeps : List SweepDeclaration :=
    [.overPipeline "batch_get" .get, .overPipeline "batch_set" .set,
      .overClients "client_get" .get, .overClients "client_set" .set]
  output : OutputSettings := {}
  deriving Repr, DecidableEq, Inhabited

namespace Settings

/-- The built-in settings. -/
def builtin : Settings := {}

/-- Checks the sweeps that follow others with the names `seen`. -/
def validateSweeps (seen : List String) : List SweepDeclaration → Except Fault Unit
  | [] => .ok ()
  | declaration :: rest =>
    if seen.contains declaration.name then
      .error (.setting "sweeps" s!"duplicate sweep name '{declaration.name}'")
    else match declaration.resolve with
      | .error fault => .error fault
      | .ok _ => validateSweeps (declaration.name :: seen) rest

/-- Checks the endpoints, the client, the timeouts and that every sweep resolves. -/
def validate (settings : Settings) : Except Fault Unit :=
  match Endpoint.validate settings.endpoints with
  | .error fault => .error fault
  | .ok _ =>
    if (trim settings.client.program.toList).isEmpty then
      .error (.setting "client.program" "must not be empty")
    else if settings.client.timeoutSeconds == 0 then
      .error (.setting "client.timeout_secs" "must be positive")
    else if settings.probe.timeoutMilliseconds == 0 then
      .error (.setting "probe.timeout_ms" "must be positive")
    else if settings.sweeps.isEmpty then
      .error (.setting "sweeps" "at least one sweep is required")
    else validateSweeps [] settings.sweeps

/-- The first selected name that no sweep has. -/
def unknownSweep? (settings : Settings) (selected : List String) : Option String :=
  selected.find? fun name => !settings.sweeps.any fun declaration => declaration.name == name

/-- The selected sweeps, resolved, in the order of the settings; all of them for an empty
selection. -/
def resolveSweeps (settings : Settings) (selected : List String) : Except Fault (List Sweep) :=
  match settings.unknownSweep? selected with
  | some name => .error (.setting "sweep" s!"unknown sweep '{name}'")
  | none =>
    (settings.sweeps.filter fun declaration =>
      selected.isEmpty || selected.contains declaration.name).mapM SweepDeclaration.resolve

/-- How long a run may take. -/
def runTimeout (settings : Settings) : Duration :=
  .ofSeconds settings.client.timeoutSeconds.toNat

/-- How long a probe may take. -/
def probeTimeout (settings : Settings) : Duration :=
  .ofMilliseconds settings.probe.timeoutMilliseconds.toNat

end Settings

end LoadSweep
