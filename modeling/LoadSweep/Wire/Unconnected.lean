import LoadSweep.Campaign
import LoadSweep.Client.Execution
import LoadSweep.Wire.Probe

/-!
# A bench without a network

Without a network no endpoint answers and no client can be started.  What can be told without
sending anything is still told: a host that cannot be looked up is reported as such.
-/

namespace LoadSweep.Wire

set_option autoImplicit false

/-- Why nothing answers. -/
def noNetwork : String := "Network is unreachable (os error 101)"

/-- What a probe of an endpoint finds. -/
def probeUnconnected (endpoint : Endpoint) : Except Fault Unit :=
  match unresolvable? endpoint with
  | some fault => .error fault
  | none => .error (.unreachable endpoint.name endpoint.address noNetwork)

/-- The bench on which nothing answers, at a fixed time. -/
def unconnectedBench (time : String) : Bench Unit where
  ping endpoint world := (probeUnconnected endpoint, world)
  seed endpoint world := (probeUnconnected endpoint, world)
  execute command _ world := (.notStarted (command.launchFailure FileTree.empty), world)
  stopRequested _ := false
  timestamp _ := time

end LoadSweep.Wire
