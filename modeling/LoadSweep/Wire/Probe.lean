import LoadSweep.Endpoint
import LoadSweep.Wire.Request

/-!
# Probes

A probe sends one request to an endpoint.  A host whose name cannot be looked up is told apart
before anything is sent.
-/

namespace LoadSweep.Wire

set_option autoImplicit false

/-- What a probe asks of an endpoint. -/
inductive Probe where
  /-- Whether it answers. -/
  | ping
  /-- To keep the value that a run reads. -/
  | seed
  deriving Repr, DecidableEq

/-- The arguments of the request of a probe. -/
def Probe.arguments : Probe → List String
  | ping => ["PING"]
  | seed => ["SET", warmupKey, warmupValue]

/-- The reply that a probe expects. -/
def Probe.expected : Probe → String
  | ping => "+PONG" ++ lineEnd
  | seed => "+OK" ++ lineEnd

/-- Why the host of an endpoint cannot be looked up, if its name alone shows it. -/
def unresolvable? (endpoint : Endpoint) : Option Fault :=
  if endpoint.host.toList.contains '\x00' then
    some (.unreachable endpoint.name endpoint.address
      "cannot resolve host: file name contained an unexpected NUL byte")
  else none

end LoadSweep.Wire
