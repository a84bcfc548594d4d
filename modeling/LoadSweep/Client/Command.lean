import LoadSweep.Settings
import LoadSweep.Text.Blank

/-!
# Commands

A run is one call of the benchmark client, and its command follows from the settings, the endpoint,
the benchmarked command and the point alone.
-/

namespace LoadSweep

open LoadSweep.Text

set_option autoImplicit false

/-- A program and its arguments. -/
structure Command where
  program : String
  arguments : List String
  deriving Repr, DecidableEq, Inhabited

/-- A command on one line. -/
def Command.line (command : Command) : String :=
  joined " " (command.program :: command.arguments)

/-- The command that measures a point at an endpoint. -/
def Command.forRun (client : ClientSettings) (endpoint : Endpoint) (operation : Operation)
    (point : Point) : Command where
  program := client.program
  arguments :=
    ["-h", endpoint.host, "-p", toString endpoint.port.toNat, "-t", operation.key,
      "-c", toString point.clients.toNat, "-n", toString point.requests.toNat,
      "-P", toString point.pipeline.toNat, "-q"] ++ client.extraArguments

end LoadSweep
