import LoadSweep.Client.Command
import LoadSweep.Wire.Request

/-!
# Plans

A plan lists the commands that a run would execute, in the same order, without running them.  Lines
that are no commands start with a number sign.
-/

namespace LoadSweep

set_option autoImplicit false

/-- The commands of a sweep, point by point and at each point endpoint by endpoint. -/
def Sweep.commands (sweep : Sweep) (client : ClientSettings) (endpoints : List Endpoint) :
    List Command :=
  sweep.points.flatMap fun point =>
    endpoints.map fun endpoint => Command.forRun client endpoint sweep.operation point

/-- The note on what happens before each run. -/
def warmupNote : String :=
  s!"# before each run: SET {Wire.warmupKey} {Wire.warmupValue} on the endpoint"

/-- The heading of a sweep in a plan. -/
def Sweep.planHeading (sweep : Sweep) (endpoints : List Endpoint) : String :=
  s!"# {sweep.name} ({sweep.length} points x {endpoints.length} endpoints): {sweep.title}"

/-- The lines of a sweep in a plan. -/
def Sweep.planLines (sweep : Sweep) (client : ClientSettings) (endpoints : List Endpoint) :
    List String :=
  sweep.planHeading endpoints :: (sweep.commands client endpoints).map Command.line

/-- The lines of a plan for selected sweeps. -/
def Settings.planLines (settings : Settings) (selected : List String) :
    Except Fault (List String) :=
  (settings.resolveSweeps selected).map fun sweeps =>
    (if settings.client.warmup then [warmupNote] else [])
      ++ sweeps.flatMap fun sweep => sweep.planLines settings.client settings.endpoints

end LoadSweep
