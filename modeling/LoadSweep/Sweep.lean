import LoadSweep.Sweep.Point

/-!
# Sweeps

A sweep is an ordered list of points for one command.  The order is the category axis of every
table and chart made from it.
-/

namespace LoadSweep

set_option autoImplicit false

/-- A sweep with all its parameters decided. -/
structure Sweep where
  /-- The identifier for selection and file names. -/
  name : String
  /-- The title in log headers and reports. -/
  title : String
  operation : Operation
  axis : Axis
  points : List Point
  deriving Repr, DecidableEq, Inhabited

/-- The label of every point. -/
def Sweep.categories (sweep : Sweep) : List String :=
  sweep.points.map (Point.category sweep.axis)

/-- The number of points. -/
def Sweep.length (sweep : Sweep) : Nat :=
  sweep.points.length

end LoadSweep
