import LoadSweep.Metric
import LoadSweep.Number.Fixed

/-!
# Cells

Tables, charts and pages show a value in the same way: with the places of its metric, or as missing.
The log has a formatter of its own.
-/

namespace LoadSweep

open LoadSweep.Number

set_option autoImplicit false

/-- What stands for a missing value. -/
def missingText : String := "n/a"

/-- The text of a value in the unit in which it is shown. -/
def cell (metric : Metric) (value : Option Float) : String :=
  match value with
  | some shown => fixed metric.places shown
  | none => missingText

end LoadSweep
