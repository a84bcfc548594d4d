/-!
# Points of a sweep

A point fixes the three parameters of a run: parallel clients, requests per round trip and the
total number of requests.  A sweep varies one of the first two, its axis.
-/

namespace LoadSweep

set_option autoImplicit false

/-- The benchmarked command. -/
inductive Operation where
  | get
  | set
  deriving Repr, DecidableEq, Inhabited

namespace Operation

/-- Every command. -/
def all : List Operation := [get, set]

/-- The command as the client and configurations name it. -/
def key : Operation → String
  | get => "get"
  | set => "set"

/-- The command as reports name it. -/
def label : Operation → String
  | get => "GET"
  | set => "SET"

/-- The command with a given key. -/
def ofKey? (key : String) : Option Operation :=
  all.find? fun operation => operation.key == key

end Operation

/-- The parameter that a sweep varies. -/
inductive Axis where
  | clients
  | pipeline
  deriving Repr, DecidableEq, Inhabited

namespace Axis

/-- Every axis. -/
def all : List Axis := [clients, pipeline]

/-- The axis as configurations name it. -/
def key : Axis → String
  | clients => "clients"
  | pipeline => "pipeline"

/-- The axis as reports name it. -/
def label : Axis → String
  | clients => "Client Sessions"
  | pipeline => "Pipeline Depth"

/-- The axis with a given key. -/
def ofKey? (key : String) : Option Axis :=
  all.find? fun axis => axis.key == key

end Axis

/-- The parameters of a run. -/
structure Point where
  clients : UInt32
  pipeline : UInt32
  requests : UInt64
  deriving Repr, DecidableEq, Inhabited

/-- The value of a point on an axis. -/
def Point.onAxis (point : Point) : Axis → UInt32
  | .clients => point.clients
  | .pipeline => point.pipeline

/-- The label of a point on an axis: its value as a decimal numeral. -/
def Point.category (axis : Axis) (point : Point) : String :=
  toString (point.onAxis axis).toNat

end LoadSweep
