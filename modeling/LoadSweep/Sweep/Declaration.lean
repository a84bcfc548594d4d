import LoadSweep.Sweep
import LoadSweep.Sweep.RequestRule
import LoadSweep.Text.Blank

/-!
# Declared sweeps

A configuration declares a sweep by the values of its axis, the parameter that stays constant and a
request rule.  Resolving it decides every point, or says which part of the declaration cannot be
used.
-/

namespace LoadSweep

open LoadSweep.Text

set_option autoImplicit false

/-- A sweep as a configuration declares it. -/
structure SweepDeclaration where
  name : String
  title : String
  operation : Operation
  axis : Axis
  values : List UInt32
  /-- The clients when the axis is not the clients. -/
  clients : UInt32
  /-- The pipeline depth when the axis is not the pipeline depth. -/
  pipeline : UInt32
  requests : RequestRule
  deriving Repr, DecidableEq, Inhabited

namespace SweepDeclaration

/-- The clients while the pipeline depth varies, unless declared. -/
def defaultClients : UInt32 := 50

/-- The pipeline depth while the clients vary, unless declared. -/
def defaultPipeline : UInt32 := 1

/-- The name of a field of this sweep in a fault. -/
def parameter (declaration : SweepDeclaration) (field : String) : String :=
  s!"sweeps.{declaration.name}.{field}"

/-- Names a fault of the request rule after this sweep. -/
def blameRequests (declaration : SweepDeclaration) : Fault → Fault
  | .setting _ reason => .setting (declaration.parameter "requests") reason
  | other => other

/-- The point at a value of the axis with a number of requests. -/
def pointAt (declaration : SweepDeclaration) (value : UInt32) (requests : UInt64) : Point :=
  match declaration.axis with
  | .clients => ⟨value, declaration.pipeline, requests⟩
  | .pipeline => ⟨declaration.clients, value, requests⟩

/-- Resolves the values that follow others, `seen`. -/
def resolveAfter (declaration : SweepDeclaration) (seen : List UInt32) :
    List UInt32 → Except Fault (List Point)
  | [] => .ok []
  | value :: rest =>
    if value == 0 then
      .error (.setting (declaration.parameter "values") "values must be positive")
    else if seen.contains value then
      .error (.setting (declaration.parameter "values") s!"value {value.toNat} is listed twice")
    else match declaration.requests.resolve value with
      | .error fault => .error (declaration.blameRequests fault)
      | .ok requests => match declaration.resolveAfter (value :: seen) rest with
        | .error fault => .error fault
        | .ok points => .ok (declaration.pointAt value requests :: points)

/-- Decides every point of a declared sweep. -/
def resolve (declaration : SweepDeclaration) : Except Fault Sweep :=
  if (trim declaration.name.toList).isEmpty then
    .error (.setting "sweeps.name" "must not be empty")
  else if declaration.values.isEmpty then
    .error (.setting (declaration.parameter "values") "must not be empty")
  else if declaration.clients == 0 || declaration.pipeline == 0 then
    .error (.setting (declaration.parameter "clients") "clients and pipeline must be positive")
  else match declaration.resolveAfter [] declaration.values with
    | .error fault => .error fault
    | .ok points =>
      .ok ⟨declaration.name, declaration.title, declaration.operation, declaration.axis, points⟩

/-- The built-in sweep over client sessions. -/
def overClients (name : String) (operation : Operation) : SweepDeclaration where
  name := name
  title :=
    s!"{operation.label} command, varying client sessions, measuring throughput and latency"
  operation := operation
  axis := .clients
  values := [1, 2, 4, 8, 16, 32, 64, 128]
  clients := defaultClients
  pipeline := defaultPipeline
  requests := .fixed 10000

/-- The built-in sweep over pipeline depths: a hundred thousand requests for each unit of depth up
to 64, then ten and twenty million. -/
def overPipeline (name : String) (operation : Operation) : SweepDeclaration where
  name := name
  title :=
    s!"{operation.label} command, varying pipeline depth, measuring throughput and latency"
  operation := operation
  axis := .pipeline
  values := [1, 4, 16, 64, 256, 1024]
  clients := defaultClients
  pipeline := defaultPipeline
  requests := .perPoint [⟨1, 100000⟩, ⟨4, 400000⟩, ⟨16, 1600000⟩, ⟨64, 6400000⟩,
    ⟨256, 10000000⟩, ⟨1024, 20000000⟩]

end SweepDeclaration

end LoadSweep
