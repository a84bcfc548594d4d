/-!
# What can go wrong

Only what makes a comparison meaningless is a fault: an endpoint that does not answer, a setting
that cannot be used, a file that cannot be read or written, a document that cannot be decoded,
samples that arrive out of order, an interrupted sweep.  A run of the client that fails is not a
fault; it is missing data.  Each fault has one sentence, `Fault.message`.
-/

namespace LoadSweep

set_option autoImplicit false

/-- Why a sweep, a configuration or a report was given up. -/
inductive Fault where
  /-- An endpoint did not answer before the sweep started. -/
  | unreachable (name address reason : String)
  /-- A setting cannot be used. -/
  | setting (parameter reason : String)
  /-- A file or directory cannot be read or written. -/
  | storage (path reason : String)
  /-- A sample or a point came out of order. -/
  | misaligned (detail : String)
  /-- A document cannot be decoded. -/
  | document (detail : String)
  /-- A sweep was interrupted between points. -/
  | interrupted (sweep : String) (completed declared : Nat)
  deriving Repr, DecidableEq, Inhabited

/-- The sentence that reports a fault. -/
def Fault.message : Fault → String
  | .unreachable name address reason =>
    s!"Endpoint '{name}' at {address} is unreachable: {reason}"
  | .setting parameter reason => s!"Invalid configuration parameter '{parameter}': {reason}"
  | .storage path reason => s!"I/O error for '{path}': {reason}"
  | .misaligned detail => s!"Misaligned sweep data: {detail}"
  | .document detail => s!"Serialization error: {detail}"
  | .interrupted sweep completed declared =>
    s!"Sweep '{sweep}' aborted after {completed} of {declared} points"

/-- Whether an endpoint that does not answer is the cause. -/
def Fault.isUnreachable : Fault → Bool
  | .unreachable .. => true
  | _ => false

/-- How samples and points can come out of order. -/
inductive Misalignment where
  | rowWidth (point : Nat) (sweep : String) (samples endpoints : Nat)
  | rowBeyondSweep (sweep : String) (points : Nat)
  | sweepStillOpen (started current : String)
  | nothingOpen
  | otherPoint (given expected : Nat) (sweep : String)
  | otherEndpoint (expected : String) (point : Nat) (given : String)
  | sampleBeyondEndpoints (point : Nat)
  | noSuchPoint (sweep : String) (point : Nat)
  | pointIncomplete (point : Nat) (sweep : String) (samples endpoints : Nat)
  | uncommitted (samples : Nat)
  deriving Repr, DecidableEq

/-- The words for a misalignment. -/
def Misalignment.detail : Misalignment → String
  | .rowWidth point sweep samples endpoints =>
    s!"point {point} of '{sweep}' has {samples} samples for {endpoints} endpoints"
  | .rowBeyondSweep sweep points => s!"sweep '{sweep}' already has all {points} points"
  | .sweepStillOpen started current =>
    s!"sweep '{started}' started while '{current}' is still in progress"
  | .nothingOpen => "no sweep in progress"
  | .otherPoint given expected sweep =>
    s!"sample for point {given} while point {expected} of '{sweep}' is in progress"
  | .otherEndpoint expected point given =>
    s!"expected sample from '{expected}' at point {point}, got '{given}'"
  | .sampleBeyondEndpoints point => s!"point {point} already has a sample from every endpoint"
  | .noSuchPoint sweep point => s!"sweep '{sweep}' has no point {point}"
  | .pointIncomplete point sweep samples endpoints =>
    s!"point {point} of '{sweep}' has {samples} of {endpoints} samples"
  | .uncommitted samples => s!"finish with {samples} uncommitted samples"

/-- The fault that a misalignment is. -/
def Misalignment.fault (cause : Misalignment) : Fault :=
  .misaligned cause.detail

end LoadSweep
