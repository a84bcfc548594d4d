import LoadSweep.Duration

/-!
# Outcomes of runs

A run of the client ends in one of five ways.  None of them is a fault: whatever the client printed
is scraped, and what it did not print is missing.
-/

namespace LoadSweep

set_option autoImplicit false

/-- How a run ended. -/
inductive RunStatus where
  /-- With the exit status zero. -/
  | success
  /-- With another exit status. -/
  | exited (code : Int)
  /-- By a signal. -/
  | signalled
  /-- Before it began. -/
  | notStarted (reason : String)
  /-- At the limit of its time. -/
  | timedOut (limit : Duration)
  deriving Repr, DecidableEq, Inhabited

/-- The words for how a run ended. -/
def RunStatus.text : RunStatus → String
  | success => "success"
  | exited code => s!"exited with status {code}"
  | signalled => "terminated by signal"
  | notStarted reason => s!"failed to start: {reason}"
  | timedOut limit => s!"timed out after {limit.text}"

/-- What a run left behind. -/
structure RunOutcome where
  output : String
  errors : String
  status : RunStatus
  deriving Repr, DecidableEq, Inhabited

/-- Whether a run failed in any way. -/
def RunOutcome.isFailure (outcome : RunOutcome) : Bool :=
  outcome.status != .success

end LoadSweep
