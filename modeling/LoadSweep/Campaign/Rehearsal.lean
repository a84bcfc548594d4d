import LoadSweep.Campaign

/-!
# Rehearsals

A rehearsal is a bench that follows a script: which endpoints answer, how often, what the client
prints in turn, and during which run the campaign is told to stop.  It counts what is asked of it.
-/

namespace LoadSweep

set_option autoImplicit false

/-- What a rehearsed bench does. -/
structure Script where
  /-- The outcomes of runs, used in turn. -/
  replies : List RunOutcome := []
  /-- The names of endpoints that never answer a ping. -/
  down : List String := []
  /-- The number of pings after which nobody answers any more. -/
  healthyPings : Option Nat := none
  /-- The names of endpoints whose key cannot be seeded. -/
  seedDown : List String := []
  /-- The run, counted from one, during which the campaign is told to stop. -/
  stopAtCall : Option Nat := none
  /-- The number of a reception, counted from one, that fails. -/
  receptionFailsAt : Option Nat := none
  time : String := ""

/-- What was asked of a rehearsed bench. -/
structure Rehearsal where
  calls : Nat := 0
  pings : Nat := 0
  receptions : Nat := 0
  stopped : Bool := false
  deriving Repr, DecidableEq, Inhabited

namespace Script

/-- The fault of an endpoint that does not answer. -/
def refused (endpoint : Endpoint) : Fault :=
  .unreachable endpoint.name endpoint.address "refused"

/-- The outcome of the run after a number of earlier ones. -/
def reply (script : Script) (earlier : Nat) : RunOutcome :=
  (script.replies[earlier % script.replies.length]?).getD ⟨"", "", .exited 1⟩

/-- The bench that follows a script. -/
def bench (script : Script) : Bench Rehearsal where
  ping endpoint world :=
    let exhausted := match script.healthyPings with
      | some limit => decide (limit ≤ world.pings)
      | none => false
    let answer := if exhausted || script.down.contains endpoint.name then
        .error (refused endpoint) else .ok ()
    (answer, { world with pings := world.pings + 1 })
  seed endpoint world :=
    (if script.seedDown.contains endpoint.name then .error (refused endpoint) else .ok (), world)
  execute _ _ world :=
    (script.reply world.calls,
      { world with
        calls := world.calls + 1
        stopped := world.stopped || script.stopAtCall == some (world.calls + 1) })
  stopRequested world := world.stopped
  timestamp _ := script.time

/-- Receives a series, unless this reception is the one that fails. -/
def receive (script : Script) (_ : Series) : CampaignM Rehearsal Unit := fun stage =>
  let count := stage.world.receptions + 1
  let stage := { stage with world := { stage.world with receptions := count } }
  if script.receptionFailsAt == some count then .error (.storage "reports" "denied") stage
  else .ok () stage

end Script

end LoadSweep
