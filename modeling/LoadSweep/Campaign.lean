import LoadSweep.Client.Outcome
import LoadSweep.Recording
import LoadSweep.Scrape

/-!
# Campaigns

A campaign measures sweeps: point by point, and at each point endpoint by endpoint.  Every endpoint
must answer a ping before a sweep begins, so a sweep starts for all endpoints or for none.  A run
that fails is recorded as missing data.  A request to stop is honoured between points; the sweep
then ends with the points it has, and no further sweep begins.

What a campaign needs of the outside, a way to ping, to seed a key, to run a command, to be stopped
and to tell the time, is a bench.  A bench has a state of its own, so any behaviour over time can be
one.
-/

namespace LoadSweep

set_option autoImplicit false

/-- The outside of a campaign, with a state of type `σ`. -/
structure Bench (σ : Type) where
  ping : Endpoint → σ → Except Fault Unit × σ
  seed : Endpoint → σ → Except Fault Unit × σ
  execute : Command → Duration → σ → RunOutcome × σ
  stopRequested : σ → Bool
  timestamp : σ → String

/-- The notebook of a campaign and the state of its bench. -/
structure Stage (σ : Type) where
  notebook : Notebook
  world : σ

/-- An action of a campaign.  What it did before a fault stays done. -/
abbrev CampaignM (σ : Type) := EStateM Fault (Stage σ)

/-- A bench, and how it is used. -/
structure Campaign (σ : Type) where
  client : ClientSettings
  /-- How long a run may take. -/
  limit : Duration
  bench : Bench σ

namespace Campaign

variable {σ : Type}

/-- A campaign whose runs have the time that the settings allow. -/
def ofClient (client : ClientSettings) (bench : Bench σ) : Campaign σ :=
  ⟨client, .ofSeconds client.timeoutSeconds.toNat, bench⟩

/-- An action on the notebook. -/
def inNotebook {α : Type} (action : NotebookM α) : CampaignM σ α := fun stage =>
  match action stage.notebook with
  | .ok value notebook => .ok value { stage with notebook }
  | .error fault notebook => .error fault { stage with notebook }

/-- Something done to the bench. -/
def onBench {α : Type} (event : Event) (action : σ → α × σ) : CampaignM σ α := do
  inNotebook (Notebook.note event)
  fun stage =>
    let (value, world) := action stage.world
    .ok value { stage with world }

/-- Whether the campaign is to stop. -/
def stopRequested (campaign : Campaign σ) : CampaignM σ Bool := fun stage =>
  .ok (campaign.bench.stopRequested stage.world) stage

/-- The time of the bench. -/
def timestamp (campaign : Campaign σ) : CampaignM σ String := fun stage =>
  .ok (campaign.bench.timestamp stage.world) stage

/-- Pings endpoints in order, up to the first that does not answer. -/
def pingAll (campaign : Campaign σ) : List Endpoint → CampaignM σ Unit
  | [] => pure ()
  | endpoint :: endpoints => do
    match ← onBench (.pinged endpoint) (campaign.bench.ping endpoint) with
    | .ok _ => campaign.pingAll endpoints
    | .error fault => throw fault

/-- Checks that endpoints can be compared and that every one answers. -/
def checkEndpoints (campaign : Campaign σ) (endpoints : List Endpoint) : CampaignM σ Unit := do
  match Endpoint.validate endpoints with
  | .ok _ => campaign.pingAll endpoints
  | .error fault => throw fault

/-- Runs the client once.  A key that cannot be seeded does not prevent the run. -/
def run (campaign : Campaign σ) (endpoint : Endpoint) (operation : Operation) (point : Point) :
    CampaignM σ RunOutcome := do
  if campaign.client.warmup then
    let _ ← onBench (.seeded endpoint) (campaign.bench.seed endpoint)
  let command := Command.forRun campaign.client endpoint operation point
  onBench (.executed command campaign.limit) (campaign.bench.execute command campaign.limit)

/-- Measures a point at endpoints in order. -/
def measurePoint (campaign : Campaign σ) (operation : Operation) (index : Nat) (point : Point) :
    List Endpoint → CampaignM σ Unit
  | [] => pure ()
  | endpoint :: endpoints => do
    let outcome ← campaign.run endpoint operation point
    inNotebook (Notebook.record index endpoint (.ofOutput outcome.output))
    campaign.measurePoint operation index point endpoints

/-- Measures points in order, the first of which has a given index, and ends the sweep. -/
def measurePoints (campaign : Campaign σ) (operation : Operation) (endpoints : List Endpoint)
    (index : Nat) : List Point → CampaignM σ Series
  | [] => inNotebook Notebook.finish
  | point :: points => do
    if ← campaign.stopRequested then inNotebook Notebook.abort
    else
      campaign.measurePoint operation index point endpoints
      inNotebook Notebook.commit
      campaign.measurePoints operation endpoints (index + 1) points

/-- Measures a sweep, to its end or until the campaign is to stop. -/
def runSweep (campaign : Campaign σ) (sweep : Sweep) (endpoints : List Endpoint) :
    CampaignM σ Series := do
  if sweep.points.isEmpty then
    throw (.setting s!"sweeps.{sweep.name}.values" "a sweep needs at least one point")
  campaign.checkEndpoints endpoints
  inNotebook (Notebook.begin (← campaign.timestamp) sweep endpoints)
  campaign.measurePoints sweep.operation endpoints 0 sweep.points

/-- Measures sweeps in order and hands each one over as soon as it has ended.  Nothing follows an
incomplete sweep. -/
def runAll (campaign : Campaign σ) (endpoints : List Endpoint)
    (receive : Series → CampaignM σ Unit) : List Sweep → CampaignM σ (List Series)
  | [] => pure []
  | sweep :: sweeps => do
    if ← campaign.stopRequested then return []
    let series ← campaign.runSweep sweep endpoints
    inNotebook (Notebook.note (.handedOver series))
    receive series
    if series.isComplete then
      let rest ← campaign.runAll endpoints receive sweeps
      return series :: rest
    else return [series]

end Campaign

end LoadSweep
