import LoadSweep.Campaign
import LoadSweep.Report.Artifacts
import LoadSweep.Report.Console

/-!
# Reporting a campaign

A run prints and reports every sweep as soon as it has ended, so that a later failure loses nothing.
At its end it says where the results are, and an incomplete last sweep is a fault.
-/

namespace LoadSweep

set_option autoImplicit false

/-- A bench with the text printed so far. -/
structure Printing (σ : Type) where
  world : σ
  printed : String

/-- A bench whose state also holds the text printed so far. -/
def Bench.printing {σ : Type} (bench : Bench σ) : Bench (Printing σ) where
  ping endpoint state :=
    let (answer, world) := bench.ping endpoint state.world
    (answer, { state with world })
  seed endpoint state :=
    let (answer, world) := bench.seed endpoint state.world
    (answer, { state with world })
  execute command limit state :=
    let (outcome, world) := bench.execute command limit state.world
    (outcome, { state with world })
  stopRequested state := bench.stopRequested state.world
  timestamp state := bench.timestamp state.world

namespace Campaign

variable {σ : Type}

/-- Prints a text. -/
def print (text : String) : CampaignM (Printing σ) Unit :=
  modify fun stage => { stage with world.printed := stage.world.printed ++ text }

/-- Prints tables and comparisons of a series. -/
def printSeries (series : Series) : CampaignM (Printing σ) Unit := do
  print (series.consoleText?.getD "")
  print "\n"
  print (String.join (Metric.charted.map fun metric =>
    String.join (((series.comparisons? metric).getD []).map Comparison.consoleText)))

/-- Writes the report files of a series and prints their paths. -/
def writeReports (campaign : Campaign (Printing σ)) (output : OutputSettings) (series : Series) :
    CampaignM (Printing σ) Unit := do
  let time ← campaign.timestamp
  match series.writeReports? output time (← get).notebook.files with
  | none => pure ()
  | some written =>
    modify fun stage => { stage with notebook.files := written.tree }
    match written.result with
    | .error fault => throw fault
    | .ok paths => print (String.join (paths.map fun path => s!"wrote {path}\n"))

/-- Measures sweeps and reports each one. -/
def runReported (campaign : Campaign (Printing σ)) (settings : Settings) (sweeps : List Sweep) :
    CampaignM (Printing σ) Unit := do
  let all ← campaign.runAll settings.endpoints
    (fun series => do
      printSeries series
      campaign.writeReports settings.output series)
    sweeps
  print s!"✓ results appended to {settings.output.logPath}\n"
  match all.getLast? with
  | some last =>
    if last.isComplete then pure ()
    else throw (.interrupted last.sweep.name last.length last.sweep.length)
  | none => pure ()

end Campaign

end LoadSweep
