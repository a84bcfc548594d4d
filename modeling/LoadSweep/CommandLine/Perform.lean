import LoadSweep.Campaign.Reporting
import LoadSweep.CommandLine.Completion
import LoadSweep.Plan
import LoadSweep.Scrape
import LoadSweep.Settings.Loading

/-!
# Commands of the command line

A command takes what it needs of its surroundings as functions: a way to read files, standard input,
a bench.  Its outcome is an exit status and what it prints.  Arguments that cannot be used give the
status two, and a command that fails gives the status one and says why.
-/

namespace LoadSweep.CommandLine

open LoadSweep.Text

set_option autoImplicit false

/-- Why a command fails. -/
inductive CommandFault where
  | sweeping (fault : Fault)
  /-- An input file or standard input cannot be read. -/
  | input (path reason : String)
  | probes (failed total : Nat)
  /-- Interrupts cannot be handled. -/
  | interrupts (reason : String)
  | invalid (detail : String)
  deriving Repr, DecidableEq

/-- The sentence that reports the fault of a command. -/
def CommandFault.message : CommandFault → String
  | sweeping fault => fault.message
  | input path reason => s!"I/O error for '{path}': {reason}"
  | probes failed total => s!"{failed} of {total} endpoints unreachable"
  | interrupts reason => s!"Cannot install interrupt handler: {reason}"
  | invalid detail => s!"Invalid input: {detail}"

/-- What a command needs of its surroundings. -/
structure Surroundings (σ : Type) where
  /-- The text of a file, or why there is none. -/
  read : String → Except String String
  /-- Standard input, or why it cannot be read. -/
  input : Except String String
  bench : Bench σ
  world : σ
  files : FileTree

/-- What a command leaves behind. -/
structure Outcome where
  status : Nat
  printed : String
  fault : Option CommandFault
  files : FileTree

/-- Settings from a source, with its endpoints in place of theirs. -/
def Source.load (source : Source) (read : String → Except String String) :
    Except Fault Settings :=
  let base := match source.path with
    | some path => Settings.load read path
    | none => .ok Settings.builtin
  match base with
  | .error fault => .error fault
  | .ok settings =>
    let settings := if source.endpoints.isEmpty then settings
      else { settings with endpoints := source.endpoints }
    match settings.validate with
    | .error fault => .error fault
    | .ok _ => .ok settings

/-- Output settings with what a run overrides. -/
def RunOptions.override (options : RunOptions) (output : OutputSettings) : OutputSettings :=
  { logPath := options.log.getD output.logPath
    reportDirectory := options.reportDirectory.getD output.reportDirectory
    missing := if options.leaveGaps then .gap else output.missing
    charts := output.charts && !options.noCharts }

/-- Settings for a run. -/
def loadForRun (source : Source) (options : RunOptions) (read : String → Except String String) :
    Except Fault Settings :=
  (source.load read).map fun settings =>
    { settings with output := options.override settings.output }

/-- The extracted metrics, sorted by key. -/
def sampleText (sample : Sample) : String :=
  let members := sample.entries.map fun (metric, value) => (metric.key, Sample.valueToJson value)
  (Json.ofMembers (members.mergeSort fun a b => decide (a.1 ≤ b.1))).pretty

/-- The text of the built-in settings. -/
def SettingsFormat.builtinText : SettingsFormat → String
  | yaml => Settings.builtin.toYaml
  | json => Settings.builtin.toJson.pretty

/-- The usage of the program. -/
def usage : String :=
  s!"Usage: kvsweep [-v] <COMMAND>\n\nCommands: {commandWords} help\n"

/-- The name and version of the program. -/
def versionText : String := "kvsweep 1.0.0\n"

/-- What probing endpoints prints, and how many do not answer. -/
def probeAll {σ : Type} (bench : Bench σ) : σ → List Endpoint → String × Nat
  | _, [] => ("", 0)
  | world, endpoint :: endpoints =>
    let (answer, world) := bench.ping endpoint world
    let (printed, failed) := probeAll bench world endpoints
    match answer with
    | .ok _ => (s!"✓ {endpoint.name} {endpoint.address}\n" ++ printed, failed)
    | .error fault => (s!"✗ {fault.message}\n" ++ printed, failed + 1)

namespace Outcome

/-- A command that succeeds. -/
def done (files : FileTree) (printed : String) : Outcome := ⟨0, printed, none, files⟩

/-- A command that fails. -/
def failed (files : FileTree) (printed : String) (fault : CommandFault) : Outcome :=
  ⟨1, printed, some fault, files⟩

/-- A command line that cannot be used. -/
def misused (files : FileTree) : Outcome := ⟨2, "", none, files⟩

/-- The outcome of printing a text that may not be had. -/
def ofText (files : FileTree) (text : Except CommandFault String) : Outcome :=
  match text with
  | .ok printed => done files printed
  | .error fault => failed files "" fault

/-- What goes to standard error. -/
def errorText (outcome : Outcome) : String :=
  match outcome.status, outcome.fault with
  | _, some fault => s!"Error: {fault.message}\n"
  | 2, none => usage
  | _, none => ""

end Outcome

variable {σ : Type}

/-- Runs sweeps and reports them. -/
def performRun (surroundings : Surroundings σ) (settings : Settings) (sweeps : List Sweep) :
    Outcome :=
  let campaign := Campaign.ofClient settings.client surroundings.bench.printing
  let stage : Stage (Printing σ) :=
    ⟨Notebook.fresh settings.output.logPath surroundings.files, ⟨surroundings.world, ""⟩⟩
  match campaign.runReported settings sweeps stage with
  | .ok _ stage => .done stage.notebook.files stage.world.printed
  | .error fault stage => .failed stage.notebook.files stage.world.printed (.sweeping fault)

/-- Performs what the command line asks for. -/
def perform (surroundings : Surroundings σ) (invocation : Invocation) : Outcome :=
  let files := surroundings.files
  let refuse (fault : Fault) : Outcome := .failed files "" (.sweeping fault)
  match invocation with
  | .run source options =>
    match loadForRun source options surroundings.read with
    | .error fault => refuse fault
    | .ok settings => match settings.resolveSweeps source.sweeps with
      | .error fault => refuse fault
      | .ok sweeps => performRun surroundings settings sweeps
  | .probe source =>
    match source.load surroundings.read with
    | .error fault => refuse fault
    | .ok settings =>
      let (printed, failures) := probeAll surroundings.bench surroundings.world settings.endpoints
      if failures == 0 then .done files printed
      else .failed files printed (.probes failures settings.endpoints.length)
  | .plan source =>
    match source.load surroundings.read with
    | .error fault => refuse fault
    | .ok settings => match settings.planLines source.sweeps with
      | .error fault => refuse fault
      | .ok lines => .done files (String.join (lines.map (· ++ "\n")))
  | .extract file =>
    let text := match file with
      | some path => (surroundings.read path).mapError (CommandFault.input path)
      | none => surroundings.input.mapError (CommandFault.input "<stdin>")
    .ofText files (text.map fun text => sampleText (.ofOutput text) ++ "\n")
  | .showSettings format =>
    .done files (String.ofList (trimEnd format.builtinText.toList) ++ "\n")
  | .completion name true => .done files (installationHint name ++ "\n")
  | .completion name false =>
    match Shell.ofName? name with
    | some shell => .done files shell.script
    | none =>
      .failed files "" (.invalid (s!"Unsupported shell: '{name}'. Supported shells: "
        ++ "bash, zsh, fish, powershell, elvish"))
  | .help => .done files usage
  | .version => .done files versionText

/-- Performs what arguments ask for. -/
def performArguments (surroundings : Surroundings σ) (arguments : List String) : Outcome :=
  match Invocation.ofArguments? arguments with
  | some invocation => perform surroundings invocation
  | none => .misused surroundings.files

end LoadSweep.CommandLine
