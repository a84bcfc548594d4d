import LoadSweep.CommandLine.Perform
import LoadSweep.Proofs.Settings.RoundTrip

/-!
# Settings from the command line

The settings of a run are loaded in layers.  A source gives the base, from a file or built in, and
may give endpoints in place of its own; then the settings are checked, and the options of the run
replace parts of the output settings without another check.

Nothing that is replaced after the check is looked at by it (`Settings.Valid.withOutput`), and of
valid settings only the endpoints have to be checked again (`Settings.Valid.withEndpoints_iff`).  So
a source loads exactly if its base does and its endpoints can be compared (`Source.load_ok_iff`),
and the settings of a run are valid settings that differ from the base where an option says so
(`overrides_change_what_they_name`).
-/

namespace LoadSweep

set_option autoImplicit false

namespace Settings

variable {settings : Settings}

/-- What is loaded from a file is valid. -/
theorem Valid.of_load {read : String → Except String String} {path : String}
    (loaded : load read path = .ok settings) : settings.Valid := by
  have accepted {decoded : Option Settings} (checks : checked decoded = .ok settings) :
      settings.Valid := by
    cases decoded with
    | none => cases checks
    | some decoded =>
      simp only [checked] at checks
      split at checks
      · cases checks
      · rename_i valid
        cases checks
        exact validate_ok_iff.mp valid
  rw [load] at loaded
  split at loaded
  · cases loaded
  · rw [ofText] at loaded
    split at loaded <;> exact accepted loaded

/-- Of valid settings with other endpoints only the endpoints can be refused. -/
theorem Valid.withEndpoints_iff (valid : settings.Valid) {endpoints : List Endpoint} :
    Valid { settings with endpoints } ↔ Endpoint.validate endpoints = .ok () := by
  constructor
  · intro replaced
    exact replaced.endpoints
  · intro comparable
    exact ⟨comparable, valid.program, valid.limit, valid.patience, valid.sweeps, valid.distinct,
      valid.resolvable⟩

/-- Where results go is not checked. -/
theorem Valid.withOutput (valid : settings.Valid) (output : OutputSettings) :
    Valid { settings with output } :=
  ⟨valid.endpoints, valid.program, valid.limit, valid.patience, valid.sweeps, valid.distinct,
    valid.resolvable⟩

/-- Settings with the same sweeps resolve a selection alike. -/
theorem resolveSweeps_congr {other : Settings} (same : other.sweeps = settings.sweeps)
    (selected : List String) : other.resolveSweeps selected = settings.resolveSweeps selected := by
  simp only [resolveSweeps, unknownSweep?, same]

end Settings

namespace CommandLine

/-! ## The base of a source -/

namespace Source

variable {source : Source} {read : String → Except String String} {base settings : Settings}

/-- The settings that a source starts from: those of its file, or the built-in ones. -/
def baseSettings (source : Source) (read : String → Except String String) : Except Fault Settings :=
  match source.path with
  | some path => Settings.load read path
  | none => .ok Settings.builtin

/-- The settings of a source once its own endpoints, if it has any, have taken their place. -/
def withOwnEndpoints (source : Source) (base : Settings) : Settings :=
  { base with endpoints := if source.endpoints = [] then base.endpoints else source.endpoints }

theorem valid_of_base (loaded : source.baseSettings read = .ok base) : base.Valid := by
  rw [baseSettings] at loaded
  split at loaded
  · exact .of_load loaded
  · cases loaded
    exact Settings.builtin_valid

/-- The endpoints of a source are all that can make its settings invalid. -/
theorem valid_withOwnEndpoints_iff (valid : base.Valid) :
    (source.withOwnEndpoints base).Valid ↔
      (source.endpoints ≠ [] → Endpoint.validate source.endpoints = .ok ()) := by
  rw [withOwnEndpoints, valid.withEndpoints_iff]
  by_cases none : source.endpoints = []
  · simp [none, valid.endpoints]
  · simp [none]

/-- A source loads the settings of its base with its own endpoints, if they are valid. -/
theorem load_eq (source : Source) (read : String → Except String String) :
    source.load read =
      match source.baseSettings read with
      | .error fault => .error fault
      | .ok base => match (source.withOwnEndpoints base).validate with
        | .error fault => .error fault
        | .ok _ => .ok (source.withOwnEndpoints base) := by
  have replaced (base : Settings) : (if source.endpoints.isEmpty then base
      else { base with endpoints := source.endpoints }) = source.withOwnEndpoints base := by
    simp only [withOwnEndpoints, List.isEmpty_iff]
    split <;> rfl
  simp only [← replaced]
  unfold load baseSettings
  cases source.path <;> rfl

theorem load_ok_iff :
    source.load read = .ok settings ↔
      ∃ base, source.baseSettings read = .ok base ∧
        (source.endpoints ≠ [] → Endpoint.validate source.endpoints = .ok ()) ∧
        settings = source.withOwnEndpoints base := by
  rw [load_eq]
  cases found : source.baseSettings read with
  | error fault => simp
  | ok base =>
    simp only [Except.ok.injEq, exists_eq_left']
    rw [← valid_withOwnEndpoints_iff (valid_of_base found), ← Settings.validate_ok_iff]
    cases (source.withOwnEndpoints base).validate <;> simp [eq_comm]

end Source

/-! ## The settings of a run -/

/-- Settings that differ from a base where a source or the options of a run say so, and nowhere
else. -/
structure Overrides (source : Source) (options : RunOptions) (base settings : Settings) : Prop where
  endpoints : settings.endpoints =
    if source.endpoints = [] then base.endpoints else source.endpoints
  client : settings.client = base.client
  probe : settings.probe = base.probe
  sweeps : settings.sweeps = base.sweeps
  log : settings.output.logPath =
    match options.log with
    | some path => path
    | none => base.output.logPath
  directory : settings.output.reportDirectory =
    match options.reportDirectory with
    | some directory => directory
    | none => base.output.reportDirectory
  charts : settings.output.charts = false ↔ base.output.charts = false ∨ options.noCharts = true
  missing : settings.output.missing = .gap ↔
    base.output.missing = .gap ∨ options.leaveGaps = true

/-- What a run replaces in settings with the endpoints of its source. -/
theorem overrides_override (source : Source) (options : RunOptions) (base : Settings) :
    Overrides source options base
      { source.withOwnEndpoints base with output := options.override base.output } where
  endpoints := rfl
  client := rfl
  probe := rfl
  sweeps := rfl
  log := by cases log : options.log <;> simp [RunOptions.override, log]
  directory := by cases directory : options.reportDirectory <;> simp [RunOptions.override, directory]
  charts := by
    cases off : options.noCharts <;> simp [RunOptions.override, off]
  missing := by
    cases gaps : options.leaveGaps <;> simp [RunOptions.override, gaps]

theorem loadForRun_ok_iff {source : Source} {options : RunOptions}
    {read : String → Except String String} {settings : Settings} :
    loadForRun source options read = .ok settings ↔
      ∃ base, source.baseSettings read = .ok base ∧
        (source.endpoints ≠ [] → Endpoint.validate source.endpoints = .ok ()) ∧
        settings = { source.withOwnEndpoints base with
          output := options.override base.output } := by
  cases loaded : source.load read with
  | error fault =>
    simp only [loadForRun, loaded, Except.map, reduceCtorEq, false_iff]
    rintro ⟨base, found, comparable, -⟩
    cases loaded.symm.trans (Source.load_ok_iff.mpr ⟨base, found, comparable, rfl⟩)
  | ok checked =>
    obtain ⟨base, found, comparable, rfl⟩ := Source.load_ok_iff.mp loaded
    simp only [loadForRun, loaded, Except.map, found, Except.ok.injEq, exists_eq_left']
    constructor
    · rintro rfl
      exact ⟨comparable, rfl⟩
    · rintro ⟨-, rfl⟩
      rfl

/-- **Overrides touch only what they name, and never make settings invalid.** The settings of a run
can be loaded exactly if the base can be loaded and is valid and the given endpoints, if there are
any, can be compared.  They are then valid, differ from the base only in the endpoints and in the
parts of the output that an option names, and resolve every selection as the base does. -/
theorem overrides_change_what_they_name (source : Source) (options : RunOptions)
    (read : String → Except String String) :
    ((∃ settings, loadForRun source options read = .ok settings) ↔
      (∃ base, source.baseSettings read = .ok base ∧ base.validate = .ok ()) ∧
        (source.endpoints ≠ [] → Endpoint.validate source.endpoints = .ok ())) ∧
    ∀ settings, loadForRun source options read = .ok settings →
      settings.validate = .ok () ∧
      ∃ base, source.baseSettings read = .ok base ∧ Overrides source options base settings ∧
        ∀ selected, settings.resolveSweeps selected = base.resolveSweeps selected := by
  refine ⟨⟨?loads, ?loaded⟩, ?changes⟩
  case loads =>
    rintro ⟨settings, loaded⟩
    obtain ⟨base, found, comparable, -⟩ := loadForRun_ok_iff.mp loaded
    have valid : base.Valid := Source.valid_of_base found
    exact ⟨⟨base, found, Settings.validate_ok_iff.mpr valid⟩, comparable⟩
  case loaded =>
    rintro ⟨⟨base, found, -⟩, comparable⟩
    exact ⟨_, loadForRun_ok_iff.mpr ⟨base, found, comparable, rfl⟩⟩
  case changes =>
    intro settings loaded
    obtain ⟨base, found, comparable, rfl⟩ := loadForRun_ok_iff.mp loaded
    have valid : (source.withOwnEndpoints base).Valid :=
      (Source.valid_withOwnEndpoints_iff (Source.valid_of_base found)).mpr comparable
    have checked := Settings.validate_ok_iff.mpr (valid.withOutput (options.override base.output))
    exact ⟨checked, base, found, overrides_override source options base,
      Settings.resolveSweeps_congr rfl⟩

/-- A file turns the charts off and names a report directory; the command line gives an endpoint and
a log and asks for gaps. -/
theorem sparse_file_is_overridden :
    let source : Source := { path := some "s.json", endpoints := [⟨"edge", "10.0.0.9", 7000⟩] }
    let options : RunOptions := { log := some "runs.log", leaveGaps := true }
    let read : String → Except String String :=
      fun _ => .ok "\x7b\"output\": \x7b\"charts\": false, \"report_dir\": \"r\"\x7d\x7d"
    ∃ settings, loadForRun source options read = .ok settings ∧ settings.validate = .ok () ∧
      settings.endpoints = [⟨"edge", "10.0.0.9", 7000⟩] ∧
      settings.output.logPath = "runs.log" ∧ settings.output.reportDirectory = "r" ∧
      settings.output.missing = .gap ∧ settings.output.charts = false ∧
      settings.sweeps = Settings.builtin.sweeps := by
  intro source options read
  obtain ⟨loads, changes⟩ := overrides_change_what_they_name source options read
  let base : Settings :=
    { Settings.builtin with output := { reportDirectory := "r", charts := false } }
  have found : source.baseSettings read = .ok base := by decide +kernel
  have valid : base.validate = .ok () := by decide +kernel
  obtain ⟨settings, loaded⟩ := loads.mpr ⟨⟨base, found, valid⟩, fun _ => by decide +kernel⟩
  obtain ⟨checked, _, again, overrides, -⟩ := changes settings loaded
  cases found.symm.trans again
  exact ⟨settings, loaded, checked, overrides.endpoints, overrides.log, overrides.directory,
    overrides.missing.mpr (.inr rfl), overrides.charts.mpr (.inl rfl), overrides.sweeps⟩

end CommandLine

end LoadSweep
