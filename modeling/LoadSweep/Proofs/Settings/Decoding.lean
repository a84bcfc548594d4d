import LoadSweep.Proofs.Document.Edits
import LoadSweep.Settings.Encoding

/-!
# Decoding edited settings

Settings are written with all their fields.  A part of them is read from every document that shows
its tree, whatever members of other names were added.  The parts that may be absent may also have
been removed, and then they have their defaults: the five sections, the fields of three of them, and
the constants of every sweep (`DefaultedKey`).  So what is read are the settings with the defaults
of the omitted keys (`Settings.reset`, `Settings.ofDocument?_of_carries`).

The kind of a request rule stands among its fields, wherever an edit has put it.  Its other members
are read after their types were decided, which needs the depth of the rule to be within bounds
(`RequestRule.splitKind?_of_shows`).
-/

namespace LoadSweep

set_option autoImplicit false

open Json Document

variable {removal : Removal} {decided : Bool} {room : Nat} {document : Document}

/-- Nothing is removed. -/
def Removal.Spares (removal : Removal) : Prop :=
  ∀ steps, removal steps = false

theorem Removal.Spares.under (spares : removal.Spares) (step : Step) :
    (removal.under step).Spares :=
  fun steps => spares (step :: steps)

/-! ## Names -/

theorem Operation.ofDocument?_of_carries {operation : Operation}
    (carries : document.Carries removal decided room (ofString operation.key)) :
    Operation.ofDocument? document = some operation := by
  rw [Operation.ofDocument?, carries.choice?]
  cases operation <;> rfl

theorem Axis.ofDocument?_of_carries {axis : Axis}
    (carries : document.Carries removal decided room (ofString axis.key)) :
    Axis.ofDocument? document = some axis := by
  rw [Axis.ofDocument?, carries.choice?]
  cases axis <;> rfl

theorem MissingPolicy.ofDocument?_of_carries {policy : MissingPolicy}
    (carries : document.Carries removal decided room (ofString policy.key)) :
    MissingPolicy.ofDocument? document = some policy := by
  rw [MissingPolicy.ofDocument?, carries.choice?]
  cases policy <;> rfl

/-! ## Endpoints -/

theorem Endpoint.ofDocument?_of_carries {endpoint : Endpoint} (spares : removal.Spares)
    (carries : document.Carries removal decided (room + 1) endpoint.toJson) :
    Endpoint.ofDocument? document = some endpoint := by
  obtain ⟨fields, given, hold⟩ := carries.fields? ["name", "host", "port"] rfl
  have name : fields.required? "name" text? = some endpoint.name :=
    hold.required? (by simp) (spares _) fun _ part => part.text?
  have host : fields.required? "host" text? = some endpoint.host :=
    hold.required? (by simp) (spares _) fun _ part => part.text?
  have port : fields.required? "port" word16? = some endpoint.port :=
    hold.required? (by simp) (spares _) fun _ part => part.word16?
  simp [Endpoint.ofDocument?, given, name, host, port]

/-! ## Request rules -/

namespace RequestRule

/-- The kind of a rule and its other entries are found wherever they stand. -/
theorem splitKind?_of_shows {entries : List (Document × Document)}
    {members : List (Option String × Json)} {kind : Option String}
    (shown : showsEntries decided room entries members = true)
    (single : (members.filter (·.1 == some "rule")).map Prod.snd = kind.toList.map ofString) :
    ∃ settled, splitKind? room entries = some (kind, settled) ∧
      showsEntries true room settled (members.filter (·.1 != some "rule")) = true := by
  -- Over the members that are left; behind the kind there is no other one.
  induction members generalizing entries kind with
  | nil =>
    cases kind with
    | some => cases single
    | none =>
      cases entries with
      | nil => exact ⟨[], rfl, rfl⟩
      | cons => cases shown
  | cons member members ih =>
    obtain ⟨name, value⟩ := member
    cases entries with
    | nil => cases shown
    | cons entry entries =>
      obtain ⟨key, item⟩ := entry
      cases name with
      | none => cases shown
      | some name =>
        simp only [showsEntries, Bool.and_eq_true] at shown
        obtain ⟨⟨named, first⟩, rest⟩ := shown
        obtain ⟨settledKey, done, again⟩ := settle?_of_showsScalar room named
        have spelled : settledKey.text? = some name := text?_of_shows again
        by_cases isKind : name = "rule"
        · subst isKind
          rw [List.filter_cons_of_pos (by simp), List.map_cons] at single
          rw [List.filter_cons_of_neg (by simp)]
          cases kind with
          | none => cases single
          | some kind =>
            obtain ⟨same, others⟩ := List.cons.inj single
            obtain ⟨settled, split, restAgain⟩ :=
              ih rest (show _ = (none : Option String).toList.map ofString from others)
            have read : item.text? = some kind := by
              rw [show value = ofString kind from same, shows_scalar rfl] at first
              exact text?_of_shows first
            refine ⟨settled, ?_, restAgain⟩
            simp [splitKind?, done, spelled, read, split]
        · rw [List.filter_cons_of_neg (by simpa using isKind)] at single
          rw [List.filter_cons_of_pos (by simpa using isKind)]
          obtain ⟨settledItem, decidedItem, firstAgain⟩ := settle?_of_shows value room item first
          obtain ⟨settled, split, restAgain⟩ := ih rest single
          refine ⟨(settledKey, settledItem) :: settled, ?_, ?_⟩
          · simp [splitKind?, done, spelled, isKind, decidedItem, split]
          · simp only [showsEntries, again, firstAgain, restAgain, Bool.and_self]

/-- Members of other names do not matter to what became of a member. -/
theorem edit_filter {others : List (Option String × Json)} {member : String × Json} {name : String}
    (differs : member.1 ≠ name) (edit : Edit removal others member) :
    Edit removal (others.filter (·.1 != some name)) member := by
  have same : (others.filter (·.1 != some name)).filter (·.1 == some member.1) =
      others.filter (·.1 == some member.1) := by
    rw [List.filter_filter]
    apply List.filter_congr
    intro other _
    by_cases found : other.1 = some member.1
    · simp [found, differs]
    · simp [found]
  rwa [Edit, same]

/-- A rule is read by its kind, from a document with decided types that carries its other fields. -/
theorem ofDocument?_of_kind {kind : String} {rest : List (String × Json)}
    (fresh : ∀ member ∈ rest, member.1 ≠ "rule") (spares : removal.Spares)
    (carries : document.Carries removal decided (nestingLimit decided - enclosing)
      (ofMembers (("rule", ofString kind) :: rest))) :
    ∃ part, RequestRule.ofDocument? document = ofKind? kind part ∧
      part.Carries removal true (nestingLimit decided - enclosing) (ofMembers rest) := by
  obtain ⟨edited, edit, shown⟩ := carries
  obtain ⟨others, rfl, edit⟩ := edits_object_inv edit
  obtain ⟨depth, entries, level, rfl, all⟩ := shows_object_inv shown
  obtain ⟨first, each⟩ := List.forall_mem_cons.mp (editsMembers_iff.mp edit)
  rcases first with ⟨removed, -⟩ | ⟨-, key, value, single, same⟩
  · cases (spares _).symm.trans removed
  cases eq_of_edits rfl same
  obtain ⟨settled, split, again⟩ := splitKind?_of_shows all
    (show _ = (some kind).toList.map ofString by rw [single]; rfl)
  refine ⟨.record true settled, ?_, .object (others.filter (·.1 != some "rule")), ?_, ?_⟩
  · have within : nestingLimit decided - enclosing - 1 = depth := by omega
    simp [RequestRule.ofDocument?, within, split]
  · rw [ofMembers, edits, editsMembers_iff]
    exact fun member among => edit_filter (fresh member among) (each member among)
  · rw [level]
    simp [shows, again]

/-- A line of a request table is read from a document that carries it. -/
theorem entryOfDocument?_of_carries {entry : RequestEntry} (spares : removal.Spares)
    (carries : document.Carries removal decided (room + 1)
      (ofMembers [("value", ofNat entry.value.toNat), ("requests", ofNat entry.requests.toNat)])) :
    entryOfDocument? document = some entry := by
  obtain ⟨fields, given, hold⟩ := carries.fields? ["value", "requests"] rfl
  have value : fields.required? "value" word32? = some entry.value :=
    hold.required? (by simp) (spares _) fun _ part => part.word32?
  have requests : fields.required? "requests" word64? = some entry.requests :=
    hold.required? (by simp) (spares _) fun _ part => part.word64?
  simp [entryOfDocument?, given, value, requests]

/-- A rule is read from a document that carries it at its depth in a configuration. -/
theorem ofDocument?_of_carries {rule : RequestRule} (spares : removal.Spares)
    (carries : document.Carries removal decided (nestingLimit decided - enclosing) rule.toJson) :
    RequestRule.ofDocument? document = some rule := by
  obtain ⟨room, level⟩ : ∃ room, nestingLimit decided - enclosing = room + 3 := by
    cases decided <;> exact ⟨_, rfl⟩
  cases rule with
  | fixed count =>
    obtain ⟨part, read, rest⟩ := ofDocument?_of_kind (by simp) spares carries
    rw [level] at rest
    obtain ⟨fields, given, hold⟩ := rest.fields? ["count"] rfl
    have count : fields.required? "count" word64? = some count :=
      hold.required? (by simp) (spares _) fun _ part => part.word64?
    simp [read, ofKind?, given, count]
  | perPoint entries =>
    obtain ⟨part, read, rest⟩ := ofDocument?_of_kind (by simp) spares carries
    rw [level] at rest
    obtain ⟨fields, given, hold⟩ := rest.fields? ["counts"] rfl
    have counts : fields.required? "counts" (listOf? entryOfDocument?) = some entries :=
      hold.required? (by simp) (spares _) fun _ part =>
        part.listOf? fun _ _ _ line => entryOfDocument?_of_carries ((spares.under _).under _) line
    simp [read, ofKind?, given, counts]
  | scaled perUnit low high =>
    obtain ⟨part, read, rest⟩ := ofDocument?_of_kind (by simp) spares carries
    rw [level] at rest
    obtain ⟨fields, given, hold⟩ := rest.fields? ["per_unit", "min", "max"] rfl
    have perUnit : fields.required? "per_unit" word64? = some perUnit :=
      hold.required? (by simp) (spares _) fun _ part => part.word64?
    have low : fields.required? "min" word64? = some low :=
      hold.required? (by simp) (spares _) fun _ part => part.word64?
    have high : fields.required? "max" word64? = some high :=
      hold.required? (by simp) (spares _) fun _ part => part.word64?
    simp [read, ofKind?, given, perUnit, low, high]

end RequestRule

/-! ## Sweeps and sections -/

/-- A sweep with the defaults of the constants that were removed. -/
def SweepDeclaration.reset (removal : Removal) (declaration : SweepDeclaration) :
    SweepDeclaration :=
  { declaration with
    clients := removal.pick "clients" defaultClients declaration.clients
    pipeline := removal.pick "pipeline" defaultPipeline declaration.pipeline }

/-- The client section with the defaults of the fields that were removed. -/
def ClientSettings.reset (removal : Removal) (client : ClientSettings) : ClientSettings :=
  let absent : ClientSettings := {}
  { program := removal.pick "program" absent.program client.program
    extraArguments := removal.pick "extra_args" absent.extraArguments client.extraArguments
    timeoutSeconds := removal.pick "timeout_secs" absent.timeoutSeconds client.timeoutSeconds
    warmup := removal.pick "warmup" absent.warmup client.warmup }

/-- The probe section with the default of its field if that was removed. -/
def ProbeSettings.reset (removal : Removal) (probe : ProbeSettings) : ProbeSettings :=
  let absent : ProbeSettings := {}
  { timeoutMilliseconds :=
      removal.pick "timeout_ms" absent.timeoutMilliseconds probe.timeoutMilliseconds }

/-- The output section with the defaults of the fields that were removed. -/
def OutputSettings.reset (removal : Removal) (output : OutputSettings) : OutputSettings :=
  let absent : OutputSettings := {}
  { logPath := removal.pick "log_path" absent.logPath output.logPath
    reportDirectory := removal.pick "report_dir" absent.reportDirectory output.reportDirectory
    missing := removal.pick "null_policy" absent.missing output.missing
    charts := removal.pick "charts" absent.charts output.charts }

/-- A sweep is read with the defaults of the constants that were removed. -/
theorem SweepDeclaration.ofDocument?_of_carries {declaration : SweepDeclaration}
    (spares : ∀ name steps, name ≠ "clients" → name ≠ "pipeline" →
      removal (.member name :: steps) = false)
    (carries : document.Carries removal decided
      (RequestRule.nestingLimit decided - RequestRule.enclosing + 1) declaration.toJson) :
    SweepDeclaration.ofDocument? document = some (declaration.reset removal) := by
  obtain ⟨fields, given, hold⟩ := carries.fields?
    ["name", "title", "operation", "axis", "values", "clients", "pipeline", "requests"] rfl
  obtain ⟨room, level⟩ :
      ∃ room, RequestRule.nestingLimit decided - RequestRule.enclosing = room + 1 := by
    cases decided <;> exact ⟨_, rfl⟩
  have name : fields.required? "name" text? = some declaration.name :=
    hold.required? (by simp) (spares _ _ (by simp) (by simp)) fun _ part => part.text?
  have title : fields.required? "title" text? = some declaration.title :=
    hold.required? (by simp) (spares _ _ (by simp) (by simp)) fun _ part => part.text?
  have operation : fields.required? "operation" Operation.ofDocument? =
      some declaration.operation :=
    hold.required? (by simp) (spares _ _ (by simp) (by simp)) fun _ part =>
      Operation.ofDocument?_of_carries part
  have axis : fields.required? "axis" Axis.ofDocument? = some declaration.axis :=
    hold.required? (by simp) (spares _ _ (by simp) (by simp)) fun _ part =>
      Axis.ofDocument?_of_carries part
  have values : fields.required? "values" (listOf? word32?) = some declaration.values :=
    hold.required? (by simp) (spares _ _ (by simp) (by simp)) fun _ part =>
      Carries.listOf? (level ▸ part) fun _ _ _ value => value.word32?
  have clients : fields.optional? "clients" defaultClients word32? =
      some (removal.pick "clients" defaultClients declaration.clients) :=
    hold.optional? (by simp) fun _ part => part.word32?
  have pipeline : fields.optional? "pipeline" defaultPipeline word32? =
      some (removal.pick "pipeline" defaultPipeline declaration.pipeline) :=
    hold.optional? (by simp) fun _ part => part.word32?
  have requests : fields.required? "requests" RequestRule.ofDocument? =
      some declaration.requests :=
    hold.required? (by simp) (spares _ _ (by simp) (by simp)) fun _ part =>
      RequestRule.ofDocument?_of_carries (fun steps => spares _ steps (by simp) (by simp)) part
  simp [SweepDeclaration.ofDocument?, given, name, title, operation, axis, values, clients,
    pipeline, requests, reset]

/-- The client section is read with the defaults of the fields that were removed. -/
theorem ClientSettings.ofDocument?_of_carries {client : ClientSettings}
    (carries : document.Carries removal decided (room + 2) client.toJson) :
    ClientSettings.ofDocument? document = some (client.reset removal) := by
  obtain ⟨fields, given, hold⟩ := carries.fields?
    ["program", "extra_args", "timeout_secs", "warmup"] rfl
  have program (absent : String) : fields.optional? "program" absent text? =
      some (removal.pick "program" absent client.program) :=
    hold.optional? (by simp) fun _ part => part.text?
  have extraArguments (absent : List String) :
      fields.optional? "extra_args" absent (listOf? text?) =
        some (removal.pick "extra_args" absent client.extraArguments) :=
    hold.optional? (by simp) fun _ part => part.listOf? fun _ _ _ argument => argument.text?
  have timeoutSeconds (absent : UInt64) : fields.optional? "timeout_secs" absent word64? =
      some (removal.pick "timeout_secs" absent client.timeoutSeconds) :=
    hold.optional? (by simp) fun _ part => part.word64?
  have warmup (absent : Bool) : fields.optional? "warmup" absent flag? =
      some (removal.pick "warmup" absent client.warmup) :=
    hold.optional? (by simp) fun _ part => part.flag?
  simp [ClientSettings.ofDocument?, given, program, extraArguments, timeoutSeconds, warmup, reset]

/-- The probe section is read with the default of its field if that was removed. -/
theorem ProbeSettings.ofDocument?_of_carries {probe : ProbeSettings}
    (carries : document.Carries removal decided (room + 1)
      (ofMembers [("timeout_ms", ofNat probe.timeoutMilliseconds.toNat)])) :
    ProbeSettings.ofDocument? document = some (probe.reset removal) := by
  obtain ⟨fields, given, hold⟩ := carries.fields? ["timeout_ms"] rfl
  have timeoutMilliseconds (absent : UInt64) : fields.optional? "timeout_ms" absent word64? =
      some (removal.pick "timeout_ms" absent probe.timeoutMilliseconds) :=
    hold.optional? (by simp) fun _ part => part.word64?
  simp [ProbeSettings.ofDocument?, given, timeoutMilliseconds, reset]

/-- The output section is read with the defaults of the fields that were removed. -/
theorem OutputSettings.ofDocument?_of_carries {output : OutputSettings}
    (carries : document.Carries removal decided (room + 1) output.toJson) :
    OutputSettings.ofDocument? document = some (output.reset removal) := by
  obtain ⟨fields, given, hold⟩ := carries.fields?
    ["log_path", "report_dir", "null_policy", "charts"] rfl
  have logPath (absent : String) : fields.optional? "log_path" absent text? =
      some (removal.pick "log_path" absent output.logPath) :=
    hold.optional? (by simp) fun _ part => part.text?
  have reportDirectory (absent : String) : fields.optional? "report_dir" absent text? =
      some (removal.pick "report_dir" absent output.reportDirectory) :=
    hold.optional? (by simp) fun _ part => part.text?
  have missing (absent : MissingPolicy) :
      fields.optional? "null_policy" absent MissingPolicy.ofDocument? =
        some (removal.pick "null_policy" absent output.missing) :=
    hold.optional? (by simp) fun _ part => MissingPolicy.ofDocument?_of_carries part
  have charts (absent : Bool) : fields.optional? "charts" absent flag? =
      some (removal.pick "charts" absent output.charts) :=
    hold.optional? (by simp) fun _ part => part.flag?
  simp [OutputSettings.ofDocument?, given, logPath, reportDirectory, missing, charts, reset]

/-! ## Settings -/

namespace Settings

/-- The fields of a section that may be absent. -/
def defaultedFields (name : String) : List String :=
  if name == "client" then ["program", "extra_args", "timeout_secs", "warmup"]
  else if name == "probe" then ["timeout_ms"]
  else if name == "output" then ["log_path", "report_dir", "null_policy", "charts"]
  else []

/-- Whether a member of the tree of settings may be absent: a section, a field of one of three
sections, or a constant of a sweep. -/
def isDefaulted : List Step → Bool
  | [.member name] => ["endpoints", "client", "probe", "sweeps", "output"].contains name
  | [.member name, .member field] => (defaultedFields name).contains field
  | [.member name, .item _, .member field] =>
    name == "sweeps" && ["clients", "pipeline"].contains field
  | _ => false

/-- Only members that may be absent are removed. -/
def Omits (removal : Removal) : Prop :=
  ∀ steps, removal steps = true → isDefaulted steps = true

/-- Settings with the defaults of what was removed. -/
def reset (removal : Removal) (settings : Settings) : Settings where
  endpoints := removal.pick "endpoints" builtin.endpoints settings.endpoints
  client := removal.pick "client" builtin.client
    (settings.client.reset (removal.under (.member "client")))
  probe := removal.pick "probe" builtin.probe
    (settings.probe.reset (removal.under (.member "probe")))
  sweeps := removal.pick "sweeps" builtin.sweeps
    (settings.sweeps.mapIdx fun position declaration =>
      declaration.reset ((removal.under (.member "sweeps")).under (.item position)))
  output := removal.pick "output" builtin.output
    (settings.output.reset (removal.under (.member "output")))

theorem Omits.spares (omits : Omits removal) {steps : List Step}
    (needed : isDefaulted steps = false) : removal steps = false := by
  cases removed : removal steps with
  | false => rfl
  | true => cases needed.symm.trans (omits steps removed)

/-- Nothing is removed below an endpoint. -/
theorem Omits.endpoint (omits : Omits removal) (position : Nat) :
    ((removal.under (.member "endpoints")).under (.item position)).Spares := by
  intro steps
  apply omits.spares
  unfold isDefaulted
  split
  · simp_all
  · simp_all
  · rename_i same
    cases (List.cons.inj same).1
    rfl
  · rfl

/-- Only the constants of a sweep are removed. -/
theorem Omits.sweep (omits : Omits removal) (position : Nat) {name : String} (steps : List Step)
    (clients : name ≠ "clients") (pipeline : name ≠ "pipeline") :
    ((removal.under (.member "sweeps")).under (.item position)) (.member name :: steps) =
      false := by
  apply omits.spares
  unfold isDefaulted
  split <;> simp_all

/-- Settings are read with the defaults of what was removed. -/
theorem ofDocument?_of_carries {settings : Settings} (omits : Omits removal)
    (carries : document.Carries removal decided (RequestRule.nestingLimit decided)
      settings.toJson) :
    Settings.ofDocument? document = some (settings.reset removal) := by
  have level : RequestRule.nestingLimit decided =
      RequestRule.nestingLimit decided - RequestRule.enclosing + 3 := by
    cases decided <;> rfl
  rw [level] at carries
  obtain ⟨fields, given, hold⟩ := carries.fields?
    ["endpoints", "client", "probe", "sweeps", "output"] rfl
  have endpoints (absent : List Endpoint) :
      fields.optional? "endpoints" absent (listOf? Endpoint.ofDocument?) =
        some (removal.pick "endpoints" absent settings.endpoints) :=
    hold.optional? (by simp) fun _ part => part.listOf? fun position _ _ endpoint =>
      Endpoint.ofDocument?_of_carries (omits.endpoint position) endpoint
  have client (absent : ClientSettings) :
      fields.optional? "client" absent ClientSettings.ofDocument? =
        some (removal.pick "client" absent
          (settings.client.reset (removal.under (.member "client")))) :=
    hold.optional? (by simp) fun _ part => ClientSettings.ofDocument?_of_carries part
  have probe (absent : ProbeSettings) :
      fields.optional? "probe" absent ProbeSettings.ofDocument? =
        some (removal.pick "probe" absent
          (settings.probe.reset (removal.under (.member "probe")))) :=
    hold.optional? (by simp) fun _ part => ProbeSettings.ofDocument?_of_carries part
  have sweeps (absent : List SweepDeclaration) :
      fields.optional? "sweeps" absent (listOf? SweepDeclaration.ofDocument?) =
        some (removal.pick "sweeps" absent
          (settings.sweeps.mapIdx fun position declaration =>
            declaration.reset ((removal.under (.member "sweeps")).under (.item position)))) :=
    hold.optional? (by simp) fun _ part => listOf?_of_carries part fun position _ _ _ sweep =>
      SweepDeclaration.ofDocument?_of_carries (fun _ => omits.sweep position) sweep
  have output (absent : OutputSettings) :
      fields.optional? "output" absent OutputSettings.ofDocument? =
        some (removal.pick "output" absent
          (settings.output.reset (removal.under (.member "output")))) :=
    hold.optional? (by simp) fun _ part => OutputSettings.ofDocument?_of_carries part
  simp [Settings.ofDocument?, given, endpoints, client, probe, sweeps, output, reset, builtin]

end Settings

end LoadSweep
