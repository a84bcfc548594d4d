import LoadSweep.Proofs.Json.RoundTrip
import LoadSweep.Proofs.Settings.Decoding
import LoadSweep.Proofs.Settings.Validity
import LoadSweep.Settings.Loading

/-!
# Settings come back

Whatever is removed from valid settings, the settings with the defaults in its place are valid
(`Settings.Valid.reset`): a default passes every check that the removed value passed.  So what is
decoded from an edited document is accepted.

That a text is read back as the tree for which it was written is a matter of the two formats
(`Settings.ReadsAs`).  For JSON it is so, by `Json.Legible.read_written`; the tree of settings is
legible, and as it has no member twice it is an edit of itself (`Settings.emitted`).  For YAML it is
a hypothesis.

The main statement is `settings_come_back`.
-/

namespace LoadSweep

set_option autoImplicit false

open Json Document

/-! ## Defaults are valid -/

/-- What holds of a default and of a value holds of whichever is left. -/
theorem Removal.pick_of {α : Type} (holds : α → Prop) (removal : Removal) (name : String)
    {absent given : α} (default : holds absent) (value : holds given) :
    holds (removal.pick name absent given) := by
  unfold pick
  split
  · exact default
  · exact value

/-- A sweep that can be resolved stays so with default constants. -/
theorem SweepDeclaration.Resolvable.reset {declaration : SweepDeclaration}
    (resolvable : declaration.Resolvable) (removal : Removal) :
    (declaration.reset removal).Resolvable where
  named := resolvable.named
  values := resolvable.values
  clients := removal.pick_of (· ≠ 0) "clients" (by decide) resolvable.clients
  pipeline := removal.pick_of (· ≠ 0) "pipeline" (by decide) resolvable.pipeline
  distinct := resolvable.distinct
  positive := resolvable.positive
  counted := resolvable.counted

namespace Settings

variable {settings : Settings}

theorem builtin_valid : builtin.Valid :=
  validate_ok_iff.mp (by decide +kernel)

/-- What is checked of sweeps. -/
def SweepsValid (sweeps : List SweepDeclaration) : Prop :=
  sweeps ≠ [] ∧ (sweeps.map SweepDeclaration.name).Nodup ∧
    ∀ declaration ∈ sweeps, declaration.Resolvable

theorem Valid.sweepsValid (valid : settings.Valid) : SweepsValid settings.sweeps :=
  ⟨valid.sweeps, valid.distinct, valid.resolvable⟩

theorem SweepsValid.reset {sweeps : List SweepDeclaration} (valid : SweepsValid sweeps)
    (removal : Nat → Removal) :
    SweepsValid (sweeps.mapIdx fun position declaration =>
      declaration.reset (removal position)) := by
  obtain ⟨some, distinct, resolvable⟩ := valid
  refine ⟨by simpa using some, ?_, ?_⟩
  · have names : (sweeps.mapIdx fun position declaration =>
        declaration.reset (removal position)).map SweepDeclaration.name =
          sweeps.map SweepDeclaration.name := by
      apply List.ext_getElem?
      intro position
      rw [List.getElem?_map, List.getElem?_mapIdx, List.getElem?_map, Option.map_map]
      rfl
    rwa [names]
  · intro declaration within
    obtain ⟨position, bound, rfl⟩ := List.mem_mapIdx.mp within
    exact (resolvable _ (List.getElem_mem bound)).reset _

/-- Valid settings stay valid when any of their parts take their defaults. -/
theorem Valid.reset (valid : settings.Valid) (removal : Removal) :
    (settings.reset removal).Valid := by
  have program : Text.trim (settings.reset removal).client.program.toList ≠ [] :=
    removal.pick_of (fun client : ClientSettings => Text.trim client.program.toList ≠ []) "client"
      builtin_valid.program
      (Removal.pick_of (fun program : String => Text.trim program.toList ≠ []) _ "program"
        builtin_valid.program valid.program)
  have limit : (settings.reset removal).client.timeoutSeconds ≠ 0 :=
    removal.pick_of (fun client : ClientSettings => client.timeoutSeconds ≠ 0) "client"
      builtin_valid.limit
      (Removal.pick_of (· ≠ 0) _ "timeout_secs" builtin_valid.limit valid.limit)
  have patience : (settings.reset removal).probe.timeoutMilliseconds ≠ 0 :=
    removal.pick_of (fun probe : ProbeSettings => probe.timeoutMilliseconds ≠ 0) "probe"
      builtin_valid.patience
      (Removal.pick_of (· ≠ 0) _ "timeout_ms" builtin_valid.patience valid.patience)
  have sweeps : SweepsValid (settings.reset removal).sweeps :=
    removal.pick_of SweepsValid "sweeps" builtin_valid.sweepsValid
      (valid.sweepsValid.reset fun position =>
        (removal.under (.member "sweeps")).under (.item position))
  have endpoints : Endpoint.validate (settings.reset removal).endpoints = .ok () :=
    removal.pick_of (fun endpoints => Endpoint.validate endpoints = .ok ()) "endpoints"
      builtin_valid.endpoints valid.endpoints
  exact ⟨endpoints, program, limit, patience, sweeps.1, sweeps.2.1, sweeps.2.2⟩

theorem checked_of_valid (valid : settings.Valid) : checked (some settings) = .ok settings := by
  simp only [checked, validate_ok_iff.mpr valid]

end Settings

/-! ## Trees of settings -/

/-- A tree as settings have them: its text is read as it is, its document shows it, and it is an
edit of itself. -/
structure Json.Emitted (room : Nat) (tree : Json) : Prop where
  legible : tree.Legible
  shown : (ofJson tree).shows true room tree = true
  whole : tree.edits .none tree = true

namespace Json

variable {room : Nat}

theorem emitted_ofString (text : String) : Emitted room (ofString text) :=
  ⟨legible_ofString text, shows_ofString room text, edits_scalar rfl _⟩

theorem emitted_flag (value : Bool) : Emitted room (.flag value) :=
  ⟨.flag value, shows_flag room value, edits_scalar rfl _⟩

theorem emitted_ofNat {n : Nat} (small : n < UInt64.size) : Emitted room (ofNat n) :=
  ⟨legible_ofNat n, shows_ofNat room small, edits_scalar rfl _⟩

theorem emitted_word16 (n : UInt16) : Emitted room (ofNat n.toNat) :=
  emitted_ofNat (Nat.lt_trans n.toNat_lt_size (by decide))

theorem emitted_word32 (n : UInt32) : Emitted room (ofNat n.toNat) :=
  emitted_ofNat (Nat.lt_trans n.toNat_lt_size (by decide))

theorem emitted_word64 (n : UInt64) : Emitted room (ofNat n.toNat) :=
  emitted_ofNat n.toNat_lt_size

theorem emitted_items {α : Type} {tree : α → Json} {items : List α}
    (each : ∀ item ∈ items, Emitted room (tree item)) :
    Emitted (room + 1) (.array (items.map tree)) where
  legible := legible_items fun item within => (each item within).legible
  shown := shows_array (List.forall_mem_map.mpr fun item within => (each item within).shown)
  whole := edits_array (List.forall_mem_map.mpr fun item within => (each item within).whole)

theorem emitted_ofMembers {members : List (String × Json)} (distinct : (members.map Prod.fst).Nodup)
    (each : ∀ member ∈ members, Emitted room member.2) :
    Emitted (room + 1) (ofMembers members) where
  legible := legible_ofMembers fun member within => (each member within).legible
  shown := shows_ofMembers fun member within => (each member within).shown
  whole := edits_ofMembers distinct fun member within => (each member within).whole

end Json

variable {room : Nat}

theorem Endpoint.emitted (endpoint : Endpoint) : endpoint.toJson.Emitted (room + 1) := by
  apply emitted_ofMembers (by simp)
  simp [emitted_ofString, emitted_word16]

theorem RequestRule.emitted (rule : RequestRule) : rule.toJson.Emitted (room + 3) := by
  cases rule with
  | fixed count =>
    apply emitted_ofMembers (by simp)
    simp [emitted_ofString, emitted_word64]
  | perPoint entries =>
    apply emitted_ofMembers (by simp)
    have lines : Emitted (room + 2) (.array (entries.map fun entry => ofMembers
        [("value", ofNat entry.value.toNat), ("requests", ofNat entry.requests.toNat)])) := by
      apply emitted_items
      intro entry _
      apply emitted_ofMembers (by simp)
      simp [emitted_word32, emitted_word64]
    simp [emitted_ofString, lines]
  | scaled perUnit low high =>
    apply emitted_ofMembers (by simp)
    simp [emitted_ofString, emitted_word64]

theorem SweepDeclaration.emitted (declaration : SweepDeclaration) :
    declaration.toJson.Emitted (room + 4) := by
  have values : Emitted (room + 3)
      (.array (declaration.values.map fun value => ofNat value.toNat)) :=
    emitted_items fun value _ => emitted_word32 value
  apply emitted_ofMembers (by simp)
  simp [emitted_ofString, emitted_word32, values, RequestRule.emitted]

theorem ClientSettings.emitted (client : ClientSettings) : client.toJson.Emitted (room + 2) := by
  have arguments : Emitted (room + 1) (.array (client.extraArguments.map ofString)) :=
    emitted_items fun argument _ => emitted_ofString argument
  apply emitted_ofMembers (by simp)
  simp [emitted_ofString, emitted_word64, emitted_flag, arguments]

theorem OutputSettings.emitted (output : OutputSettings) : output.toJson.Emitted (room + 1) := by
  apply emitted_ofMembers (by simp)
  simp [emitted_ofString, emitted_flag]

theorem Settings.emitted (settings : Settings) : settings.toJson.Emitted (room + 6) := by
  have endpoints : Emitted (room + 5) (.array (settings.endpoints.map Endpoint.toJson)) :=
    emitted_items fun endpoint _ => endpoint.emitted
  have sweeps : Emitted (room + 5) (.array (settings.sweeps.map SweepDeclaration.toJson)) :=
    emitted_items fun declaration _ => declaration.emitted
  have probe : Emitted (room + 5)
      (ofMembers [("timeout_ms", ofNat settings.probe.timeoutMilliseconds.toNat)]) := by
    apply emitted_ofMembers (by simp)
    simp [emitted_word64]
  apply emitted_ofMembers (by simp)
  simp [endpoints, sweeps, probe, ClientSettings.emitted, OutputSettings.emitted]

/-! ## Texts of settings -/

namespace Settings

variable {settings : Settings} {removal : Removal} {edited : Json}

/-- The document that a text in JSON or in YAML is read as. -/
def documentOf? (json : Bool) (text : String) : Option Document :=
  if json then (Json.read? text).map ofJson else Yaml.readDocument? text

/-- Whether a text in JSON or in YAML is read back as a tree. -/
def ReadsAs (json : Bool) (text : String) (tree : Json) : Prop :=
  ∃ document, documentOf? json text = some document ∧
    document.shows json (RequestRule.nestingLimit json) tree = true

theorem readsAs_yaml_iff {text : String} {tree : Json} :
    (Yaml.readDocument? text).any (·.shows false 128 tree) = true ↔ ReadsAs false text tree := by
  rw [Option.any_eq_true]
  rfl

/-- Whether a path names a file with JSON. -/
def namesJson (path : String) : Bool :=
  Path.extension? path == some "json"

/-- Settings are read from the document of a text in the format of a path. -/
theorem ofText_eq (path text : String) :
    ofText path text = checked ((documentOf? (namesJson path) text).bind Settings.ofDocument?) := by
  unfold ofText namesJson
  split
  · rename_i json
    rw [documentOf?, if_pos json, Option.bind_map]
    rfl
  · rename_i yaml
    rw [documentOf?, if_neg yaml]
    rfl

/-- A text that is read back as an edited tree is decoded with the defaults of what was removed, and
accepted. -/
theorem ReadsAs.checked {json : Bool} {text : String} (reads : ReadsAs json text edited)
    (valid : settings.Valid) (omits : Omits removal)
    (edit : settings.toJson.edits removal edited = true) :
    Settings.checked ((documentOf? json text).bind Settings.ofDocument?) =
      .ok (settings.reset removal) := by
  obtain ⟨document, read, shown⟩ := reads
  rw [read, Option.bind_some, ofDocument?_of_carries omits ⟨edited, edit, shown⟩]
  exact checked_of_valid (valid.reset removal)

theorem omits_none : Omits .none := nofun

theorem reset_none : settings.reset .none = settings := by
  have sweeps : (settings.sweeps.mapIdx fun position declaration =>
      declaration.reset (Removal.none.under (.member "sweeps") |>.under (.item position))) =
        settings.sweeps := by
    apply List.ext_getElem?
    intro position
    rw [List.getElem?_mapIdx]
    exact Option.map_id_apply
  rw [reset, sweeps]
  rfl

/-- The text of settings in JSON is read back as their tree. -/
theorem readsAs_written (spacing : Spacing) :
    ReadsAs true (String.ofList (writeValue spacing 0 settings.toJson)) settings.toJson := by
  have emitted : settings.toJson.Emitted 127 := settings.emitted
  refine ⟨ofJson settings.toJson, ?_, emitted.shown⟩
  rw [documentOf?, if_pos rfl, emitted.legible.read_written, Option.map_some]

end Settings

/-- **Settings come back.** Valid settings are read from their YAML, if that is read back as their
tree, and from their JSON, which is.  From a text that is read back as an edited tree, with any
members removed that may be absent and any members of other names added, the settings are read with
the defaults of what was removed; they are valid again. -/
theorem settings_come_back (settings : Settings) (valid : settings.validate = .ok ()) :
    (Settings.ReadsAs false settings.toYaml settings.toJson →
      Settings.ofYamlText settings.toYaml = .ok settings) ∧
    (∀ read path, Path.extension? path = some "json" →
      (read path = .ok settings.toJson.pretty ∨ read path = .ok settings.toJson.compact) →
        Settings.load read path = .ok settings) ∧
    ∀ removal edited, Settings.Omits removal → settings.toJson.edits removal edited = true →
      (settings.reset removal).validate = .ok () ∧
      (∀ text, Settings.ReadsAs false text edited →
        Settings.ofYamlText text = .ok (settings.reset removal)) ∧
      ∀ read path text, read path = .ok text →
        Settings.ReadsAs (Settings.namesJson path) text edited →
          Settings.load read path = .ok (settings.reset removal) := by
  have valid := Settings.validate_ok_iff.mp valid
  -- Settings as they are written are the case of an edit that removes and adds nothing.
  have whole : settings.toJson.edits .none settings.toJson = true :=
    (settings.emitted : settings.toJson.Emitted 6).whole
  refine ⟨?_, ?_, ?_⟩
  · intro reads
    have accepted := reads.checked valid Settings.omits_none whole
    rwa [Settings.reset_none] at accepted
  · intro read path json written
    obtain ⟨spacing, text⟩ : ∃ spacing,
        read path = .ok (String.ofList (writeValue spacing 0 settings.toJson)) := by
      rcases written with pretty | compact
      · exact ⟨.lined, pretty⟩
      · exact ⟨.tight, compact⟩
    have named : Settings.namesJson path = true := by
      rw [Settings.namesJson, json, beq_self_eq_true]
    have accepted := (Settings.readsAs_written spacing).checked valid Settings.omits_none whole
    rw [Settings.reset_none] at accepted
    simp only [Settings.load, text, Settings.ofText_eq, named]
    exact accepted
  · intro removal edited omits edit
    refine ⟨Settings.validate_ok_iff.mpr (valid.reset removal), ?_, ?_⟩
    · intro text reads
      exact reads.checked valid omits edit
    · intro read path text found reads
      simp only [Settings.load, found, Settings.ofText_eq]
      exact reads.checked valid omits edit

/-- Settings with a text that would read as a truth value, one that has to be quoted, and a sweep
that is scaled. -/
def modestSettings : Settings where
  endpoints := [⟨"r", "h", 1⟩]
  client := { program := "true", warmup := false }
  probe := { timeoutMilliseconds := 5 }
  sweeps := [⟨"a", "b: c", .get, .clients, [1], 7, 8, .scaled 10 1 5⟩]
  output := { charts := false }

/-- A removal of two sections, of a field of a third one, and of a constant of a sweep. -/
def modestRemoval : Removal := fun steps =>
  [[.member "probe"], [.member "output"], [.member "client", .member "program"],
    [.member "sweeps", .item 0, .member "clients"]].contains steps

/-- The tree of the settings after the removal, with a member of another name in it and in the
request rule, and with the kind of the rule among its fields. -/
def modestEdit : Json :=
  ofMembers
    [("note", .array [ofNat 1, .flag true]),
      ("endpoints", .array [Endpoint.toJson ⟨"r", "h", 1⟩]),
      ("client", ofMembers [("extra_args", .array []), ("timeout_secs", ofNat 120),
        ("warmup", .flag false)]),
      ("sweeps", .array [ofMembers [("name", ofString "a"), ("title", ofString "b: c"),
        ("operation", ofString "get"), ("axis", ofString "clients"), ("values", .array [ofNat 1]),
        ("pipeline", ofNat 8), ("requests", ofMembers [("per_unit", ofNat 10),
          ("count", ofString "none"), ("rule", ofString "scaled"), ("min", ofNat 1),
          ("max", ofNat 5)])]])]

/-- Modest settings come back from both formats, and after the edit with four defaults. -/
theorem modest_settings_come_back :
    modestSettings.validate = .ok () ∧
      Settings.ofYamlText modestSettings.toYaml = .ok modestSettings ∧
      Settings.load (fun _ => .ok modestSettings.toJson.pretty) "s.json" = .ok modestSettings ∧
      modestSettings.toJson.edits modestRemoval modestEdit = true ∧
      Settings.load (fun _ => .ok (Yaml.write modestEdit)) "s.yaml" =
        .ok { modestSettings with
          client := { modestSettings.client with program := "redis-benchmark" }
          probe := {}
          output := {}
          sweeps := [⟨"a", "b: c", .get, .clients, [1], 50, 8, .scaled 10 1 5⟩] } := by
  have valid : modestSettings.validate = .ok () := by decide +kernel
  obtain ⟨yaml, json, edited⟩ := settings_come_back modestSettings valid
  -- The characters are read where they are written, without a text in between.
  have readsWhole : Settings.ReadsAs false modestSettings.toYaml modestSettings.toJson := by
    rw [← Settings.readsAs_yaml_iff]
    simp only [Settings.toYaml, Settings.toJson, ofMembers, Yaml.write, Yaml.readDocument?,
      Yaml.readNodes?, Yaml.tokens?, String.toList_ofList, String.length_ofList]
    decide +kernel
  have readsEdit : Settings.ReadsAs false (Yaml.write modestEdit) modestEdit := by
    rw [← Settings.readsAs_yaml_iff]
    simp only [modestEdit, ofMembers, Yaml.write, Yaml.readDocument?, Yaml.readNodes?, Yaml.tokens?,
      String.toList_ofList, String.length_ofList]
    decide +kernel
  have omits : Settings.Omits modestRemoval := by
    intro steps removed
    simp only [modestRemoval, List.contains_iff_mem, List.mem_cons, List.not_mem_nil,
      or_false] at removed
    rcases removed with rfl | rfl | rfl | rfl <;> rfl
  have edit : modestSettings.toJson.edits modestRemoval modestEdit = true := by decide +kernel
  have reset : modestSettings.reset modestRemoval =
      { modestSettings with
        client := { modestSettings.client with program := "redis-benchmark" }
        probe := {}
        output := {}
        sweeps := [⟨"a", "b: c", .get, .clients, [1], 50, 8, .scaled 10 1 5⟩] } := by
    decide +kernel
  obtain ⟨-, -, loaded⟩ := edited modestRemoval modestEdit omits edit
  have loaded := loaded (fun _ => .ok (Yaml.write modestEdit)) "s.yaml" _ rfl readsEdit
  rw [reset] at loaded
  exact ⟨valid, yaml readsWhole, json _ _ (by decide +kernel) (.inl rfl), edit, loaded⟩

end LoadSweep
