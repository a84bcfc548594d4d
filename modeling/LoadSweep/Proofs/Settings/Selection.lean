import LoadSweep.Proofs.Settings.Validity

/-!
# Selected sweeps

A selection is a list of names, in any order and with repetitions.  Valid settings refuse it exactly
if one of its names is not declared, and the fault reports the first of those
(`Settings.Valid.resolveSweeps_error_iff`).  Any other selection stands for declarations in the
order of the settings, whatever its own order is (`Settings.Selects`), and as no two declarations
share a name, each of them is resolved once.

So selections of the same names are resolved to the same sweeps, or all of them are refused
(`selection_keeps_declared_order`).  The order of a selection shows only in the fault: of several
unknown names the first is reported (`unknown_names_are_reported_in_turn`).
-/

namespace LoadSweep

set_option autoImplicit false

namespace Settings

variable {settings : Settings} {selected : List String}

/-- The names of the declared sweeps. -/
def sweepNames (settings : Settings) : List String :=
  settings.sweeps.map SweepDeclaration.name

theorem mem_sweepNames_iff {name : String} :
    name ∈ settings.sweepNames ↔ ∃ declaration ∈ settings.sweeps, declaration.name = name :=
  List.mem_map

/-- The declarations that a selection stands for, in the order of the settings: all of them if it is
empty, else those whose names it has. -/
structure Selects (settings : Settings) (selected : List String)
    (chosen : List SweepDeclaration) : Prop where
  ordered : chosen.Sublist settings.sweeps
  everything : selected = [] → chosen = settings.sweeps
  named : selected ≠ [] → ∀ declaration ∈ settings.sweeps,
    declaration ∈ chosen ↔ declaration.name ∈ selected

theorem selects_chosen (settings : Settings) (selected : List String) :
    settings.Selects selected (settings.chosen selected) where
  ordered := List.filter_sublist
  everything := by
    rintro rfl
    exact List.filter_eq_self.mpr fun declaration _ => rfl
  named := by
    intro some declaration declared
    simp [chosen, declared, some]

/-- What is chosen depends on the names of a selection only. -/
theorem chosen_congr {other : List String} (same : ∀ name, name ∈ other ↔ name ∈ selected) :
    settings.chosen other = settings.chosen selected := by
  have empty : other.isEmpty = selected.isEmpty := by
    rw [Bool.eq_iff_iff, List.isEmpty_iff, List.isEmpty_iff, List.eq_nil_iff_forall_not_mem,
      List.eq_nil_iff_forall_not_mem]
    exact forall_congr' fun name => not_congr (same name)
  apply List.filter_congr
  intro declaration _
  have held : other.contains declaration.name = selected.contains declaration.name := by
    rw [Bool.eq_iff_iff, List.contains_iff_mem, List.contains_iff_mem]
    exact same declaration.name
  rw [empty, held]

/-- The first unknown name of a selection stands behind known ones. -/
theorem unknownSweep?_eq_some_iff {name : String} :
    settings.unknownSweep? selected = some name ↔
      ∃ before after, selected = before ++ name :: after ∧
        (∀ known ∈ before, known ∈ settings.sweepNames) ∧ name ∉ settings.sweepNames := by
  rw [unknownSweep?, List.find?_eq_some_iff_append]
  simp only [Bool.not_eq_true', List.any_eq_false, beq_iff_eq, Bool.not_not, List.any_eq_true,
    mem_sweepNames_iff, not_exists, not_and]
  constructor
  · rintro ⟨unknown, before, after, split, known⟩
    exact ⟨before, after, split, known, unknown⟩
  · rintro ⟨before, after, split, known, unknown⟩
    exact ⟨unknown, before, after, split, known⟩

/-- Valid settings refuse a selection because of its first unknown name, and for no other reason. -/
theorem Valid.resolveSweeps_error_iff (valid : settings.Valid) {fault : Fault} :
    settings.resolveSweeps selected = .error fault ↔
      ∃ name, settings.unknownSweep? selected = some name ∧
        fault = .setting "sweep" s!"unknown sweep '{name}'" := by
  cases unknown : settings.unknownSweep? selected with
  | some name =>
    rw [resolveSweeps, unknown]
    simp [eq_comm]
  | none =>
    obtain ⟨sweeps, resolved, -⟩ := valid.selected (unknownSweep?_eq_none_iff.mp unknown)
    simp [resolved]

/-- The sweeps of a selection have the names of what is chosen. -/
theorem names_of_resolved {chosen : List SweepDeclaration} {sweeps : List Sweep}
    (resolved : List.Forall₂ (fun declaration sweep => declaration.resolve = .ok sweep)
      chosen sweeps) :
    sweeps.map Sweep.name = chosen.map SweepDeclaration.name := by
  induction resolved with
  | nil => rfl
  | cons first _ others =>
    obtain ⟨-, points, -, rfl⟩ := SweepDeclaration.resolve_ok_iff.mp first
    rw [List.map_cons, List.map_cons, others]

/-- Selections of the same names are resolved alike, or both are refused. -/
theorem toOption_congr {other : List String}
    (same : ∀ name, name ∈ other ↔ name ∈ selected) :
    (settings.resolveSweeps other).toOption = (settings.resolveSweeps selected).toOption := by
  have alike (sweeps : List Sweep) :
      settings.resolveSweeps other = .ok sweeps ↔ settings.resolveSweeps selected = .ok sweeps := by
    rw [resolveSweeps_ok_iff, resolveSweeps_ok_iff, chosen_congr same]
    simp only [same]
  cases first : settings.resolveSweeps other with
  | ok sweeps => rw [(alike sweeps).mp first]
  | error fault =>
    cases second : settings.resolveSweeps selected with
    | ok sweeps =>
      rw [(alike sweeps).mpr second] at first
      cases first
    | error _ => rfl

end Settings

/-- **A selection keeps the order of the settings and repeats nothing.** Valid settings refuse it
exactly if it has an unknown name, and report the first.  Else the selected declarations, or all of
them for an empty selection, are resolved in the order of the settings, each once.  Selections of
the same names are resolved to the same sweeps, or both are refused. -/
theorem selection_keeps_declared_order {settings : Settings} (valid : settings.validate = .ok ())
    (selected : List String) :
    (∀ fault, settings.resolveSweeps selected = .error fault ↔
      ∃ before name after, selected = before ++ name :: after ∧
        (∀ known ∈ before, known ∈ settings.sweepNames) ∧ name ∉ settings.sweepNames ∧
        fault = .setting "sweep" s!"unknown sweep '{name}'") ∧
    ((∀ name ∈ selected, name ∈ settings.sweepNames) →
      ∃ chosen sweeps, settings.resolveSweeps selected = .ok sweeps ∧
        settings.Selects selected chosen ∧
        List.Forall₂ (fun declaration sweep => declaration.resolve = .ok sweep) chosen sweeps ∧
        (sweeps.map Sweep.name).Nodup) ∧
    ∀ other, (∀ name, name ∈ other ↔ name ∈ selected) →
      (settings.resolveSweeps other).toOption = (settings.resolveSweeps selected).toOption := by
  have checked : settings.Valid := Settings.validate_ok_iff.mp valid
  refine ⟨?refused, ?resolved, fun other => Settings.toOption_congr⟩
  case refused =>
    intro fault
    rw [checked.resolveSweeps_error_iff]
    constructor
    · rintro ⟨name, unknown, blamed⟩
      obtain ⟨before, after, split, known, new⟩ := Settings.unknownSweep?_eq_some_iff.mp unknown
      exact ⟨before, name, after, split, known, new, blamed⟩
    · rintro ⟨before, name, after, split, known, new, blamed⟩
      exact ⟨name, Settings.unknownSweep?_eq_some_iff.mpr ⟨before, after, split, known, new⟩, blamed⟩
  case resolved =>
    intro known
    obtain ⟨sweeps, resolved, -⟩ :=
      checked.selected fun name member => Settings.mem_sweepNames_iff.mp (known name member)
    have each := (Settings.resolveSweeps_ok_iff.mp resolved).2
    have selects := settings.selects_chosen selected
    refine ⟨_, sweeps, resolved, selects, each, ?_⟩
    rw [Settings.names_of_resolved each]
    exact checked.distinct.sublist (selects.ordered.map SweepDeclaration.name)

/-- The built-in settings resolve a selection that is out of order and has a repetition in their own
order. -/
theorem repeated_selection_is_ordered :
    Settings.builtin.validate = .ok () ∧
      ∃ sweeps, Settings.builtin.resolveSweeps ["client_set", "batch_get", "client_set"] =
          .ok sweeps ∧
        sweeps.map Sweep.name = ["batch_get", "client_set"] := by
  have valid : Settings.builtin.validate = .ok () := by decide +kernel
  obtain ⟨-, resolves, -⟩ :=
    selection_keeps_declared_order valid ["client_set", "batch_get", "client_set"]
  obtain ⟨chosen, sweeps, resolved, -⟩ := resolves (by decide)
  refine ⟨valid, sweeps, resolved, ?_⟩
  rw [Settings.names_of_resolved (Settings.resolveSweeps_ok_iff.mp resolved).2]
  decide

/-- Two selections of the same unknown names are refused for different ones of them. -/
theorem unknown_names_are_reported_in_turn :
    Settings.builtin.validate = .ok () ∧
      (∀ name, name ∈ ["phantom", "ghost"] ↔ name ∈ ["ghost", "phantom"]) ∧
      Settings.builtin.resolveSweeps ["ghost", "phantom"] =
        .error (.setting "sweep" "unknown sweep 'ghost'") ∧
      Settings.builtin.resolveSweeps ["phantom", "ghost"] =
        .error (.setting "sweep" "unknown sweep 'phantom'") ∧
      Settings.builtin.resolveSweeps ["phantom", "ghost"] ≠
        Settings.builtin.resolveSweeps ["ghost", "phantom"] := by
  have first : Settings.builtin.resolveSweeps ["ghost", "phantom"] =
      .error (.setting "sweep" "unknown sweep 'ghost'") := rfl
  have second : Settings.builtin.resolveSweeps ["phantom", "ghost"] =
      .error (.setting "sweep" "unknown sweep 'phantom'") := rfl
  refine ⟨by decide +kernel, ?_, first, second, ?_⟩
  · intro name
    simp only [List.mem_cons, List.not_mem_nil, or_false]
    exact or_comm
  · rw [first, second]
    decide

end LoadSweep
