import LoadSweep.Settings
import Mathlib.Data.List.Forall2

/-!
# Valid settings

Settings are checked once, when they are read.  The check accepts exactly the settings whose
endpoints can be compared, whose limits are not zero, and whose sweeps have distinct names and can
all be resolved (`Settings.validate_ok_iff`).  A declared sweep can be resolved exactly if it has a
name, constants that are not zero, and distinct values that are not zero and that its request rule
counts (`SweepDeclaration.resolves_iff`); it then has one point for each value
(`SweepDeclaration.resolve_ok_iff`).

So a selection of known names from valid settings resolves, to the sweeps that it selects, in the
order of the settings, and each of them has points (`Settings.Valid.selected`).
-/

namespace LoadSweep

set_option autoImplicit false

/-- A list has an image exactly if every item has one. -/
theorem exists_forall₂_iff {α β : Type} {related : α → β → Prop} {items : List α} :
    (∃ images, List.Forall₂ related items images) ↔
      ∀ item ∈ items, ∃ image, related item image := by
  induction items with
  | nil => simp
  | cons item items ih =>
    rw [List.forall_mem_cons, ← ih]
    constructor
    · rintro ⟨images, all⟩
      cases all with
      | cons first others => exact ⟨⟨_, first⟩, _, others⟩
    · rintro ⟨⟨image, first⟩, images, others⟩
      exact ⟨image :: images, .cons first others⟩

/-- A list is mapped without a fault exactly if its items are, one by one. -/
theorem mapM_ok_iff {α β ε : Type} {f : α → Except ε β} {items : List α} {images : List β} :
    items.mapM f = .ok images ↔
      List.Forall₂ (fun item image => f item = .ok image) items images := by
  induction items generalizing images with
  | nil => cases images <;> simp [pure, Except.pure]
  | cons item items ih =>
    rw [List.mapM_cons]
    cases first : f item with
    | error fault => cases images <;> simp [bind, Except.bind, first]
    | ok image =>
      cases others : items.mapM f with
      | error fault => cases images <;> simp [bind, Except.bind, ← ih, first, others]
      | ok rest => cases images <;> simp [bind, Except.bind, pure, Except.pure, ← ih, first, others]

/-! ## Declared sweeps -/

namespace SweepDeclaration

variable {declaration : SweepDeclaration}

/-- A value of the axis and the point that it gives by the request rule. -/
def Gives (declaration : SweepDeclaration) (value : UInt32) (point : Point) : Prop :=
  ∃ count, declaration.requests.resolve value = .ok count ∧ point = declaration.pointAt value count

theorem resolveAfter_cons_iff {seen values : List UInt32} {value : UInt32} {points : List Point} :
    declaration.resolveAfter seen (value :: values) = .ok points ↔
      value ≠ 0 ∧ value ∉ seen ∧ ∃ point others, declaration.Gives value point ∧
        declaration.resolveAfter (value :: seen) values = .ok others ∧
          points = point :: others := by
  rw [resolveAfter]
  by_cases zero : value = 0
  · simp [zero]
  by_cases old : value ∈ seen
  · simp [zero, old]
  cases counted : declaration.requests.resolve value with
  | error fault => simp [zero, old, Gives, counted]
  | ok count =>
    cases rest : declaration.resolveAfter (value :: seen) values with
    | error fault => simp [zero, old]
    | ok others =>
      constructor
      · intro resolved
        simp only [beq_iff_eq, zero, List.contains_iff_mem, old, if_false] at resolved
        cases resolved
        exact ⟨zero, old, _, others, ⟨count, counted, rfl⟩, rfl, rfl⟩
      · rintro ⟨-, -, point, same, ⟨count, again, rfl⟩, done, rfl⟩
        cases counted.symm.trans again
        cases done
        simp [zero, old]

/-- The values that follow others are resolved exactly if they are new, each to its point. -/
theorem resolveAfter_ok_iff {seen values : List UInt32} {points : List Point} :
    declaration.resolveAfter seen values = .ok points ↔
      values.Nodup ∧ (∀ value ∈ values, value ≠ 0 ∧ value ∉ seen) ∧
        List.Forall₂ declaration.Gives values points := by
  induction values generalizing seen points with
  | nil => simp [resolveAfter, eq_comm]
  | cons value values ih =>
    rw [resolveAfter_cons_iff, List.nodup_cons, List.forall_mem_cons]
    constructor
    · rintro ⟨zero, new, point, others, gives, rest, rfl⟩
      obtain ⟨distinct, fresh, given⟩ := ih.mp rest
      refine ⟨⟨?_, distinct⟩, ⟨⟨zero, new⟩, ?_⟩, .cons gives given⟩
      · intro again
        exact (fresh value again).2 List.mem_cons_self
      · intro other member
        refine ⟨(fresh other member).1, ?_⟩
        exact fun old => (fresh other member).2 (List.mem_cons_of_mem _ old)
    · rintro ⟨⟨once, distinct⟩, ⟨⟨zero, new⟩, fresh⟩, given⟩
      cases given with
      | cons gives given =>
        refine ⟨zero, new, _, _, gives, ih.mpr ⟨distinct, ?_, given⟩, rfl⟩
        intro other member
        refine ⟨(fresh other member).1, ?_⟩
        rw [List.mem_cons, not_or]
        exact ⟨fun same => once (same ▸ member), (fresh other member).2⟩

/-- What a declaration needs in order to be resolved. -/
structure Resolvable (declaration : SweepDeclaration) : Prop where
  named : Text.trim declaration.name.toList ≠ []
  values : declaration.values ≠ []
  clients : declaration.clients ≠ 0
  pipeline : declaration.pipeline ≠ 0
  distinct : declaration.values.Nodup
  positive : ∀ value ∈ declaration.values, value ≠ 0
  counted : ∀ value ∈ declaration.values, ∃ count, declaration.requests.resolve value = .ok count

theorem Resolvable.fresh (resolvable : declaration.Resolvable) :
    ∀ value ∈ declaration.values, value ≠ 0 ∧ value ∉ ([] : List UInt32) :=
  fun value member => ⟨resolvable.positive value member, List.not_mem_nil⟩

/-- A declared sweep resolves to itself, with a point for each value. -/
theorem resolve_ok_iff {sweep : Sweep} :
    declaration.resolve = .ok sweep ↔
      declaration.Resolvable ∧ ∃ points, List.Forall₂ declaration.Gives declaration.values points ∧
        sweep = ⟨declaration.name, declaration.title, declaration.operation, declaration.axis,
          points⟩ := by
  rw [resolve]
  split
  · rename_i nameless
    simp only [reduceCtorEq, false_iff]
    rintro ⟨resolvable, -⟩
    exact resolvable.named (List.isEmpty_iff.mp nameless)
  rename_i named
  split
  · rename_i valueless
    simp only [reduceCtorEq, false_iff]
    rintro ⟨resolvable, -⟩
    exact resolvable.values (List.isEmpty_iff.mp valueless)
  rename_i values
  split
  · rename_i zero
    simp only [reduceCtorEq, false_iff]
    rintro ⟨resolvable, -⟩
    simp [resolvable.clients, resolvable.pipeline] at zero
  rename_i constants
  cases resolved : declaration.resolveAfter [] declaration.values with
  | error fault =>
    simp only [reduceCtorEq, false_iff]
    rintro ⟨resolvable, points, given, -⟩
    have all := resolveAfter_ok_iff.mpr
      ⟨resolvable.distinct, resolvable.fresh, given⟩
    rw [resolved] at all
    cases all
  | ok points =>
    obtain ⟨distinct, fresh, given⟩ := resolveAfter_ok_iff.mp resolved
    simp only [Except.ok.injEq]
    constructor
    · rintro rfl
      simp at named values constants
      refine ⟨⟨named, values, constants.1, constants.2, distinct, ?_, ?_⟩, points, given, rfl⟩
      · intro value member
        exact (fresh value member).1
      · intro value member
        obtain ⟨point, count, counted, -⟩ := exists_forall₂_iff.mp ⟨points, given⟩ value member
        exact ⟨count, counted⟩
    · rintro ⟨resolvable, others, same, rfl⟩
      have all := resolveAfter_ok_iff.mpr
        ⟨resolvable.distinct, resolvable.fresh, same⟩
      rw [resolved, Except.ok.injEq] at all
      rw [all]

theorem resolves_iff : (∃ sweep, declaration.resolve = .ok sweep) ↔ declaration.Resolvable := by
  constructor
  · rintro ⟨sweep, resolved⟩
    exact (resolve_ok_iff.mp resolved).1
  · intro resolvable
    have each : ∀ value ∈ declaration.values, ∃ point, declaration.Gives value point := by
      intro value member
      obtain ⟨count, counted⟩ := resolvable.counted value member
      exact ⟨_, count, counted, rfl⟩
    obtain ⟨points, given⟩ := exists_forall₂_iff.mpr each
    exact ⟨_, resolve_ok_iff.mpr ⟨resolvable, points, given, rfl⟩⟩

/-- A resolved sweep has points. -/
theorem points_of_resolve {sweep : Sweep} (resolved : declaration.resolve = .ok sweep) :
    sweep.points ≠ [] := by
  obtain ⟨resolvable, points, given, rfl⟩ := resolve_ok_iff.mp resolved
  intro none
  rw [show points = [] from none, List.forall₂_nil_right_iff] at given
  exact resolvable.values given

end SweepDeclaration

/-! ## Settings -/

namespace Settings

variable {settings : Settings}

/-- What is checked of settings. -/
structure Valid (settings : Settings) : Prop where
  endpoints : Endpoint.validate settings.endpoints = .ok ()
  program : Text.trim settings.client.program.toList ≠ []
  limit : settings.client.timeoutSeconds ≠ 0
  patience : settings.probe.timeoutMilliseconds ≠ 0
  sweeps : settings.sweeps ≠ []
  distinct : (settings.sweeps.map SweepDeclaration.name).Nodup
  resolvable : ∀ declaration ∈ settings.sweeps, declaration.Resolvable

/-- Sweeps that follow others pass exactly if their names are new and they can be resolved. -/
theorem validateSweeps_ok_iff {seen : List String} {declarations : List SweepDeclaration} :
    validateSweeps seen declarations = .ok () ↔
      (declarations.map SweepDeclaration.name).Nodup ∧
        ∀ declaration ∈ declarations, declaration.name ∉ seen ∧ declaration.Resolvable := by
  induction declarations generalizing seen with
  | nil => simp [validateSweeps]
  | cons declaration declarations ih =>
    rw [validateSweeps, List.map_cons, List.nodup_cons, List.forall_mem_cons]
    by_cases old : declaration.name ∈ seen
    · simp [old]
    cases resolved : declaration.resolve with
    | error fault =>
      have unresolvable : ¬ declaration.Resolvable := by
        rw [← SweepDeclaration.resolves_iff, resolved]
        simp
      simp [old, unresolvable]
    | ok sweep =>
      have resolvable : declaration.Resolvable := SweepDeclaration.resolves_iff.mp ⟨sweep, resolved⟩
      simp only [List.contains_iff_mem, old, if_false, ih, List.mem_cons, not_or, List.mem_map]
      constructor
      · rintro ⟨distinct, fresh⟩
        refine ⟨⟨?_, distinct⟩, ⟨not_false, resolvable⟩, ?_⟩
        · rintro ⟨other, member, same⟩
          exact (fresh other member).1.1 same
        · intro other member
          exact ⟨(fresh other member).1.2, (fresh other member).2⟩
      · rintro ⟨⟨once, distinct⟩, -, fresh⟩
        refine ⟨distinct, ?_⟩
        intro other member
        exact ⟨⟨fun same => once ⟨other, member, same⟩, (fresh other member).1⟩,
          (fresh other member).2⟩

/-- Exactly valid settings are accepted. -/
theorem validate_ok_iff : settings.validate = .ok () ↔ settings.Valid := by
  rw [validate]
  cases endpoints : Endpoint.validate settings.endpoints with
  | error fault =>
    simp only [reduceCtorEq, false_iff]
    intro valid
    rw [valid.endpoints] at endpoints
    cases endpoints
  | ok =>
    dsimp only
    split
    · rename_i nameless
      simp only [reduceCtorEq, false_iff]
      intro valid
      exact valid.program (List.isEmpty_iff.mp nameless)
    rename_i program
    split
    · rename_i zero
      simp only [reduceCtorEq, false_iff]
      intro valid
      exact valid.limit (beq_iff_eq.mp zero)
    rename_i limit
    split
    · rename_i zero
      simp only [reduceCtorEq, false_iff]
      intro valid
      exact valid.patience (beq_iff_eq.mp zero)
    rename_i patience
    split
    · rename_i none
      simp only [reduceCtorEq, false_iff]
      intro valid
      exact valid.sweeps (List.isEmpty_iff.mp none)
    rename_i sweeps
    rw [validateSweeps_ok_iff]
    simp at program limit patience sweeps
    constructor
    · rintro ⟨distinct, each⟩
      exact ⟨endpoints, program, limit, patience, sweeps, distinct,
        fun declaration member => (each declaration member).2⟩
    · intro valid
      exact ⟨valid.distinct, fun declaration member =>
        ⟨List.not_mem_nil, valid.resolvable declaration member⟩⟩

/-- The declarations that are selected; all of them by an empty selection. -/
def chosen (settings : Settings) (selected : List String) : List SweepDeclaration :=
  settings.sweeps.filter fun declaration =>
    selected.isEmpty || selected.contains declaration.name

theorem unknownSweep?_eq_none_iff {selected : List String} :
    settings.unknownSweep? selected = none ↔
      ∀ name ∈ selected, ∃ declaration ∈ settings.sweeps, declaration.name = name := by
  simp [unknownSweep?]

/-- A selection resolves exactly if its names are known and the chosen declarations resolve. -/
theorem resolveSweeps_ok_iff {selected : List String} {sweeps : List Sweep} :
    settings.resolveSweeps selected = .ok sweeps ↔
      (∀ name ∈ selected, ∃ declaration ∈ settings.sweeps, declaration.name = name) ∧
        List.Forall₂ (fun declaration sweep => declaration.resolve = .ok sweep)
          (settings.chosen selected) sweeps := by
  rw [← unknownSweep?_eq_none_iff, resolveSweeps]
  cases unknown : settings.unknownSweep? selected with
  | some name => simp
  | none => simp [mapM_ok_iff, chosen]

/-- A selection of known names chooses something. -/
theorem Valid.chosen_ne_nil (valid : settings.Valid) {selected : List String}
    (known : ∀ name ∈ selected, ∃ declaration ∈ settings.sweeps, declaration.name = name) :
    settings.chosen selected ≠ [] := by
  have some : ∃ declaration ∈ settings.sweeps,
      selected = [] ∨ declaration.name ∈ selected := by
    cases selected with
    | nil =>
      obtain ⟨declaration, member⟩ := List.exists_mem_of_ne_nil _ valid.sweeps
      exact ⟨declaration, member, .inl rfl⟩
    | cons name names =>
      obtain ⟨declaration, member, rfl⟩ := known name List.mem_cons_self
      exact ⟨declaration, member, .inr List.mem_cons_self⟩
  obtain ⟨declaration, member, wanted⟩ := some
  apply List.ne_nil_of_mem (a := declaration)
  simpa [chosen, member] using wanted

/-- Known names from valid settings resolve, and to sweeps with points. -/
theorem Valid.selected (valid : settings.Valid) {selected : List String}
    (known : ∀ name ∈ selected, ∃ declaration ∈ settings.sweeps, declaration.name = name) :
    ∃ sweeps, settings.resolveSweeps selected = .ok sweeps ∧ sweeps ≠ [] ∧
      ∀ sweep ∈ sweeps, sweep.points ≠ [] := by
  have each : ∀ declaration ∈ settings.chosen selected,
      ∃ sweep, declaration.resolve = .ok sweep := by
    intro declaration member
    exact SweepDeclaration.resolves_iff.mpr
      (valid.resolvable declaration (List.mem_of_mem_filter member))
  obtain ⟨sweeps, resolved⟩ := exists_forall₂_iff.mpr each
  refine ⟨sweeps, resolveSweeps_ok_iff.mpr ⟨known, resolved⟩, ?_, ?_⟩
  · rintro rfl
    exact valid.chosen_ne_nil known (List.forall₂_nil_right_iff.mp resolved)
  · have backward : List.Forall₂ (fun sweep declaration => declaration.resolve = .ok sweep) sweeps
        (settings.chosen selected) := resolved.flip
    have points := backward.imp fun sweep declaration done =>
      And.intro (SweepDeclaration.points_of_resolve done) done
    exact (List.forall₂_and_left _ _).mp points |>.1

end Settings

end LoadSweep
