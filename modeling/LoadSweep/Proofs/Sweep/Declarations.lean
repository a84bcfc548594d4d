import LoadSweep.Proofs.Json.Scalars
import LoadSweep.Proofs.Report.Projected
import LoadSweep.Proofs.Report.Tables
import LoadSweep.Proofs.Settings.Validity
import LoadSweep.Proofs.Sweep.RequestCounts

/-!
# Declared sweeps and their points

A declaration is resolved exactly if it is well formed (`SweepDeclaration.resolves_iff`).  The
points of the sweep then lie on one line of the grid of parameters: each has its value on the axis,
the declared constant beside the axis, and the requests that the rule counts there
(`SweepDeclaration.Places`).  If it is not resolved, the fault names one of its settings
(`SweepDeclaration.blames_of_resolve`).

The label of a point is the decimal numeral of its value (`Text.IsNumeral`).  A numeral spells one
number, so distinct values have distinct labels, and so have the rows and groups of every report
made from the sweep (`SweepDeclaration.nodup_report_categories`).
-/

namespace LoadSweep

set_option autoImplicit false

/-! ## Blank texts -/

namespace Text

/-- Trimming leaves nothing exactly of a text without anything to see. -/
theorem trim_eq_nil_iff {text : List Char} : trim text = [] ↔ ∀ c ∈ text, isBlank c = true := by
  constructor
  · intro nothing
    obtain ⟨before, after, leading, trailing, parts⟩ := exists_trimmed text
    rw [parts, nothing, List.nil_append]
    intro c member
    exact (List.mem_append.mp member).elim (leading c) (trailing c)
  · intro blank
    have padded : trim (text ++ [] ++ []) = [] := trim_padded blank nofun nofun
    rwa [List.append_nil, List.append_nil] at padded

/-! ## Numerals -/

/-- A text is the decimal numeral of a number: digits that spell it, without a needless zero. -/
structure IsNumeral (text : String) (number : Nat) : Prop where
  digits : ∀ c ∈ text.toList, c.isDigit = true
  some : text.toList ≠ []
  plain : ∀ c rest, text.toList ≠ '0' :: c :: rest
  spelled : naturalOfDigits text.toList = number

theorem isNumeral_toString (number : Nat) : IsNumeral (toString number) number := by
  refine ⟨?_, ?_, ?_, ?_⟩ <;> rw [toList_toString]
  · exact fun c => isDigit_of_toDigits
  · exact Nat.toDigits_ne_nil
  · exact toDigits_ne_padded number
  · exact naturalOfDigits_toDigits number

/-- A numeral spells one number. -/
theorem IsNumeral.unique {text : String} {first second : Nat} (one : IsNumeral text first)
    (other : IsNumeral text second) : first = second :=
  one.spelled.symm.trans other.spelled

end Text

/-! ## Points on a line -/

/-- The parameter that a sweep over the given one keeps constant. -/
def Axis.other : Axis → Axis
  | .clients => .pipeline
  | .pipeline => .clients

namespace SweepDeclaration

variable {declaration : SweepDeclaration} {sweep : Sweep}

/-- The declared constant of a parameter. -/
def constant (declaration : SweepDeclaration) : Axis → UInt32
  | .clients => declaration.clients
  | .pipeline => declaration.pipeline

/-- The point that a declaration asks for at a value: the value on the axis, the constant beside it,
and the requests that the rule counts. -/
structure Places (declaration : SweepDeclaration) (value : UInt32) (point : Point) : Prop where
  swept : point.onAxis declaration.axis = value
  beside : point.onAxis declaration.axis.other = declaration.constant declaration.axis.other
  counted : declaration.requests.resolve value = .ok point.requests
  positive : 0 < point.requests

theorem Gives.places {value : UInt32} {point : Point} (gives : declaration.Gives value point) :
    declaration.Places value point := by
  obtain ⟨count, counted, rfl⟩ := gives
  have some : 0 < count :=
    UInt64.lt_iff_toNat_lt.mpr (Nat.pos_of_ne_zero (RequestRule.ne_zero_of_resolve counted))
  rw [pointAt]
  cases axis : declaration.axis with
  | clients => exact ⟨by rw [axis]; rfl, by rw [axis]; rfl, counted, some⟩
  | pipeline => exact ⟨by rw [axis]; rfl, by rw [axis]; rfl, counted, some⟩

/-- The points of a resolved sweep are those asked for, value by value. -/
theorem places_of_resolve (resolved : declaration.resolve = .ok sweep) :
    List.Forall₂ declaration.Places declaration.values sweep.points := by
  obtain ⟨-, points, given, rfl⟩ := resolve_ok_iff.mp resolved
  exact given.imp fun _ _ => Gives.places

/-! ## Labels -/

/-- The labels of a resolved sweep are its values. -/
theorem categories_of_resolve (resolved : declaration.resolve = .ok sweep) :
    sweep.categories = declaration.values.map fun value => toString value.toNat := by
  have axis : sweep.axis = declaration.axis := by
    obtain ⟨-, points, -, rfl⟩ := resolve_ok_iff.mp resolved
    rfl
  have places := places_of_resolve resolved
  rw [Sweep.categories, axis]
  generalize declaration.values = values at places ⊢
  generalize sweep.points = points at places ⊢
  induction places with
  | nil => rfl
  | cons here _ rest =>
    rw [List.map_cons, List.map_cons, rest, Point.category, here.swept]

theorem numerals_of_resolve (resolved : declaration.resolve = .ok sweep) :
    List.Forall₂ (fun value label => Text.IsNumeral label value.toNat) declaration.values
      sweep.categories := by
  rw [categories_of_resolve resolved, List.forall₂_map_right_iff]
  exact List.forall₂_same.mpr fun value _ => Text.isNumeral_toString value.toNat

theorem nodup_categories (resolved : declaration.resolve = .ok sweep) : sweep.categories.Nodup := by
  rw [categories_of_resolve resolved]
  refine (resolve_ok_iff.mp resolved).1.distinct.map ?_
  intro first second same
  have one := Text.isNumeral_toString first.toNat
  rw [show toString first.toNat = toString second.toNat from same] at one
  exact UInt32.toNat_inj.mp (one.unique (Text.isNumeral_toString second.toNat))

/-- The labels of a report of the sweep, which are its groups, are distinct, and so are the first
cells of its rows. -/
theorem nodup_report_categories (resolved : declaration.resolve = .ok sweep) {series : Series}
    (ofSweep : series.sweep = sweep) {metric : Metric} {report : Report}
    (projected : series.report? metric = some report) :
    report.categories.Nodup ∧ (report.rows.map List.head?).Nodup := by
  have projectable : series.Projectable := by
    rw [← series.isSome_report?_iff metric, projected]
    rfl
  rw [Series.report?_of_projectable projectable, Option.some.injEq] at projected
  have distinct : report.categories.Nodup := by
    rw [← projected, Series.reportOf, ofSweep]
    exact (nodup_categories resolved).sublist (List.take_sublist _ _)
  have heads : report.rows.map List.head? = report.categories.map some := by
    rw [Report.rows_eq, List.map_map]
    exact map_zipIdx_fst some report.categories
  exact ⟨distinct, heads ▸ distinct.map fun _ _ => Option.some.inj⟩

/-! ## Faults -/

/-- The parameters that a fault of a declaration can name. -/
def parameters (declaration : SweepDeclaration) : List String :=
  "sweeps.name" :: ["values", "clients", "requests"].map declaration.parameter

/-- A fault says which setting of the declaration cannot be used. -/
def Blames (declaration : SweepDeclaration) (fault : Fault) : Prop :=
  ∃ parameter ∈ declaration.parameters, ∃ reason, fault = .setting parameter reason

theorem blames_of_resolveAfter {seen values : List UInt32} {fault : Fault}
    (failed : declaration.resolveAfter seen values = .error fault) : declaration.Blames fault := by
  induction values generalizing seen with
  | nil => cases failed
  | cons value values ih =>
    rw [resolveAfter] at failed
    split at failed
    · cases failed
      exact ⟨_, by simp [parameters], _, rfl⟩
    split at failed
    · cases failed
      exact ⟨_, by simp [parameters], _, rfl⟩
    split at failed
    · rename_i cause refused
      obtain ⟨reason, rfl⟩ := RequestRule.refuses_of_error refused
      cases failed
      exact ⟨declaration.parameter "requests", by simp [parameters], reason, rfl⟩
    · split at failed
      · rename_i later
        cases failed
        exact ih later
      · cases failed

theorem blames_of_resolve {fault : Fault} (failed : declaration.resolve = .error fault) :
    declaration.Blames fault := by
  rw [resolve] at failed
  split at failed
  · cases failed
    exact ⟨_, by simp [parameters], _, rfl⟩
  split at failed
  · cases failed
    exact ⟨_, by simp [parameters], _, rfl⟩
  split at failed
  · cases failed
    exact ⟨_, by simp [parameters], _, rfl⟩
  split at failed
  · rename_i later
    cases failed
    exact blames_of_resolveAfter later
  · cases failed

theorem named_iff :
    Text.trim declaration.name.toList ≠ [] ↔
      ∃ c ∈ declaration.name.toList, Text.isBlank c = false := by
  rw [Ne, Text.trim_eq_nil_iff]
  simp

end SweepDeclaration

/-- **A declaration is resolved exactly if it is well formed, and then to its line of the grid.** It
needs a name that is not blank, constants and values that are not zero, at least one value and none
twice, and a rule that counts every value.  The sweep has the declared name, title, operation and
axis, and for each value in order the point that the declaration asks for.  Its labels are the
numerals of the values, no two alike, and so are the rows and groups of every report of the sweep.
Every failure blames a setting of the declaration. -/
theorem declaration_resolves_to_its_line (declaration : SweepDeclaration) :
    ((∃ sweep, declaration.resolve = .ok sweep) ↔
      (∃ c ∈ declaration.name.toList, Text.isBlank c = false) ∧ declaration.values ≠ [] ∧
        0 < declaration.clients ∧ 0 < declaration.pipeline ∧
        (∀ value ∈ declaration.values, 0 < value) ∧ declaration.values.Nodup ∧
        ∀ value ∈ declaration.values, ∃ count, declaration.requests.resolve value = .ok count) ∧
    (∀ sweep, declaration.resolve = .ok sweep →
      sweep.name = declaration.name ∧ sweep.title = declaration.title ∧
        sweep.operation = declaration.operation ∧ sweep.axis = declaration.axis ∧
        List.Forall₂ declaration.Places declaration.values sweep.points ∧
        List.Forall₂ (fun value label => Text.IsNumeral label value.toNat) declaration.values
          sweep.categories ∧
        sweep.categories.Nodup ∧
        ∀ (series : Series) metric report, series.sweep = sweep →
          series.report? metric = some report →
            report.categories.Nodup ∧ (report.rows.map List.head?).Nodup) ∧
    ∀ fault, declaration.resolve = .error fault → declaration.Blames fault := by
  refine ⟨?accepted, ?line, fun fault => SweepDeclaration.blames_of_resolve⟩
  case accepted =>
    rw [SweepDeclaration.resolves_iff, ← SweepDeclaration.named_iff]
    simp only [UInt32.pos_iff_ne_zero]
    constructor
    · rintro ⟨named, values, clients, pipeline, distinct, positive, counted⟩
      exact ⟨named, values, clients, pipeline, positive, distinct, counted⟩
    · rintro ⟨named, values, clients, pipeline, positive, distinct, counted⟩
      exact ⟨named, values, clients, pipeline, distinct, positive, counted⟩
  case line =>
    intro sweep resolved
    have places := SweepDeclaration.places_of_resolve resolved
    have numerals := SweepDeclaration.numerals_of_resolve resolved
    have distinct := SweepDeclaration.nodup_categories resolved
    have reports : ∀ (series : Series) metric report, series.sweep = sweep →
        series.report? metric = some report →
          report.categories.Nodup ∧ (report.rows.map List.head?).Nodup :=
      fun series metric report ofSweep =>
        SweepDeclaration.nodup_report_categories resolved ofSweep
    obtain ⟨-, points, -, rfl⟩ := SweepDeclaration.resolve_ok_iff.mp resolved
    exact ⟨rfl, rfl, rfl, rfl, places, numerals, distinct, reports⟩

/-- A sweep over pipeline depths, out of order, with ten thousand requests for each unit of depth
between twenty thousand and a million. -/
def deepening : SweepDeclaration where
  name := " deep "
  title := "SET, deeper pipelines"
  operation := .set
  axis := .pipeline
  values := [16, 1, 4096]
  clients := 50
  pipeline := 1
  requests := .scaled 10000 20000 1000000

/-- It is well formed, and its points are as it asks for them. -/
theorem deepening_resolves :
    ∃ sweep, deepening.resolve = .ok sweep ∧
      List.Forall₂ deepening.Places [16, 1, 4096] sweep.points ∧ sweep.categories.Nodup := by
  obtain ⟨accepted, line, -⟩ := declaration_resolves_to_its_line deepening
  have positive : ∀ value ∈ deepening.values, 0 < value := by simp [deepening]
  have counted : ∀ value ∈ deepening.values, ∃ count,
      deepening.requests.resolve value = .ok count := by
    intro value _
    have ordered : (20000 : UInt64) ≤ 1000000 := by decide
    have comes : deepening.requests.ComesTo value _ := RequestRule.scaled_comesTo ordered value
    have some : 0 < RequestRule.boundedMultiple 10000 20000 1000000 value :=
      Nat.lt_of_lt_of_le (by decide) (Nat.le_max_left ..)
    obtain ⟨count, counted, -⟩ := comes.ok some.ne'
    exact ⟨count, counted⟩
  obtain ⟨sweep, resolved⟩ := accepted.mpr ⟨⟨'d', by decide, by decide⟩, by decide, by decide,
    by decide, positive, by decide, counted⟩
  obtain ⟨-, -, -, -, places, -, distinct, -⟩ := line sweep resolved
  exact ⟨sweep, resolved, places, distinct⟩

end LoadSweep
