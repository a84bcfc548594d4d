import LoadSweep.Proofs.Series.Projections

/-!
# Comparisons cover a series

The first endpoint of a series is the baseline.  An aligned series has one comparison for each other
endpoint, in order, and each of them has every completed point once, with the label of its row and
the two values that stand there (`comparisons_cover_series`).  A verdict is missing exactly if a
value is, and a change can be told exactly if both values are present and the baseline is not zero
(`PointComparison.Shows`), so nothing is left out of a mean but what cannot be told.

Points are compared along three lists, which end together in an aligned series: the labels of the
completed points and two columns.
-/

namespace LoadSweep

set_option autoImplicit false

/-! ## One point -/

/-- The comparison of one point shows two values under a label: the verdict says whether one of them
is missing, and there is a change if the baseline can be divided by. -/
structure PointComparison.Shows (point : PointComparison) (label : String)
    (reference measured : Option Float) : Prop where
  category : point.category = label
  baseline : point.baseline = reference
  candidate : point.candidate = measured
  missing_iff : point.verdict = .missing ↔ reference = none ∨ measured = none
  changed_iff : point.change.isSome = true ↔
    ∃ value other, reference = some value ∧ measured = some other ∧ (value == 0.0) = false

namespace Comparison

theorem judge_ne_missing (metric : Metric) (baseline candidate : Float) :
    judge metric baseline candidate ≠ .missing := by
  rw [judge]
  split
  · exact nofun
  · split <;> exact nofun

theorem isSome_change?_iff (baseline candidate : Float) :
    (change? baseline candidate).isSome = true ↔ (baseline == 0.0) = false := by
  rw [change?, bne]
  cases baseline == 0.0 <;> simp

theorem shows_comparePoint (metric : Metric) (category : String)
    (baseline candidate : Option Float) :
    (comparePoint metric category baseline candidate).Shows category baseline candidate := by
  cases baseline with
  | none => constructor <;> simp [comparePoint]
  | some value =>
    cases candidate with
    | none => constructor <;> simp [comparePoint]
    | some other =>
      constructor
      case missing_iff => simp [comparePoint, judge_ne_missing]
      case changed_iff => simp [comparePoint, isSome_change?_iff]
      all_goals rfl

/-! ## Points one by one -/

section Points

variable {metric : Metric} {categories : List String} {baselines candidates : List (Option Float)}

/-- Lists of one length are compared to their end, label by label. -/
theorem map_category_comparePoints (first : baselines.length = categories.length)
    (second : candidates.length = categories.length) :
    (comparePoints metric categories baselines candidates).map PointComparison.category =
      categories := by
  induction categories generalizing baselines candidates with
  | nil => rfl
  | cons category categories ih =>
    obtain ⟨baseline, baselines, rfl⟩ := List.exists_cons_of_length_eq_add_one first
    obtain ⟨candidate, candidates, rfl⟩ := List.exists_cons_of_length_eq_add_one second
    have label : (comparePoint metric category baseline candidate).category = category := by
      cases baseline <;> cases candidate <;> rfl
    rw [comparePoints, List.map_cons, ih (Nat.succ.inj first) (Nat.succ.inj second), label]

/-- What stands at one position of three lists is compared there. -/
theorem getElem?_comparePoints {position : Nat} {category : String}
    {baseline candidate : Option Float} (labelled : categories[position]? = some category)
    (first : baselines[position]? = some baseline)
    (second : candidates[position]? = some candidate) :
    (comparePoints metric categories baselines candidates)[position]? =
      some (comparePoint metric category baseline candidate) := by
  induction position generalizing categories baselines candidates with
  | zero =>
    cases categories <;> cases baselines <;> cases candidates <;> cases labelled <;> cases first
      <;> cases second
    rfl
  | succ position ih =>
    cases categories with
    | nil => cases labelled
    | cons _ categories =>
      cases baselines with
      | nil => cases first
      | cons _ baselines =>
        cases candidates with
        | nil => cases second
        | cons _ candidates => exact ih labelled first second

end Points

/-! ## Changes and verdicts -/

/-- The changes that can be told, point by point. -/
def changes (comparison : Comparison) : List Float :=
  comparison.points.filterMap PointComparison.change

/-- There is a mean exactly if there are numbers, and it is their sum, in their order, over how many
they are. -/
theorem mean?_eq_some_iff {values : List Float} {mean : Float} :
    mean? values = some mean ↔
      values ≠ [] ∧ values.foldl (· + ·) (-0.0) / Float.ofNat values.length = mean := by
  cases values <;> simp [mean?]

theorem changes_ne_nil_iff (comparison : Comparison) :
    comparison.changes ≠ [] ↔ ∃ point ∈ comparison.points, point.change.isSome = true := by
  rw [changes, Ne, List.filterMap_eq_nil_iff]
  simp only [not_forall, exists_prop, Option.isSome_iff_ne_none]

/-- Every point has one of the four verdicts. -/
theorem counts_add_up (comparison : Comparison) :
    comparison.wins + comparison.losses + comparison.count .equal + comparison.count .missing =
      comparison.points.length := by
  simp only [wins, losses, count]
  induction comparison.points with
  | nil => rfl
  | cons point points ih =>
    simp only [List.filter_cons, List.length_cons]
    cases point.verdict <;> simp <;> omega

end Comparison

/-! ## A series -/

namespace Series

variable {series : Series}

/-- The comparison of an endpoint at a position with the baseline. -/
def comparisonAt (series : Series) (metric : Metric) (baseline name : String) (position : Nat) :
    Comparison :=
  .ofColumns metric (series.sweep.categories.take series.length)
    (baseline, series.valuesAt metric 0) (name, series.valuesAt metric position)

/-- A series that can be projected has a comparison for each endpoint after the first. -/
theorem comparisons?_of_endpoints (projectable : series.Projectable) (metric : Metric)
    {baseline : String} {candidates : List String}
    (endpoints : series.endpoints = baseline :: candidates) :
    series.comparisons? metric =
      some ((candidates.zipIdx 1).map fun (name, position) =>
        series.comparisonAt metric baseline name position) := by
  rw [comparisons?, metric?_of_projectable projectable, endpoints, Option.map_some,
    MetricColumns.comparisons, columnsAt, List.zipIdx_cons, List.map_cons]
  simp only [List.map_map]
  rfl

/-- The label of a completed point. -/
theorem getElem?_labels {point : Nat} {declared : Point} (completed : point < series.length)
    (atPoint : series.sweep.points[point]? = some declared) :
    (series.sweep.categories.take series.length)[point]? =
      some (declared.category series.sweep.axis) := by
  rw [List.getElem?_take_of_lt completed, Sweep.categories, List.getElem?_map, atPoint]
  rfl

theorem Aligned.length_labels (aligned : series.Aligned) :
    (series.sweep.categories.take series.length).length = series.length := by
  rw [List.length_take, Sweep.categories, List.length_map]
  exact Nat.min_eq_left aligned.points

/-- A comparison has the labels of the completed points, in order. -/
theorem Aligned.labels_comparisonAt (aligned : series.Aligned) (metric : Metric)
    (baseline name : String) (position : Nat) :
    (series.comparisonAt metric baseline name position).points.map PointComparison.category =
      series.sweep.categories.take series.length := by
  have column (place : Nat) : (series.valuesAt metric place).length =
      (series.sweep.categories.take series.length).length := by
    rw [length_valuesAt, aligned.length_labels]
  exact Comparison.map_category_comparePoints (column 0) (column position)

theorem Aligned.length_comparisonAt (aligned : series.Aligned) (metric : Metric)
    (baseline name : String) (position : Nat) :
    (series.comparisonAt metric baseline name position).points.length = series.length := by
  rw [← List.length_map PointComparison.category, aligned.labels_comparisonAt,
    aligned.length_labels]

/-- A comparison shows the two samples of every completed point. -/
theorem Aligned.shows_comparisonAt (aligned : series.Aligned) (metric : Metric)
    (baseline name : String) {position point : Nat} (inside : position < series.endpoints.length)
    (completed : point < series.length) :
    ∃ compared declared reference sample,
      (series.comparisonAt metric baseline name position).points[point]? = some compared ∧
      series.sweep.points[point]? = some declared ∧
      series.sample? point 0 = some reference ∧ series.sample? point position = some sample ∧
      compared.Shows (declared.category series.sweep.axis) (reference.get metric)
        (sample.get metric) := by
  obtain ⟨reference, first⟩ := (aligned.sample?_iff point 0).mpr ⟨completed, by omega⟩
  obtain ⟨sample, second⟩ := (aligned.sample?_iff point position).mpr ⟨completed, inside⟩
  obtain ⟨declared, atPoint⟩ : ∃ declared, series.sweep.points[point]? = some declared :=
    ⟨_, List.getElem?_eq_getElem (Nat.lt_of_lt_of_le completed aligned.points)⟩
  have found : (series.comparisonAt metric baseline name position).points[point]? = some _ :=
    Comparison.getElem?_comparePoints (getElem?_labels completed atPoint)
      (getElem?_valuesAt first metric) (getElem?_valuesAt second metric)
  exact ⟨_, declared, reference, sample, found, atPoint, first, second,
    Comparison.shows_comparePoint ..⟩

/-- A comparison covers a series: it holds the endpoint at a position against the first one, at
every completed point once.  Its mean is over the changes that can be told, in the order of the
points, and each point has one verdict. -/
structure Covers (series : Series) (metric : Metric) (position : Nat) (comparison : Comparison) :
    Prop where
  baseline : series.endpoints.head? = some comparison.baseline
  candidate : series.endpoints[position]? = some comparison.candidate
  measured : comparison.metric = metric
  length : comparison.points.length = series.length
  points : ∀ point < series.length, ∃ compared declared reference sample,
    comparison.points[point]? = some compared ∧ series.sweep.points[point]? = some declared ∧
      series.sample? point 0 = some reference ∧ series.sample? point position = some sample ∧
      compared.Shows (declared.category series.sweep.axis) (reference.get metric)
        (sample.get metric)
  mean_iff : comparison.meanChange.isSome = true ↔
    ∃ point ∈ comparison.points, point.change.isSome = true
  mean : ∀ mean, comparison.meanChange = some mean →
    mean = comparison.changes.foldl (· + ·) (-0.0) / Float.ofNat comparison.changes.length
  verdicts : comparison.wins + comparison.losses + comparison.count .equal
    + comparison.count .missing = series.length

theorem Aligned.covers_comparisonAt (aligned : series.Aligned) (metric : Metric)
    {baseline name : String} {position : Nat} (first : series.endpoints.head? = some baseline)
    (named : series.endpoints[position]? = some name) :
    series.Covers metric position (series.comparisonAt metric baseline name position) := by
  have points := aligned.length_comparisonAt metric baseline name position
  have mean (value : Float) :
      (series.comparisonAt metric baseline name position).meanChange = some value ↔ _ :=
    Comparison.mean?_eq_some_iff
  refine
    { baseline := first
      candidate := named
      measured := rfl
      length := points
      points := fun point => ?points
      mean_iff := ?mean_iff
      mean := fun value held => ((mean value).mp held).2.symm
      verdicts := (Comparison.counts_add_up _).trans points }
  case points =>
    exact aligned.shows_comparisonAt metric baseline name (List.getElem?_eq_some_iff.mp named).1
  case mean_iff =>
    rw [← Comparison.changes_ne_nil_iff, Option.isSome_iff_exists]
    constructor
    · rintro ⟨value, held⟩
      exact ((mean value).mp held).1
    · intro some
      exact ⟨_, (mean _).mpr ⟨some, rfl⟩⟩

end Series

/-- **Comparisons cover a series.** An aligned series has a comparison with its first endpoint for
each other one, in order, and each of them covers it. -/
theorem comparisons_cover_series {series : Series} (aligned : series.Aligned) (metric : Metric) :
    ∃ comparisons, series.comparisons? metric = some comparisons ∧
      comparisons.map Comparison.candidate = series.endpoints.tail ∧
      ∀ position comparison, comparisons[position]? = some comparison →
        series.Covers metric (position + 1) comparison := by
  cases endpoints : series.endpoints with
  | nil =>
    refine ⟨[], ?_, rfl, nofun⟩
    rw [Series.comparisons?, Series.metric?_of_projectable aligned.projectable, endpoints]
    rfl
  | cons baseline candidates =>
    refine ⟨_, Series.comparisons?_of_endpoints aligned.projectable metric endpoints, ?_, ?_⟩
    · rw [List.map_map]
      exact List.zipIdx_map_fst 1 candidates
    · intro position comparison found
      rw [List.getElem?_map, List.getElem?_zipIdx, Nat.add_comm, Option.map_map] at found
      obtain ⟨name, named, rfl⟩ := Option.map_eq_some_iff.mp found
      have first : series.endpoints.head? = some baseline := by rw [endpoints, List.head?_cons]
      have atPosition : series.endpoints[position + 1]? = some name := by
        rw [endpoints, List.getElem?_cons_succ, named]
      exact aligned.covers_comparisonAt metric first atPosition

/-- A series of two points and three endpoints: the second has no value at the first point, and the
baseline is zero at the second. -/
def idleBaselineSeries : Series :=
  { sweep :=
      { name := "get"
        title := "GET"
        operation := .get
        axis := .clients
        points := [⟨1, 1, 1000⟩, ⟨2, 1, 1000⟩] }
    endpoints := ["redis", "rutin", "valkey"]
    rows :=
      [[Sample.empty.withValue .throughput 100.0, .empty, Sample.empty.withValue .throughput 110.0],
        [Sample.empty.withValue .throughput 0.0, Sample.empty.withValue .throughput 50.0,
          Sample.empty.withValue .throughput 0.0]] }

/-- Its second endpoint has no change at all, and its third one only at the first point. -/
theorem idleBaselineSeries_is_covered :
    idleBaselineSeries.Aligned ∧
      ∃ rutin valkey, idleBaselineSeries.comparisons? .throughput = some [rutin, valkey] ∧
        idleBaselineSeries.Covers .throughput 1 rutin ∧
        idleBaselineSeries.Covers .throughput 2 valkey ∧
        rutin.meanChange.isSome = false ∧ valkey.meanChange.isSome = true := by
  have aligned : idleBaselineSeries.Aligned := ⟨by decide, by decide⟩
  have means : (idleBaselineSeries.comparisons? .throughput).map
      (List.map fun comparison => comparison.meanChange.isSome) = some [false, true] := by
    decide +kernel
  obtain ⟨comparisons, compared, -, covers⟩ := comparisons_cover_series aligned .throughput
  rw [compared, Option.map_some, Option.some.injEq] at means
  obtain ⟨rutin, others, rfl, first, rest⟩ := List.map_eq_cons_iff.mp means
  obtain ⟨valkey, none, rfl, second, rest⟩ := List.map_eq_cons_iff.mp rest
  obtain rfl := List.map_eq_nil_iff.mp rest
  exact ⟨aligned, rutin, valkey, compared, covers 0 rutin rfl, covers 1 valkey rfl, first, second⟩

end LoadSweep
