import LoadSweep.Proofs.Number.Ordering
import LoadSweep.Proofs.Scrape.Figures
import LoadSweep.Proofs.Series.Comparisons

/-!
# Verdicts are fair between numbers

A verdict is fair if it calls a candidate better or worse only where its value strictly is, and if
exchanging baseline and candidate exchanges better and worse.  Verdicts are fair exactly where the
two values, if both are present, are numbers (`fair_iff`).  A NaN is neither less than nor equal to
anything, and then the candidate is judged as if it were the smaller value, whichever of the two is
the NaN (`verdict_of_not_comparable`).

A throughput that was scraped is always a number (`isNaN_throughput`).  A latency need not be one: a
table may hold a NaN, and then each of two samples is better than the other
(`nan_is_better_on_both_sides`).  So exchanging the two endpoints of a series exchanges wins and
losses if no point has a NaN that is compared, and otherwise it does not
(`verdicts_are_fair_between_numbers`).
-/

namespace LoadSweep

open Number

set_option autoImplicit false

/-! ## Fair verdicts -/

/-- The verdict with baseline and candidate exchanged. -/
def Verdict.exchanged : Verdict → Verdict
  | better => worse
  | worse => better
  | equal => equal
  | missing => missing

/-- Whether a value is strictly better than another one. -/
def Metric.Improves (metric : Metric) (value other : Float) : Prop :=
  if metric.higherIsBetter then other < value else value < other

/-- Two values that have an order if both are present: neither of them is a NaN. -/
def Comparable (baseline candidate : Option Float) : Prop :=
  ∀ value ∈ baseline, ∀ other ∈ candidate, value.isNaN = false ∧ other.isNaN = false

instance (baseline candidate : Option Float) : Decidable (Comparable baseline candidate) :=
  inferInstanceAs (Decidable (∀ value ∈ baseline, ∀ other ∈ candidate, _))

/-- The verdicts on two values are fair: one that prefers a value finds it strictly better, and
exchanging the values exchanges the verdict. -/
structure Metric.Fair (metric : Metric) (baseline candidate : Option Float) : Prop where
  better : ∀ category,
    (Comparison.comparePoint metric category baseline candidate).verdict = .better →
      ∃ value other, baseline = some value ∧ candidate = some other ∧ metric.Improves other value
  worse : ∀ category,
    (Comparison.comparePoint metric category baseline candidate).verdict = .worse →
      ∃ value other, baseline = some value ∧ candidate = some other ∧ metric.Improves value other
  exchanged : ∀ category,
    (Comparison.comparePoint metric category candidate baseline).verdict =
      (Comparison.comparePoint metric category baseline candidate).verdict.exchanged

theorem Verdict.exchanged_inj {verdict other : Verdict} :
    verdict.exchanged = other.exchanged ↔ verdict = other := by
  cases verdict <;> cases other <;> decide

/-- What a metric makes of a value that it cannot order. -/
def Metric.stray (metric : Metric) : Verdict :=
  if metric.higherIsBetter then .worse else .better

namespace Comparison

variable (metric : Metric) (baseline candidate : Float)

/-- A verdict is read off the order of the values; without one it is that of a smaller candidate. -/
theorem judge_eq :
    judge metric baseline candidate =
      match order? baseline candidate with
      | some .lt => if metric.higherIsBetter then .better else .worse
      | some .eq => .equal
      | some .gt | none => metric.stray := by
  have equal : (candidate == baseline) = true ↔ order? baseline candidate = some .eq := by
    rw [BEq.comm, beq_iff]
  have less := lt_iff baseline candidate
  rw [judge, Metric.stray]
  cases metric.higherIsBetter <;>
    rcases held : order? baseline candidate with _ | _ | _ | _ <;> simp_all

theorem improves_iff :
    metric.Improves candidate baseline ↔
      order? baseline candidate = some (if metric.higherIsBetter then .lt else .gt) := by
  rw [Metric.Improves]
  cases metric.higherIsBetter with
  | true => exact lt_iff baseline candidate
  | false => exact gt_iff baseline candidate

variable {metric baseline candidate}

/-- Where there is an order, a better verdict is an improvement and nothing else is. -/
theorem judge_better_iff (ordered : order? baseline candidate ≠ none) :
    judge metric baseline candidate = .better ↔ metric.Improves candidate baseline := by
  rw [judge_eq, improves_iff, Metric.stray]
  cases metric.higherIsBetter <;>
    rcases held : order? baseline candidate with _ | _ | _ | _ <;> simp_all

/-- Where there is an order, exchanging the values exchanges the verdict. -/
theorem judge_exchanged (ordered : order? baseline candidate ≠ none) :
    judge metric candidate baseline = (judge metric baseline candidate).exchanged := by
  rw [judge_eq, judge_eq, order?_swap baseline candidate, Metric.stray]
  cases metric.higherIsBetter <;>
    rcases held : order? baseline candidate with _ | _ | _ | _ <;>
      simp_all [Verdict.exchanged]

theorem judge_worse_iff (ordered : order? baseline candidate ≠ none) :
    judge metric baseline candidate = .worse ↔ metric.Improves baseline candidate := by
  have swapped : order? candidate baseline ≠ none := by
    rwa [order?_swap baseline candidate, Ne, Option.map_eq_none_iff]
  rw [← judge_better_iff swapped, judge_exchanged ordered]
  cases judge metric baseline candidate <;> simp [Verdict.exchanged]

end Comparison

/-! ## One point -/

theorem comparable_none (candidate : Option Float) : Comparable none candidate :=
  nofun

theorem comparable_none_right (baseline : Option Float) : Comparable baseline none :=
  fun _ _ _ => nofun

theorem comparable_some_iff (value other : Float) :
    Comparable (some value) (some other) ↔ order? value other ≠ none := by
  rw [Ne, order?_eq_none_iff, not_or, Bool.not_eq_true, Bool.not_eq_true]
  constructor
  · intro comparable
    exact comparable value rfl other rfl
  · rintro numbers _ ⟨⟩ _ ⟨⟩
    exact numbers

theorem Metric.stray_ne_exchanged (metric : Metric) : metric.stray ≠ metric.stray.exchanged := by
  cases metric <;> decide

section Point

open Comparison

variable (metric : Metric) {baseline candidate : Option Float}

/-- Where a NaN is compared, the verdict does not say which of the two values it is. -/
theorem Comparison.verdict_of_not_comparable (strays : ¬ Comparable baseline candidate)
    (category : String) :
    (comparePoint metric category baseline candidate).verdict = metric.stray ∧
      (comparePoint metric category candidate baseline).verdict = metric.stray := by
  rcases baseline with _ | value
  · exact absurd (comparable_none _) strays
  rcases candidate with _ | other
  · exact absurd (comparable_none_right _) strays
  have unordered : order? value other = none := by
    rwa [comparable_some_iff, not_not] at strays
  have swapped : order? other value = none := by
    rw [order?_swap value other, unordered, Option.map_none]
  simp only [comparePoint, judge_eq, unordered, swapped, and_self]

theorem Metric.fair_of_comparable (comparable : Comparable baseline candidate) :
    metric.Fair baseline candidate := by
  rcases baseline with _ | value
  · exact ⟨nofun, nofun, fun _ => by cases candidate <;> rfl⟩
  rcases candidate with _ | other
  · exact ⟨nofun, nofun, fun _ => rfl⟩
  have ordered := (comparable_some_iff value other).mp comparable
  exact
    { better := fun _ better => ⟨value, other, rfl, rfl, (judge_better_iff ordered).mp better⟩
      worse := fun _ worse => ⟨value, other, rfl, rfl, (judge_worse_iff ordered).mp worse⟩
      exchanged := fun _ => judge_exchanged ordered }

/-- Verdicts are fair exactly between numbers. -/
theorem Metric.fair_iff (baseline candidate : Option Float) :
    metric.Fair baseline candidate ↔ Comparable baseline candidate := by
  refine ⟨fun fair => ?_, metric.fair_of_comparable⟩
  by_contra strays
  obtain ⟨here, there⟩ := Comparison.verdict_of_not_comparable metric strays ""
  have exchanged := fair.exchanged ""
  rw [here, there] at exchanged
  exact metric.stray_ne_exchanged exchanged

end Point

/-! ## Scraped values -/

/-- A scraped throughput is a number. -/
theorem isNaN_throughput {output : String} {value : Float}
    (scraped : (Sample.ofOutput output).get .throughput = some value) : value.isNaN = false := by
  rw [Sample.get_ofOutput] at scraped
  obtain ⟨figure, -, -, -, rfl⟩ :=
    ((Scrape.Phrase.reads_throughput.finds _).value value).mp scraped
  exact isNaN_nearest ..

theorem comparable_throughput (reference output : String) :
    Comparable ((Sample.ofOutput reference).get .throughput)
      ((Sample.ofOutput output).get .throughput) :=
  fun _ first _ second => ⟨isNaN_throughput first, isNaN_throughput second⟩

/-! ## Points in a row -/

namespace Comparison

/-- A point compared the other way round. -/
def exchangePoint (metric : Metric) (point : PointComparison) : PointComparison :=
  comparePoint metric point.category point.candidate point.baseline

/-- The points of a list with a verdict. -/
def tally (verdict : Verdict) (points : List PointComparison) : Nat :=
  points.countP fun point => point.verdict == verdict

/-- The points of a list at which a NaN is compared. -/
def strays (points : List PointComparison) : Nat :=
  points.countP fun point => !decide (Comparable point.baseline point.candidate)

theorem count_eq_tally (comparison : Comparison) (verdict : Verdict) :
    comparison.count verdict = tally verdict comparison.points :=
  List.countP_eq_length_filter.symm

theorem strays_eq_zero_iff (points : List PointComparison) :
    strays points = 0 ↔ ∀ point ∈ points, Comparable point.baseline point.candidate := by
  simp [strays]

variable (metric : Metric)

theorem exchangePoint_comparePoint (category : String) (baseline candidate : Option Float) :
    exchangePoint metric (comparePoint metric category baseline candidate) =
      comparePoint metric category candidate baseline := by
  cases baseline <;> cases candidate <;> rfl

theorem comparePoints_exchanged (categories : List String)
    (baselines candidates : List (Option Float)) :
    comparePoints metric categories candidates baselines =
      (comparePoints metric categories baselines candidates).map (exchangePoint metric) := by
  fun_induction comparePoints metric categories baselines candidates with
  | case1 category categories baseline baselines candidate candidates ih =>
    rw [comparePoints, ih, List.map_cons, exchangePoint_comparePoint]
  | case2 categories baselines candidates short =>
    rw [List.map_nil, comparePoints]
    rintro category categories candidate candidates baseline baselines rfl rfl rfl
    exact short _ _ _ _ _ _ rfl rfl rfl

/-- A point compares its own values. -/
def Own (point : PointComparison) : Prop :=
  comparePoint metric point.category point.baseline point.candidate = point

theorem own_comparePoint (category : String) (baseline candidate : Option Float) :
    Own metric (comparePoint metric category baseline candidate) := by
  cases baseline <;> cases candidate <;> rfl

theorem own_of_mem (categories : List String) (baselines candidates : List (Option Float)) :
    ∀ point ∈ comparePoints metric categories baselines candidates, Own metric point := by
  fun_induction comparePoints metric categories baselines candidates with
  | case1 category categories baseline baselines candidate candidates ih =>
    exact List.forall_mem_cons.mpr ⟨own_comparePoint .., ih⟩
  | case2 => exact List.forall_mem_nil _

/-- A NaN moves its point over to the verdict on strays, whichever way round it is compared. -/
theorem tally_exchanged {points : List PointComparison}
    (own : ∀ point ∈ points, Own metric point) (verdict : Verdict) :
    tally verdict.exchanged (points.map (exchangePoint metric)) +
        (if metric.stray = verdict then strays points else 0) =
      tally verdict points + if metric.stray = verdict.exchanged then strays points else 0 := by
  induction points with
  | nil => simp [tally, strays]
  | cons point points ih =>
    obtain ⟨this, others⟩ := List.forall_mem_cons.mp own
    have rest := ih others
    rw [Own] at this
    simp only [tally, strays, List.map_cons, List.countP_cons, beq_iff_eq, Bool.not_eq_true',
      decide_eq_false_iff_not] at rest ⊢
    by_cases comparable : Comparable point.baseline point.candidate
    · have exchanged := (metric.fair_of_comparable comparable).exchanged point.category
      rw [this, ← exchangePoint] at exchanged
      simp only [exchanged, Verdict.exchanged_inj, comparable, not_true, if_false, Nat.add_zero]
      omega
    · obtain ⟨here, there⟩ := verdict_of_not_comparable metric comparable point.category
      rw [this] at here
      rw [← exchangePoint] at there
      simp only [here, there, comparable, not_false_eq_true, if_true]
      split_ifs at rest ⊢ <;> omega

/-- Exchanging baseline and candidate exchanges wins and losses exactly if no NaN is compared. -/
theorem exchanged_counts_iff {forward backward : Comparison}
    (own : ∀ point ∈ forward.points, Own metric point)
    (points : backward.points = forward.points.map (exchangePoint metric)) :
    backward.wins = forward.losses ∧ backward.losses = forward.wins ↔
      ∀ point ∈ forward.points, Comparable point.baseline point.candidate := by
  have wins := tally_exchanged metric own .worse
  have losses := tally_exchanged metric own .better
  simp only [Verdict.exchanged, ← points, ← count_eq_tally] at wins losses
  rw [← strays_eq_zero_iff, Comparison.wins, Comparison.wins, Comparison.losses,
    Comparison.losses]
  have stray : metric.stray = .worse ∨ metric.stray = .better := by
    cases metric <;> decide
  rcases stray with stray | stray <;> simp [stray] at wins losses <;> omega

end Comparison

/-! ## The endpoints of a series -/

namespace Series

variable {series : Series}

/-- The series with its endpoints in the opposite order. -/
def exchanged (series : Series) : Series :=
  { series with
    endpoints := series.endpoints.reverse
    rows := series.rows.map List.reverse }

theorem Aligned.exchanged (aligned : series.Aligned) : series.exchanged.Aligned where
  points := by
    have room := aligned.points
    rwa [length, Series.exchanged, List.length_map]
  width := by
    intro row member
    obtain ⟨row, held, rfl⟩ := List.mem_map.mp member
    rw [Series.exchanged, List.length_reverse, List.length_reverse, aligned.width row held]

/-- The values of one of two endpoints are those of the other one after an exchange. -/
theorem Aligned.valuesAt_exchanged (aligned : series.Aligned) (two : series.endpoints.length = 2)
    (metric : Metric) :
    series.exchanged.valuesAt metric 0 = series.valuesAt metric 1 ∧
      series.exchanged.valuesAt metric 1 = series.valuesAt metric 0 := by
  simp only [valuesAt, Series.exchanged, List.map_map]
  constructor <;>
  · refine List.map_congr_left fun row member => ?_
    have width := aligned.width row member
    obtain ⟨first, second, rfl⟩ := List.length_eq_two.mp (width.trans two)
    rfl

/-- No point of a series with two endpoints has a NaN that is compared. -/
def ComparesNumbers (series : Series) (metric : Metric) : Prop :=
  ∀ point reference measured, series.sample? point 0 = some reference →
    series.sample? point 1 = some measured →
    Comparable (reference.get metric) (measured.get metric)

/-- What a comparison of an aligned series compares are the values of its samples. -/
theorem Aligned.forall_comparable_iff (aligned : series.Aligned) (metric : Metric)
    {baseline name : String} (two : 1 < series.endpoints.length) :
    (∀ point ∈ (series.comparisonAt metric baseline name 1).points,
        Comparable point.baseline point.candidate) ↔ series.ComparesNumbers metric := by
  constructor
  · intro comparable point reference measured first second
    obtain ⟨completed, -⟩ := (aligned.sample?_iff point 0).mp ⟨reference, first⟩
    obtain ⟨compared, _, _, _, found, -, held, heldSecond, shows⟩ :=
      aligned.shows_comparisonAt metric baseline name two completed
    obtain rfl := Option.some.inj (first.symm.trans held)
    obtain rfl := Option.some.inj (second.symm.trans heldSecond)
    rw [← shows.baseline, ← shows.candidate]
    exact comparable compared (List.mem_of_getElem? found)
  · intro numbers compared member
    obtain ⟨point, found⟩ := List.getElem?_of_mem member
    have completed : point < series.length := by
      rw [← aligned.length_comparisonAt metric baseline name 1]
      exact (List.getElem?_eq_some_iff.mp found).1
    obtain ⟨_, _, reference, measured, held, -, first, second, shows⟩ :=
      aligned.shows_comparisonAt metric baseline name two completed
    obtain rfl := Option.some.inj (found.symm.trans held)
    rw [shows.baseline, shows.candidate]
    exact numbers point reference measured first second

/-- The comparison of a series with its endpoints exchanged compares the same points the other way
round. -/
theorem Aligned.points_exchanged (aligned : series.Aligned) (two : series.endpoints.length = 2)
    (metric : Metric) (first second : String) :
    (series.exchanged.comparisonAt metric second first 1).points =
      (series.comparisonAt metric first second 1).points.map
        (Comparison.exchangePoint metric) := by
  obtain ⟨reference, measured⟩ := aligned.valuesAt_exchanged two metric
  have length : series.exchanged.length = series.length := List.length_map ..
  simp only [comparisonAt, Comparison.ofColumns, reference, measured, length]
  exact Comparison.comparePoints_exchanged ..

end Series

/-! ## Fairness -/

/-- **Verdicts are fair between numbers.** For every metric, verdicts are fair exactly on values of
which none is a NaN if both are present, and so they are on scraped throughputs.  Exchanging the two
endpoints of an aligned series exchanges wins and losses exactly if no point has a NaN that is
compared. -/
theorem verdicts_are_fair_between_numbers (metric : Metric) :
    (∀ baseline candidate, metric.Fair baseline candidate ↔ Comparable baseline candidate) ∧
      (∀ reference output, Comparable ((Sample.ofOutput reference).get .throughput)
        ((Sample.ofOutput output).get .throughput)) ∧
      ∀ series first second, Series.Aligned series → series.endpoints = [first, second] →
        ∃ forward backward, series.comparisons? metric = some [forward] ∧
          series.exchanged.comparisons? metric = some [backward] ∧
          (backward.wins = forward.losses ∧ backward.losses = forward.wins ↔
            series.ComparesNumbers metric) := by
  refine ⟨metric.fair_iff, comparable_throughput, fun series first second aligned endpoints => ?_⟩
  have two : series.endpoints.length = 2 := by rw [endpoints]; rfl
  have reversed : series.exchanged.endpoints = [second, first] := by
    rw [Series.exchanged, endpoints]
    rfl
  refine ⟨_, _, Series.comparisons?_of_endpoints aligned.projectable metric endpoints,
    Series.comparisons?_of_endpoints aligned.exchanged.projectable metric reversed, ?_⟩
  rw [← aligned.forall_comparable_iff metric (by omega)]
  exact Comparison.exchanged_counts_iff metric (Comparison.own_of_mem metric _ _ _)
    (aligned.points_exchanged two metric first second)

/-! ## A NaN in a latency table -/

/-- An output with a latency table in which a value is written for the average. -/
def averageOutput (value : String) : String :=
  "latency summary (msec):\n  avg\n  " ++ value ++ "\n"

/-- A series of one point at which two averages were written. -/
def averageSeries (first second : String) : Series :=
  { sweep :=
      { name := "get"
        title := "GET"
        operation := .get
        axis := .clients
        points := [⟨1, 1, 1000⟩] }
    endpoints := ["redis", "rutin"]
    rows := [[.ofOutput (averageOutput first), .ofOutput (averageOutput second)]] }

theorem averageSeries_aligned (first second : String) : (averageSeries first second).Aligned :=
  ⟨Nat.le_refl 1, List.forall_mem_singleton.mpr rfl⟩

theorem averageSeries_comparesNumbers_iff (first second : String) :
    (averageSeries first second).ComparesNumbers .latencyAvg ↔
      Comparable ((Sample.ofOutput (averageOutput first)).get .latencyAvg)
        ((Sample.ofOutput (averageOutput second)).get .latencyAvg) := by
  constructor
  · intro numbers
    exact numbers 0 _ _ rfl rfl
  · rintro comparable (_ | point) reference measured held heldSecond
    · cases held
      cases heldSecond
      exact comparable
    · cases held

/-- Between two numbers, exchanging the endpoints exchanges win and loss; against a NaN it does
not. -/
theorem averageSeries_is_fair_between_numbers :
    (averageSeries "2" "1").Aligned ∧ (averageSeries "nan" "1").Aligned ∧
      ∃ forward backward stray strayBackward,
        (averageSeries "2" "1").comparisons? .latencyAvg = some [forward] ∧
          (averageSeries "2" "1").exchanged.comparisons? .latencyAvg = some [backward] ∧
          (averageSeries "nan" "1").comparisons? .latencyAvg = some [stray] ∧
          (averageSeries "nan" "1").exchanged.comparisons? .latencyAvg = some [strayBackward] ∧
          (backward.wins = forward.losses ∧ backward.losses = forward.wins) ∧
          ¬ (strayBackward.wins = stray.losses ∧ strayBackward.losses = stray.wins) := by
  obtain ⟨-, -, exchanges⟩ := verdicts_are_fair_between_numbers .latencyAvg
  obtain ⟨forward, backward, compared, comparedBack, fair⟩ :=
    exchanges _ _ _ (averageSeries_aligned "2" "1") rfl
  obtain ⟨stray, strayBackward, strayed, strayedBack, unfair⟩ :=
    exchanges _ _ _ (averageSeries_aligned "nan" "1") rfl
  rw [averageSeries_comparesNumbers_iff] at fair unfair
  exact ⟨averageSeries_aligned .., averageSeries_aligned .., forward, backward, stray,
    strayBackward, compared, comparedBack, strayed, strayedBack, fair.mpr (by decide +kernel),
    mt unfair.mp (by decide +kernel)⟩

/-- A NaN in a latency table is better than a number, and that number is better than it. -/
theorem nan_is_better_on_both_sides :
    let unread := (Sample.ofOutput (averageOutput "nan")).get .latencyAvg
    let measured := (Sample.ofOutput (averageOutput "1")).get .latencyAvg
    (Comparison.comparePoint .latencyAvg "1" unread measured).verdict = .better ∧
      (Comparison.comparePoint .latencyAvg "1" measured unread).verdict = .better ∧
      ¬ Metric.latencyAvg.Fair unread measured := by
  refine ⟨by decide +kernel, by decide +kernel, ?_⟩
  rw [Metric.fair_iff]
  decide +kernel

end LoadSweep
