import LoadSweep.Proofs.Number.Ceilings
import LoadSweep.Report.Chart

/-!
# The scale of a chart

The scale of a chart ends at the rounded maximum of its values.  The maximum is above no value
(`Report.not_maximum_lt`), and a value that is not above the end of the scale is not divided to more
than one (`not_one_lt_div`).  So bars are drawn to their full heights where the end of the scale
reaches the maximum, and at most the longest ones are cut where it is the number before it
(`scale_holds_the_maximum`).  Both ends of the range of numbers are beyond the scale
(`scale_misses_some_maxima`).
-/

namespace LoadSweep

open Number Float.Model

set_option autoImplicit false

/-! ## The maximum of a report -/

/-- What is above one of two numbers is not below the greater one. -/
theorem not_lt_greater {top earlier value : Float} (above : ¬ top < greater earlier value) :
    ¬ top < earlier ∧ ¬ top < value := by
  rw [greater] at above
  split at above
  · rename_i chosen
    refine ⟨fun less => above ?_, above⟩
    obtain ⟨number, other⟩ := numbers_of_lt less
    rw [other, Bool.false_or, decide_eq_true_iff] at chosen
    have last := (numbers_of_lt chosen).2
    rw [lt_iff_value number other] at less
    rw [lt_iff_value other last] at chosen
    exact (lt_iff_value number last).mpr (less.trans chosen)
  · rename_i kept
    refine ⟨above, fun less => above ?_⟩
    simp only [Bool.or_eq_true, decide_eq_true_eq, not_or, Bool.not_eq_true] at kept
    obtain ⟨number, other⟩ := numbers_of_lt less
    rw [lt_iff_value kept.1 other, not_lt] at kept
    rw [lt_iff_value number other] at less
    exact (lt_iff_value number kept.1).mpr (less.trans_le kept.2)

/-- Taking the greater number again and again leaves no number above the last one. -/
theorem not_foldl_greater_lt (values : List Float) (start : Float) :
    ∀ value ∈ start :: values, ¬ values.foldl greater start < value := by
  induction values generalizing start with
  | nil =>
    intro value listed less
    rw [List.mem_singleton.mp listed, List.foldl_nil] at less
    obtain ⟨number, -⟩ := numbers_of_lt less
    exact lt_irrefl _ ((lt_iff_value number number).mp less)
  | cons next values ih =>
    obtain ⟨first, second⟩ := not_lt_greater (ih (greater start next) _ List.mem_cons_self)
    intro value listed
    rcases List.mem_cons.mp listed with rfl | listed
    · exact first
    · rcases List.mem_cons.mp listed with rfl | listed
      · exact second
      · exact ih _ value (List.mem_cons_of_mem _ listed)

/-- No value of a report is above the maximum. -/
theorem Report.not_maximum_lt {report : Report} {max : Float} (shown : report.maximum? = some max) :
    ∀ value ∈ report.present, ¬ max < value := by
  rw [Report.maximum?] at shown
  split at shown
  · cases shown
  · rename_i first rest present
    rw [present, ← Option.some.inj shown]
    exact not_foldl_greater_lt rest first

/-! ## Quotients -/

/-- A number that is not above the top of the scale is not divided to more than one. -/
theorem not_one_lt_div {x top : Float} (positive : Positive top) (within : ¬ top < x) :
    ¬ 1.0 < x / top := by
  obtain ⟨mantissa, exponent, some, unpacked, shown⟩ := positive.unpacked
  have bounded := limit_pos
  intro beyond
  have number := (numbers_of_lt beyond).2
  rw [lt_iff_value positive_one.1.number number, positive_one.2] at beyond
  cases divided : x.toModel.unpack with
  | notANumber =>
    rw [isNaN_nan_div divided] at number
    cases number
  | zero sign =>
    rw [value_zero_div divided unpacked] at beyond
    linarith
  | infinity sign =>
    cases sign with
    | positive =>
      have infinite : value x = limit := by rw [value, divided, valueOf, factor, one_mul]
      have known : x.isNaN = false := by
        change x.toModel.unpack.isNaN = false
        rw [divided]
        rfl
      rw [lt_iff_value positive.number known, infinite] at within
      exact within positive.below
    | negative =>
      have infinite : value (x / top) = -limit :=
        (value_infinity_div divided unpacked).trans (neg_one_mul _)
      linarith
  | finite sign mantissa' exponent' some' =>
    obtain ⟨-, r, rounds, result⟩ := value_div divided unpacked
    have least := rounds.representable.nonneg
    cases sign with
    | positive =>
      obtain ⟨known, same⟩ := positive_of_unpack divided
      rw [lt_iff_value positive.number known.number, not_lt] at within
      rw [← same, ← shown] at rounds
      have small := rounds.le_of_le representable_one ((div_le_one positive.above).mpr within)
      have one : value (x / top) = min r limit := result.trans (one_mul _)
      linarith [min_le_left r limit]
    | negative =>
      have other : value (x / top) = -min r limit := result.trans (neg_one_mul _)
      linarith [le_min least bounded.le]

/-! ## The scale -/

/-- Only the maximum itself may be divided to more than one. -/
theorem not_one_lt_div_of_holds {max top : Float} (holds : Holds top max) {value : Float}
    (number : max.isNaN = false) (within : ¬ max < value) :
    ¬ 1.0 < value / top ∨ JustBelow top max ∧ (value == max) = true := by
  have positive := positive_iff.mpr ⟨holds.finite, holds.positive⟩
  by_cases beyond : top < value
  · have other := (numbers_of_lt beyond).2
    rw [lt_iff_value number other, not_lt] at within
    rcases holds.reaches with reached | ⟨below, -⟩
    · rw [lt_iff_value positive.number other] at beyond
      rw [le_iff_value number positive.number] at reached
      exact absurd (beyond.trans_le within) (not_lt.mpr reached)
    · have reached := below.2 value beyond
      rw [le_iff_value number other] at reached
      refine .inr ⟨below, ?_⟩
      rw [beq_iff, order?_eq_cmp other number, le_antisymm within reached, cmp_self_eq_eq]
  · exact .inl (not_one_lt_div positive beyond)

/-- **Between the least and the greatest number that it is made for, the scale of a chart is finite
and above zero, and ends at the maximum or beyond, or at the number before the maximum.**  Below the
least number it ends at zero, and above the greatest it does not end.  No value of a report is above
the end, unless it is the maximum and the end is the number before it. -/
theorem scale_holds_the_maximum (max : Float) (finite : isFinite max = true)
    (positive : 0.0 < max) :
    (max < least → niceCeiling max = 0.0) ∧
      (greatest < max → Binary.ofFloat (niceCeiling max) = .infinite false) ∧
      (least ≤ max → max ≤ greatest → Holds (niceCeiling max) max ∧
        ∀ report : Report, report.maximum? = some max →
          (Chart.Layout.ofReport report).top = niceCeiling max ∧
          ∀ value ∈ report.present, ¬ 1.0 < value / (Chart.Layout.ofReport report).top ∨
            (JustBelow (Chart.Layout.ofReport report).top max ∧ (value == max) = true)) := by
  have known := positive_iff.mpr ⟨finite, positive⟩
  refine ⟨niceCeiling_eq_zero known, niceCeiling_infinite known, fun above below => ?_⟩
  have holds := holds_niceCeiling known above below
  refine ⟨holds, fun report shown => ?_⟩
  have same : (Chart.Layout.ofReport report).top = niceCeiling max := by
    rw [Chart.Layout.ofReport, shown]
    rfl
  refine ⟨same, fun value listed => ?_⟩
  rw [same]
  exact not_one_lt_div_of_holds holds known.number (Report.not_maximum_lt shown value listed)

/-- A report with one gap. -/
def gapped : Report where
  sweep := "client_get"
  title := "GET"
  axisLabel := "Clients"
  metric := .throughput
  unit := "req/s"
  categories := ["1", "8", "64"]
  columns := [⟨"redis", [some 20.5, none, some 44.0]⟩]

theorem scale_holds_forty_four :
    isFinite 44.0 = true ∧ (0.0 : Float) < 44.0 ∧ least ≤ 44.0 ∧ 44.0 ≤ greatest ∧
      gapped.maximum? = some 44.0 ∧ (Chart.Layout.ofReport gapped).top = 50.0 ∧
      Holds (niceCeiling 44.0) 44.0 ∧
      ∀ value ∈ gapped.present, ¬ 1.0 < value / (Chart.Layout.ofReport gapped).top ∨
        (JustBelow (Chart.Layout.ofReport gapped).top 44.0 ∧ (value == 44.0) = true) := by
  have finite : isFinite 44.0 = true := by decide +kernel
  have positive : (0.0 : Float) < 44.0 := by decide +kernel
  have above : least ≤ 44.0 := by decide +kernel
  have below : (44.0 : Float) ≤ greatest := by decide +kernel
  have shown : gapped.maximum? = some 44.0 := by decide +kernel
  have rounded : niceCeiling 44.0 = 50.0 := by decide +kernel
  obtain ⟨-, -, within⟩ := scale_holds_the_maximum 44.0 finite positive
  obtain ⟨holds, drawn⟩ := within above below
  obtain ⟨top, fits⟩ := drawn gapped shown
  exact ⟨finite, positive, above, below, shown, top.trans rounded, holds, fits⟩

/-- The least number of all is rounded to zero, and the height of a bar for zero is then a NaN.  A
large number is rounded to infinity.  The number after `5e-8` is rounded down, and its bar is cut.
-/
theorem scale_misses_some_maxima :
    (isFinite 5e-324 = true ∧ (0.0 : Float) < 5e-324 ∧ niceCeiling 5e-324 = 0.0 ∧
        ((0.0 : Float) / niceCeiling 5e-324).isNaN = true) ∧
      (isFinite 1.7e308 = true ∧ (0.0 : Float) < 1.7e308 ∧
        Binary.ofFloat (niceCeiling 1.7e308) = .infinite false) ∧
      (isFinite 5.0000000000000004e-8 = true ∧ (0.0 : Float) < 5.0000000000000004e-8 ∧
        niceCeiling 5.0000000000000004e-8 < 5.0000000000000004e-8 ∧
        1.0 < 5.0000000000000004e-8 / niceCeiling 5.0000000000000004e-8) := by
  refine ⟨⟨?_, ?_, ?_, ?_⟩, ⟨?_, ?_, ?_⟩, ?_, ?_, ?_, ?_⟩ <;> decide +kernel

end LoadSweep
