import LoadSweep.Proofs.Series.Projections
import LoadSweep.Series.Dataset

/-!
# Series from datasets

A dataset is read field by field, and no field is held against another: a dataset with more rows
than points is read like any other, and so is one with short rows.  A series that is read is thus
not aligned in general (`dataset_without_projections`), and its projections have values exactly if
its own numbers allow them (`projections_iff`).
-/

namespace LoadSweep

set_option autoImplicit false

/-- **What a series must have to be projected.** Points and labels have values exactly if there are
no more rows than points; a metric, its report and its comparisons have values exactly if no row is
too short either.  This is so for every series, wherever it comes from. -/
theorem projections_iff (series : Series) :
    (series.points?.isSome = true ↔ series.length ≤ series.sweep.length) ∧
      (series.categories?.isSome = true ↔ series.length ≤ series.sweep.length) ∧
      ∀ metric,
        ((series.metric? metric).isSome = true ↔ series.Projectable) ∧
        ((series.report? metric).isSome = true ↔ series.Projectable) ∧
        ((series.comparisons? metric).isSome = true ↔ series.Projectable) :=
  ⟨series.isSome_points?_iff, series.isSome_categories?_iff, fun metric =>
    ⟨series.isSome_metric?_iff metric, series.isSome_report?_iff metric,
      series.isSome_comparisons?_iff metric⟩⟩

/-- A dataset with two empty rows for one point. -/
def raggedDataset : String :=
  "\x7b\"sweep\":\x7b\"name\":\"get\",\"title\":\"GET sweep\",\"operation\":\"get\"," ++
    "\"axis\":\"clients\",\"points\":[\x7b\"clients\":1,\"pipeline\":1,\"requests\":10\x7d]\x7d," ++
    "\"endpoints\":[\"redis\"],\"rows\":[[],[]]\x7d"

/-- A dataset is read that is not aligned and has no projection. -/
theorem dataset_without_projections :
    ∃ series, Series.ofDataset raggedDataset = .ok series ∧ ¬ series.Aligned ∧
      series.points? = none ∧ series.categories? = none ∧
      ∀ metric, series.metric? metric = none ∧ series.report? metric = none ∧
        series.comparisons? metric = none := by
  have read : (Series.ofDataset raggedDataset).toOption.any
      (fun series => decide (series.sweep.length < series.length)) = true := by
    decide +kernel
  cases held : Series.ofDataset raggedDataset with
  | error fault =>
    rw [held] at read
    cases read
  | ok series =>
    rw [held] at read
    have beyond : ¬ series.length ≤ series.sweep.length := Nat.not_le.mpr (of_decide_eq_true read)
    have unfit : ¬ series.Projectable := fun projectable => beyond projectable.points
    refine ⟨series, rfl, fun aligned => beyond aligned.points, ?_, ?_, fun metric => ⟨?_, ?_, ?_⟩⟩
    · exact Option.not_isSome_iff_eq_none.mp (mt series.isSome_points?_iff.mp beyond)
    · exact Option.not_isSome_iff_eq_none.mp (mt series.isSome_categories?_iff.mp beyond)
    · exact Option.not_isSome_iff_eq_none.mp (mt (series.isSome_metric?_iff metric).mp unfit)
    · exact Option.not_isSome_iff_eq_none.mp (mt (series.isSome_report?_iff metric).mp unfit)
    · exact Option.not_isSome_iff_eq_none.mp (mt (series.isSome_comparisons?_iff metric).mp unfit)

end LoadSweep
