import LoadSweep.Series

/-!
# Aligned series

A series is aligned when it has no more rows than declared points and every row has one sample for
each endpoint.  A series without rows is aligned, and a row that `Series.push` takes keeps it so.
-/

namespace LoadSweep.Series

set_option autoImplicit false

/-- No more rows than points, and one sample for each endpoint in every row. -/
structure Aligned (series : Series) : Prop where
  points : series.length ≤ series.sweep.length
  width : ∀ row ∈ series.rows, row.length = series.endpoints.length

theorem aligned_start (sweep : Sweep) (endpoints : List String) : (start sweep endpoints).Aligned :=
  ⟨Nat.zero_le _, nofun⟩

/-- A whole row for the next declared point keeps a series aligned. -/
theorem Aligned.append {series : Series} (aligned : series.Aligned) {row : List Sample}
    (room : series.length < series.sweep.length) (width : row.length = series.endpoints.length) :
    Aligned { series with rows := series.rows ++ [row] } where
  points := by
    simp only [length, List.length_append, List.length_singleton]
    exact room
  width := List.forall_mem_append.mpr ⟨aligned.width, List.forall_mem_singleton.mpr width⟩

/-- The next item of a shorter list meets the item at its position in the longer one. -/
theorem zipWith_append_singleton {α β γ : Type} (pair : α → β → γ) {longer : List α}
    {shorter : List β} {first : α} (next : longer[shorter.length]? = some first) (second : β) :
    List.zipWith pair longer (shorter ++ [second]) =
      List.zipWith pair longer shorter ++ [pair first second] := by
  induction shorter generalizing longer with
  | nil =>
    cases longer with
    | nil => cases next
    | cons head tail =>
      cases next
      simp
  | cons held shorter ih =>
    cases longer with
    | nil => cases next
    | cons head tail =>
      simp only [List.cons_append, List.zipWith_cons_cons]
      rw [ih (by simpa using next)]

end LoadSweep.Series
