import LoadSweep.Comparison
import LoadSweep.Proofs.Series.Alignment
import LoadSweep.Report
import Mathlib.Data.List.Nodup

/-!
# Projections of a series

A projection of a series shows the completed points, their labels, or one metric by endpoint.  It
has no value if the series has more rows than points, or if a column runs into a row that is too
short.  What every projection needs is `Projectable`, and a metric can be shown only if it holds
(`isSome_metric?_iff`); the columns are then the rows read at one position after the other
(`metric?_of_projectable`).

An aligned series has a sample for every completed point and every endpoint, and its columns show
each of them at its place (`Aligned.projects`).
-/

namespace LoadSweep

set_option autoImplicit false

/-! ## Reading every item of a list -/

theorem mapM_of_reads {α β : Type} {read : α → Option β} {view : α → β} {items : List α}
    (reads : ∀ item ∈ items, read item = some (view item)) :
    items.mapM read = some (items.map view) := by
  induction items with
  | nil => rfl
  | cons item items ih =>
    have rest := ih fun other member => reads other (List.mem_cons_of_mem _ member)
    rw [List.mapM_cons, reads item List.mem_cons_self, rest]
    rfl

theorem isSome_mapM_iff {α β : Type} (read : α → Option β) (items : List α) :
    (items.mapM read).isSome = true ↔ ∀ item ∈ items, (read item).isSome = true := by
  induction items with
  | nil => simp
  | cons item items ih =>
    rw [List.mapM_cons, List.forall_mem_cons, ← ih]
    cases read item <;> cases items.mapM read <;> simp

namespace Series

/-! ## Points and labels -/

/-- What every projection needs: no more rows than points, and a sample for each endpoint in every
row. -/
structure Projectable (series : Series) : Prop where
  points : series.length ≤ series.sweep.length
  width : ∀ row ∈ series.rows, series.endpoints.length ≤ row.length

theorem Aligned.projectable {series : Series} (aligned : series.Aligned) : series.Projectable :=
  ⟨aligned.points, fun row member => Nat.le_of_eq (aligned.width row member).symm⟩

theorem points?_of_le {series : Series} (room : series.length ≤ series.sweep.length) :
    series.points? = some (series.sweep.points.take series.length) :=
  if_pos room

theorem isSome_points?_iff (series : Series) :
    series.points?.isSome = true ↔ series.length ≤ series.sweep.length := by
  rw [points?]
  split <;> simp [*]

theorem categories?_of_le {series : Series} (room : series.length ≤ series.sweep.length) :
    series.categories? = some (series.sweep.categories.take series.length) := by
  rw [categories?, points?_of_le room, Option.map_some, List.map_take]
  rfl

theorem isSome_categories?_iff (series : Series) :
    series.categories?.isSome = true ↔ series.length ≤ series.sweep.length := by
  rw [categories?, Option.isSome_map, isSome_points?_iff]

/-! ## Columns -/

/-- The values of a metric at one position of every row; a row that is too short has none. -/
def valuesAt (series : Series) (metric : Metric) (position : Nat) : List (Option Float) :=
  series.rows.map fun row => (row[position]?).bind fun sample => sample.get metric

theorem length_valuesAt (series : Series) (metric : Metric) (position : Nat) :
    (series.valuesAt metric position).length = series.length :=
  List.length_map ..

theorem getElem?_valuesAt {series : Series} {point position : Nat} {sample : Sample}
    (found : series.sample? point position = some sample) (metric : Metric) :
    (series.valuesAt metric position)[point]? = some (sample.get metric) := by
  obtain ⟨row, atPoint, atPosition⟩ := Option.bind_eq_some_iff.mp found
  have held : series.rows[point]? = some row := atPoint
  rw [valuesAt, List.getElem?_map, held, Option.map_some, atPosition]
  rfl

theorem column?_of_width {series : Series} {position : Nat}
    (width : ∀ row ∈ series.rows, position < row.length) (metric : Metric) :
    series.column? metric position = some (series.valuesAt metric position) := by
  refine mapM_of_reads fun row member => ?_
  rw [List.getElem?_eq_getElem (width row member)]
  rfl

theorem isSome_column?_iff (series : Series) (metric : Metric) (position : Nat) :
    (series.column? metric position).isSome = true ↔
      ∀ row ∈ series.rows, position < row.length := by
  rw [column?, isSome_mapM_iff]
  simp

/-- The columns of named endpoints, of which the first stands at a given position. -/
def columnsAt (series : Series) (metric : Metric) (position : Nat) (names : List String) :
    List (String × List (Option Float)) :=
  (names.zipIdx position).map fun (name, place) => (name, series.valuesAt metric place)

theorem columnsFrom?_of_width {series : Series} {position : Nat} {names : List String}
    (width : ∀ row ∈ series.rows, position + names.length ≤ row.length) (metric : Metric) :
    series.columnsFrom? metric position names = some (series.columnsAt metric position names) := by
  induction names generalizing position with
  | nil => rfl
  | cons name names ih =>
    have here : ∀ row ∈ series.rows, position < row.length := by
      intro row member
      have wide := width row member
      rw [List.length_cons] at wide
      omega
    have others : ∀ row ∈ series.rows, position + 1 + names.length ≤ row.length := by
      intro row member
      have wide := width row member
      rw [List.length_cons] at wide
      omega
    rw [columnsFrom?, column?_of_width here, ih others]
    rfl

/-- There are columns if every row has as many samples left as there are names. -/
theorem isSome_columnsFrom?_iff (series : Series) (metric : Metric) (position : Nat)
    (names : List String) :
    (series.columnsFrom? metric position names).isSome = true ↔
      ∀ row ∈ series.rows, names.length ≤ row.length - position := by
  induction names generalizing position with
  | nil => simp [columnsFrom?]
  | cons name names ih =>
    have both : (series.columnsFrom? metric position (name :: names)).isSome = true ↔
        (series.column? metric position).isSome = true ∧
          (series.columnsFrom? metric (position + 1) names).isSome = true := by
      rw [columnsFrom?]
      cases series.column? metric position <;> simp
    rw [both, isSome_column?_iff, ih, List.length_cons]
    constructor
    · rintro ⟨here, others⟩ row member
      have more := here row member
      have rest := others row member
      omega
    · intro wide
      refine ⟨fun row member => ?_, fun row member => ?_⟩ <;>
      · have enough := wide row member
        omega

/-! ## One metric by endpoint -/

theorem metric?_of_projectable {series : Series} (projectable : series.Projectable)
    (metric : Metric) :
    series.metric? metric =
      some ⟨metric, series.sweep.axis, series.sweep.categories.take series.length,
        series.columnsAt metric 0 series.endpoints⟩ := by
  have width : ∀ row ∈ series.rows, 0 + series.endpoints.length ≤ row.length := by
    simpa only [Nat.zero_add] using projectable.width
  rw [metric?, columnsFrom?_of_width width, categories?_of_le projectable.points]
  rfl

theorem isSome_metric?_iff (series : Series) (metric : Metric) :
    (series.metric? metric).isSome = true ↔ series.Projectable := by
  have both : (series.metric? metric).isSome = true ↔
      (series.columnsFrom? metric 0 series.endpoints).isSome = true ∧
        series.categories?.isSome = true := by
    rw [metric?]
    cases series.columnsFrom? metric 0 series.endpoints <;> simp
  rw [both, isSome_columnsFrom?_iff, isSome_categories?_iff]
  exact ⟨fun ⟨width, points⟩ => ⟨points, width⟩, fun ⟨points, width⟩ => ⟨width, points⟩⟩

theorem isSome_report?_iff (series : Series) (metric : Metric) :
    (series.report? metric).isSome = true ↔ series.Projectable := by
  rw [report?, Option.isSome_map, isSome_metric?_iff]

theorem isSome_comparisons?_iff (series : Series) (metric : Metric) :
    (series.comparisons? metric).isSome = true ↔ series.Projectable := by
  rw [comparisons?, Option.isSome_map, isSome_metric?_iff]

/-- A column is found by the name of its endpoint: of several endpoints of one name, the first. -/
theorem lookup_columnsAt (series : Series) (metric : Metric) (position : Nat) (names : List String)
    (name : String) :
    (series.columnsAt metric position names).lookup name =
      (names.findIdx? (· == name)).map fun index =>
        series.valuesAt metric (position + index) := by
  induction names generalizing position with
  | nil => rfl
  | cons first others ih =>
    have split : series.columnsAt metric position (first :: others) =
        (first, series.valuesAt metric position) ::
          series.columnsAt metric (position + 1) others := rfl
    rw [split, List.lookup_cons, List.findIdx?_cons, BEq.comm]
    cases first == name with
    | true => rfl
    | false =>
      rw [ih]
      simp [Function.comp_def, Nat.add_assoc, Nat.add_comm 1]

/-! ## Samples at their places -/

/-- A sample stands in a row at the position of an endpoint. -/
theorem row_of_sample? {series : Series} {point position : Nat} {sample : Sample}
    (found : series.sample? point position = some sample) :
    ∃ row, series.rows[point]? = some row ∧ row[position]? = some sample :=
  Option.bind_eq_some_iff.mp found

/-- In an aligned series there is a sample for every completed point and every endpoint, and no
other. -/
theorem Aligned.sample?_iff {series : Series} (aligned : series.Aligned) (point position : Nat) :
    (∃ sample, series.sample? point position = some sample) ↔
      point < series.length ∧ position < series.endpoints.length := by
  constructor
  · rintro ⟨sample, found⟩
    obtain ⟨row, atPoint, atPosition⟩ := row_of_sample? found
    have width := aligned.width row (List.mem_of_getElem? atPoint)
    have inside := (List.getElem?_eq_some_iff.mp atPosition).1
    exact ⟨(List.getElem?_eq_some_iff.mp atPoint).1, width ▸ inside⟩
  · rintro ⟨completed, named⟩
    obtain ⟨row, atPoint⟩ : ∃ row, series.rows[point]? = some row :=
      ⟨_, List.getElem?_eq_getElem completed⟩
    have inside : position < row.length := by
      rw [aligned.width row (List.mem_of_getElem? atPoint)]
      exact named
    refine ⟨row[position], ?_⟩
    rw [sample?, row?, atPoint, Option.bind_some, List.getElem?_eq_getElem inside]

/-- Columns that show a series: one for each endpoint in order, each with a value for every row, and
at every place what is seen of the sample that stands there. -/
structure Shows (series : Series) (columns : List (String × List (Option Float)))
    (view : Sample → Option Float) : Prop where
  names : columns.map Prod.fst = series.endpoints
  lengths : ∀ column ∈ columns, column.2.length = series.length
  values : ∀ point position sample, series.sample? point position = some sample →
    ((columns[position]?).bind fun column => column.2[point]?) = some (view sample)

theorem getElem?_columnsAt (series : Series) (metric : Metric) (names : List String)
    (position : Nat) :
    (series.columnsAt metric 0 names)[position]? =
      (names[position]?).map fun name => (name, series.valuesAt metric position) := by
  rw [columnsAt, List.getElem?_map, List.getElem?_zipIdx, Option.map_map, Nat.zero_add]
  rfl

/-- The columns of a metric show its values. -/
theorem Aligned.shows_metric {series : Series} (aligned : series.Aligned) (metric : Metric) :
    series.Shows (series.columnsAt metric 0 series.endpoints)
      fun sample => sample.get metric where
  names := by
    rw [columnsAt, List.map_map]
    exact List.zipIdx_map_fst 0 series.endpoints
  lengths := by
    intro column member
    obtain ⟨place, -, rfl⟩ := List.mem_map.mp member
    exact series.length_valuesAt metric place.2
  values := by
    intro point position sample found
    obtain ⟨-, named⟩ := (aligned.sample?_iff point position).mp ⟨sample, found⟩
    rw [getElem?_columnsAt, List.getElem?_eq_getElem named]
    exact getElem?_valuesAt found metric

/-- Values that are all seen in another way show the series in that way. -/
theorem Shows.map {series : Series} {columns : List (String × List (Option Float))}
    {view : Sample → Option Float} (shows : series.Shows columns view) (change : Float → Float) :
    series.Shows (columns.map fun column => (column.1, column.2.map (Option.map change)))
      fun sample => (view sample).map change where
  names := by
    rw [List.map_map]
    exact shows.names
  lengths := by
    intro column member
    obtain ⟨original, held, rfl⟩ := List.mem_map.mp member
    exact (List.length_map ..).trans (shows.lengths original held)
  values := by
    intro point position sample found
    obtain ⟨column, atPosition, atPoint⟩ :=
      Option.bind_eq_some_iff.mp (shows.values point position sample found)
    rw [List.getElem?_map, atPosition, Option.map_some, Option.bind_some, List.getElem?_map,
      atPoint, Option.map_some]

/-- An endpoint whose name no other has is found at its position. -/
theorem endpointIndex?_of_nodup {series : Series} (distinct : series.endpoints.Nodup)
    {position : Nat} {name : String} (named : series.endpoints[position]? = some name) :
    series.endpointIndex? name = some position := by
  obtain ⟨inside, rfl⟩ := List.getElem?_eq_some_iff.mp named
  refine List.findIdx?_eq_some_iff_getElem.mpr ⟨inside, beq_self_eq_true _, ?_⟩
  intro earlier before same
  have equal := distinct.getElem_inj_iff.mp (eq_of_beq same)
  omega

end Series

/-- The columns of a report by name. -/
def Report.table (report : Report) : List (String × List (Option Float)) :=
  report.columns.map fun column => (column.endpoint, column.values)

/-- A metric of an aligned series, and the report of it. -/
theorem Series.Aligned.projects {series : Series} (aligned : series.Aligned) (metric : Metric) :
    ∃ columns report,
      series.metric? metric = some columns ∧ series.report? metric = some report ∧
      columns.categories = series.sweep.categories.take series.length ∧
      report.categories = series.sweep.categories.take series.length ∧
      series.Shows columns.columns (fun sample => sample.get metric) ∧
      series.Shows report.table (fun sample => (sample.get metric).map metric.display) ∧
      (series.endpoints.Nodup → ∀ position name, series.endpoints[position]? = some name →
        series.endpointIndex? name = some position ∧
        columns.values? name = (columns.columns[position]?).map Prod.snd) := by
  have shown := aligned.shows_metric metric
  have projected := Series.metric?_of_projectable aligned.projectable metric
  refine ⟨_, _, projected, congrArg (Option.map _) projected, rfl, rfl, shown, ?_, ?_⟩
  · have displayed := shown.map metric.display
    rw [Report.table, List.map_map]
    exact displayed
  · intro distinct position name atPosition
    have index := Series.endpointIndex?_of_nodup distinct atPosition
    refine ⟨index, ?_⟩
    have found := series.lookup_columnsAt metric 0 series.endpoints name
    rw [Series.endpointIndex?] at index
    rw [index, Option.map_some, Nat.zero_add] at found
    rw [Series.getElem?_columnsAt, atPosition]
    exact found

end LoadSweep
