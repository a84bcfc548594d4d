import LoadSweep.Proofs.Report.ChartMarks

/-!
# What a chart shows

The title, the labels and the names of the legend stand in the `text` elements of a chart
(`texts_chartMarks`), and the titles of the bars in its `title` elements (`titles_chartMarks`), all
of them as they were given once the entities are undone.  The tags depend on none of these texts
(`tags_chartMarks`).
-/

namespace LoadSweep

set_option autoImplicit false

/-! ## Lists with positions -/

/-- What is seen of the items alone does not depend on their positions. -/
theorem map_zipIdx_fst {α β : Type} (view : α → β) (items : List α) :
    (items.zipIdx.map fun item => view item.1) = items.map view :=
  calc (items.zipIdx.map fun item => view item.1)
    _ = (items.zipIdx.map Prod.fst).map view := List.map_map.symm
    _ = items.map view := by rw [List.zipIdx_map_fst]

/-- Erasing a part of the items changes nothing in the view of what each of them yields, if it
changes nothing there item by item. -/
theorem map_flatMap_zipIdx {α β γ : Type} {view : β → γ} {erase : α → α}
    {yield other : α × Nat → List β}
    (alike : ∀ item position,
      (yield (erase item, position)).map view = (other (item, position)).map view)
    (items : List α) :
    ((items.map erase).zipIdx.flatMap yield).map view = (items.zipIdx.flatMap other).map view := by
  rw [List.zipIdx_map, List.flatMap_map, List.map_flatMap, List.map_flatMap]
  exact congrArg (List.flatMap · _) (funext fun item => alike item.1 item.2)

theorem flatMap_nothing {α β : Type} (items : List α) :
    (items.flatMap fun _ => ([] : List β)) = [] :=
  List.flatMap_eq_nil_iff.mpr fun _ _ => rfl

theorem flatMap_filter {α β : Type} (test : α → Bool) (view : α → β) (items : List α) :
    (items.flatMap fun item => if test item then [view item] else []) =
      (items.filter test).map view := by
  induction items with
  | nil => rfl
  | cons item items ih =>
    rw [List.flatMap_cons, ih, List.filter_cons]
    split <;> rfl

theorem flatMap_if {α β : Type} (wanted : Prop) [Decidable wanted] (view : α → β)
    (items : List α) :
    (items.flatMap fun item => if wanted then [view item] else []) =
      if wanted then items.map view else [] := by
  split
  · exact List.map_eq_flatMap.symm
  · exact flatMap_nothing items

/-! ## Reports without texts -/

/-- A column whose endpoint has no name. -/
def ReportColumn.unnamed (column : ReportColumn) : ReportColumn :=
  { column with endpoint := "" }

/-- A report in which every text is empty. -/
def Report.textless (report : Report) : Report :=
  { report with
    title := ""
    axisLabel := ""
    unit := ""
    categories := report.categories.map fun _ => ""
    columns := report.columns.map ReportColumn.unnamed }

end LoadSweep

namespace LoadSweep.Chart

open Markup

/-! ## Contents -/

/-- The texts of the ticks. -/
def tickTexts (report : Report) : List String :=
  (List.range (tickIntervals + 1)).map fun position =>
    tickText ((Layout.ofReport report).top * Float.ofNat position / Float.ofNat tickIntervals)

/-- The texts that stand in a chart. -/
def texts (report : Report) : List String :=
  report.title :: tickTexts report ++ report.categories ++ [report.axisLabel, report.valueLabel]
    ++ report.columns.map ReportColumn.endpoint

theorem denotes_titleText (metric : Metric) (place : Place) :
    Denotes (titleText metric place) (place.title metric) :=
  ((((denotes_escape _).append (denotes_self (by decide))).append (denotes_escape _)).append
    (denotes_self (by decide))).append (numeric_cell metric place.value?).denotes

section Contents

variable (sought : String)

theorem contentsOf_tickMarks (top : Float) (position : Nat) :
    contentsOf sought (tickMarks top position) =
      if "text" = sought then [tickText (top * Float.ofNat position / Float.ofNat tickIntervals)]
      else [] := by
  rw [tickMarks, contentsOf_append, contentsOf_single,
    contentsOf_leaf (numeric_tickText _).denotes, List.nil_append]

theorem isSome_barHeight? (top : Float) (missing : MissingPolicy) (value : Option Float) :
    (barHeight? top missing value).isSome = (value.isSome || missing == .flat) := by
  cases value <;> cases missing <;> rfl

theorem contentsOf_barMarks (layout : Layout) (missing : MissingPolicy) (metric : Metric)
    (place : Place) :
    contentsOf sought (barMarks layout missing metric place) =
      if place.isDrawn missing then
        (if "rect" = sought then [""] else [])
          ++ if "title" = sought then [place.title metric] else []
      else [] := by
  have drawn := isSome_barHeight? layout.top missing place.value?
  rw [Place.isDrawn, ← drawn, barMarks]
  cases barHeight? layout.top missing place.value? with
  | none => rfl
  | some height =>
    have empty : unescaped "" = "" := rfl
    rw [contentsOf_element, empty,
      contentsOf_leaf (denotes_titleText metric place)]
    rfl

theorem contentsOf_labelMarks (layout : Layout) (group : Nat) (category : String) :
    contentsOf sought (labelMarks layout group category) =
      if "text" = sought then [category] else [] :=
  contentsOf_leaf (denotes_escape category)

theorem contentsOf_entryMarks (column : ReportColumn) (position : Nat) :
    contentsOf sought (entryMarks column position) =
      if "text" = sought then [column.endpoint] else [] := by
  rw [entryMarks, contentsOf_append, contentsOf_single,
    contentsOf_leaf (denotes_escape column.endpoint), List.nil_append]

theorem contentsOf_titleMarks (report : Report) :
    contentsOf sought (titleMarks report) = if "text" = sought then [report.title] else [] := by
  rw [titleMarks, contentsOf_append, contentsOf_single,
    contentsOf_leaf (denotes_escape report.title), List.nil_append]

theorem contentsOf_axesMarks (report : Report) :
    contentsOf sought (axesMarks report) =
      if "text" = sought then [report.axisLabel, report.valueLabel] else [] := by
  rw [axesMarks, contentsOf_append, contentsOf_append, contentsOf_single,
    contentsOf_leaf (denotes_escape report.axisLabel),
    contentsOf_leaf (denotes_escape report.valueLabel), List.nil_append]
  split <;> rfl

/-- A group shows its bars with their titles, and then its label. -/
theorem contentsOf_groupsMarks (layout : Layout) (missing : MissingPolicy) (report : Report) :
    contentsOf sought (groupsMarks layout missing report) =
      report.categories.zipIdx.flatMap fun (category, group) =>
        (placesOf report.columns group category).flatMap (fun place =>
            if place.isDrawn missing then
              (if "rect" = sought then [""] else [])
                ++ if "title" = sought then [place.title report.metric] else []
            else [])
          ++ if "text" = sought then [category] else [] := by
  simp only [groupsMarks, groupMarks, contentsOf_flatMap, contentsOf_append, contentsOf_barMarks,
    contentsOf_labelMarks]

theorem contentsOf_legendMarks (report : Report) :
    contentsOf sought (legendMarks report) =
      if "text" = sought then report.columns.map ReportColumn.endpoint else [] := by
  simp only [legendMarks, contentsOf_flatMap, contentsOf_entryMarks, flatMap_if, map_zipIdx_fst]

/-- What the elements of one name contain, part by part. -/
theorem contentsOf_chartMarks (report : Report) (missing : MissingPolicy) :
    contentsOf sought (chartMarks report missing) =
      (if "svg" = sought then ["\n"] else [])
        ++ (if "text" = sought then report.title :: tickTexts report else [])
        ++ (report.categories.zipIdx.flatMap fun (category, group) =>
          (placesOf report.columns group category).flatMap (fun place =>
              if place.isDrawn missing then
                (if "rect" = sought then [""] else [])
                  ++ if "title" = sought then [place.title report.metric] else []
              else [])
            ++ if "text" = sought then [category] else [])
        ++ if "text" = sought then
            report.axisLabel :: report.valueLabel :: report.columns.map ReportColumn.endpoint
          else [] := by
  rw [chartMarks, contentsOf_element, innerMarks]
  simp only [contentsOf_append, contentsOf_titleMarks, contentsOf_flatMap, contentsOf_tickMarks,
    flatMap_if, contentsOf_groupsMarks, contentsOf_axesMarks, contentsOf_legendMarks]
  have lineBreak : unescaped "\n" = "\n" := rfl
  by_cases text : "text" = sought <;>
    simp [text, tickTexts, lineBreak, ElementName.shown]

end Contents

/-- The title, the labels and the names of the legend stand in a chart. -/
theorem texts_chartMarks (report : Report) (missing : MissingPolicy) :
    contentsOf "text" (chartMarks report missing) = texts report := by
  have labels : (report.categories.zipIdx.flatMap fun item => [item.1]) = report.categories := by
    rw [← List.map_eq_flatMap, List.zipIdx_map_fst]
  simp [contentsOf_chartMarks, texts, flatMap_nothing, labels]

/-- The titles of the bars stand in a chart, place by place. -/
theorem titles_chartMarks (report : Report) (missing : MissingPolicy) :
    contentsOf "title" (chartMarks report missing) =
      (report.drawn missing).map (Place.title report.metric) := by
  rw [Report.drawn, ← flatMap_filter, Report.places, List.flatMap_assoc]
  simp [contentsOf_chartMarks]

/-- Apart from the drawing and its rectangles, only these two kinds of elements have contents. -/
theorem contentsOf_chartMarks_eq {sought : String} (drawing : ElementName.svg.shown ≠ sought)
    (rectangle : ElementName.rect.shown ≠ sought) (report : Report) (missing : MissingPolicy) :
    contentsOf sought (chartMarks report missing) =
      (if "title" = sought then (report.drawn missing).map (Place.title report.metric) else [])
        ++ if "text" = sought then texts report else [] := by
  by_cases title : "title" = sought
  · subst title
    exact (titles_chartMarks report missing).trans (List.append_nil _).symm
  by_cases text : "text" = sought
  · subst text
    exact texts_chartMarks report missing
  simp [contentsOf_chartMarks, drawing, rectangle, title, text]

/-! ## Tags -/

theorem layout_textless (report : Report) :
    Layout.ofReport report.textless = Layout.ofReport report := by
  have present : report.textless.present = report.present := List.flatMap_map ..
  have maximum : report.textless.maximum? = report.maximum? := by
    rw [Report.maximum?, Report.maximum?, present]
  have categories : report.textless.categories.length = report.categories.length :=
    List.length_map ..
  have columns : report.textless.columns.length = report.columns.length := List.length_map ..
  rw [Layout.ofReport, Layout.ofReport, maximum, categories, columns]

/-- The tags of a bar depend on its position and its value only. -/
theorem tags_barMarks (layout : Layout) (missing : MissingPolicy) (metric : Metric)
    (group position : Nat) (category : String) (column : ReportColumn) :
    (barMarks layout missing metric ⟨group, "", position, column.unnamed⟩).map Mark.tag =
      (barMarks layout missing metric ⟨group, category, position, column⟩).map Mark.tag := by
  have value : Place.value? ⟨group, "", position, column.unnamed⟩ =
      Place.value? ⟨group, category, position, column⟩ := rfl
  rw [barMarks, barMarks, value]
  cases barHeight? layout.top missing (Place.value? ⟨group, category, position, column⟩) with
  | none => rfl
  | some height => simp only [tags_element, tags_leaf, barAttributes]

theorem tags_groupMarks (layout : Layout) (missing : MissingPolicy) (report : Report)
    (group : Nat) (category : String) :
    (groupMarks layout missing report.textless group "").map Mark.tag =
      (groupMarks layout missing report group category).map Mark.tag := by
  have bars : ((placesOf report.textless.columns group "").flatMap
      (barMarks layout missing report.metric)).map Mark.tag =
      ((placesOf report.columns group category).flatMap
        (barMarks layout missing report.metric)).map Mark.tag := by
    simp only [placesOf, Report.textless, List.zipIdx_map, List.flatMap_map,
      List.map_flatMap, Prod.map, tags_barMarks layout missing report.metric group _ category,
      id_eq]
  have metric : report.textless.metric = report.metric := rfl
  simp only [groupMarks, List.map_append, labelMarks, tags_leaf, metric, bars]

theorem tags_groupsMarks (layout : Layout) (missing : MissingPolicy) (report : Report) :
    (groupsMarks layout missing report.textless).map Mark.tag =
      (groupsMarks layout missing report).map Mark.tag :=
  map_flatMap_zipIdx (fun category group => tags_groupMarks layout missing report group category)
    report.categories

theorem tags_legendMarks (report : Report) :
    (legendMarks report.textless).map Mark.tag = (legendMarks report).map Mark.tag := by
  have entry (column : ReportColumn) (position : Nat) :
      (entryMarks column.unnamed position).map Mark.tag =
        (entryMarks column position).map Mark.tag := by
    simp only [entryMarks, List.map_append, tags_single, tags_leaf]
  exact map_flatMap_zipIdx entry report.columns

/-- The texts of a report leave the tags of its chart as they are. -/
theorem tags_chartMarks (report : Report) (missing : MissingPolicy) :
    (chartMarks report.textless missing).map Mark.tag =
      (chartMarks report missing).map Mark.tag := by
  simp only [chartMarks, innerMarks, layout_textless, tags_element, List.map_append,
    tags_groupsMarks, tags_legendMarks, titleMarks, axesMarks, tags_single, tags_leaf]

end LoadSweep.Chart
