import LoadSweep.Proofs.Markup.Elements
import LoadSweep.Proofs.Report.Cells

/-!
# The marks of a chart

A chart is written mark by mark: the marks of each part are listed here, and `chart_marked` puts
them together.  Each place of a chart, a category and a column, has one bar unless its value is
missing and gaps are left (`Report.drawn`), and the bar carries a title.  The elements of a chart
are well nested (`balanced_chartMarks`).
-/

namespace LoadSweep.Chart

open Markup

set_option autoImplicit false

/-! ## Places -/

/-- A place of a chart: a category and a column, with their positions. -/
structure Place where
  group : Nat
  category : String
  position : Nat
  column : ReportColumn

namespace Place

/-- The value at a place. -/
def value? (place : Place) : Option Float :=
  place.column.value? place.group

/-- What the title of the bar at a place says. -/
def title (metric : Metric) (place : Place) : String :=
  s!"{place.column.endpoint} @ {place.category}: {cell metric place.value?}"

/-- Whether a place has a bar: not if its value is missing and gaps are left. -/
def isDrawn (missing : MissingPolicy) (place : Place) : Bool :=
  place.value?.isSome || missing == .flat

end Place

/-- The places of a category, column by column. -/
def placesOf (columns : List ReportColumn) (group : Nat) (category : String) : List Place :=
  columns.zipIdx.map fun (column, position) => ⟨group, category, position, column⟩

end LoadSweep.Chart

namespace LoadSweep

open Chart

/-- The places of a chart, category by category. -/
def Report.places (report : Report) : List Place :=
  report.categories.zipIdx.flatMap fun (category, group) =>
    placesOf report.columns group category

/-- The places with a bar. -/
def Report.drawn (report : Report) (missing : MissingPolicy) : List Place :=
  report.places.filter (Place.isDrawn missing)

theorem Report.mem_places {report : Report} {place : Place} :
    place ∈ report.places ↔
      report.categories[place.group]? = some place.category ∧
        report.columns[place.position]? = some place.column := by
  simp only [places, placesOf, List.mem_flatMap, List.mem_map, Prod.exists,
    List.mk_mem_zipIdx_iff_getElem?]
  constructor
  · rintro ⟨category, group, labelled, column, position, held, rfl⟩
    exact ⟨labelled, held⟩
  · rintro ⟨labelled, held⟩
    exact ⟨_, _, labelled, _, _, held, rfl⟩

end LoadSweep

namespace LoadSweep.Chart

open Markup

@[simp] theorem plain_coordinate (x : Float) : Plain (coordinate x) :=
  (numeric_coordinate x).plain

@[simp] theorem plain_colour (position : Nat) : Plain (colour position) := by
  have each : ∀ place < palette.length, Plain ((palette[place]?).getD "") := by decide
  exact each (position % palette.length) (Nat.mod_lt _ (by decide))

/-! ## Parts of a chart -/

/-- The marks of a tick. -/
def tickMarks (top : Float) (position : Nat) : List Mark :=
  let part := Float.ofNat position
  let count := Float.ofNat tickIntervals
  let y := baseline - plotHeight * part / count
  single .line
      [("x1", coordinate left), ("y1", coordinate y), ("x2", coordinate (left + plotWidth)),
        ("y2", coordinate y), ("stroke", "#e5e5e5")] "\n"
    ++ leaf .text
      [("x", coordinate (left - 6.0)), ("y", coordinate (y + 4.0)), ("text-anchor", "end")]
      (tickText (top * part / count)) "\n"

theorem tick_marked (top : Float) (position : Nat) :
    Marked (tick top position) (tickMarks top position) where
  text := by
    unfold tick tickMarks
    generalize coordinate = shown
    rw [← String.toList_inj]
    simp [single, leaf, element, ElementName.shown, attributesText, Mark.written, toString]
  plain := (plainMarks_single (by simp +decide)).append
    (plainMarks_leaf (by simp +decide) (numeric_tickText _).plain)

/-- The attributes of a bar of a given height. -/
def barAttributes (layout : Layout) (place : Place) (height : Float) : List (String × String) :=
  let start := left + layout.band * Float.ofNat place.group
    + layout.band * (1.0 - groupFill) / 2.0
  let x := start + layout.barWidth * Float.ofNat place.position
  [("class", "bar"), ("x", coordinate x), ("y", coordinate (baseline - height)),
    ("width", coordinate layout.barWidth), ("height", coordinate height),
    ("fill", colour place.position)]

/-- The title of a bar as it is written. -/
def titleText (metric : Metric) (place : Place) : String :=
  s!"{escape place.column.endpoint} @ {escape place.category}: {cell metric place.value?}"

/-- The marks of a bar, if there is one. -/
def barMarks (layout : Layout) (missing : MissingPolicy) (metric : Metric) (place : Place) :
    List Mark :=
  match barHeight? layout.top missing place.value? with
  | none => []
  | some height =>
    element .rect (barAttributes layout place height) ""
      (leaf .title [] (titleText metric place) "") "\n"

/-- The marks of the label under a group. -/
def labelMarks (layout : Layout) (group : Nat) (category : String) : List Mark :=
  let x := left + layout.band * (Float.ofNat group + 0.5)
  leaf .text
    [("x", coordinate x), ("y", coordinate (baseline + 18.0)), ("text-anchor", "middle")]
    (escape category) "\n"

/-- The marks of a group. -/
def groupMarks (layout : Layout) (missing : MissingPolicy) (report : Report) (group : Nat)
    (category : String) : List Mark :=
  (placesOf report.columns group category).flatMap
      (barMarks layout missing report.metric)
    ++ labelMarks layout group category

/-- The marks of an entry of the legend. -/
def entryMarks (column : ReportColumn) (position : Nat) : List Mark :=
  let x := left + 120.0 * Float.ofNat position
  single .rect
      [("x", coordinate x), ("y", coordinate (legendLine - 10.0)), ("width", "12"),
        ("height", "12"), ("fill", colour position)] "\n"
    ++ leaf .text [("x", coordinate (x + 18.0)), ("y", coordinate legendLine)]
      (escape column.endpoint) "\n"

/-- The marks of the background and the title. -/
def titleMarks (report : Report) : List Mark :=
  single .rect [("width", "100%"), ("height", "100%"), ("fill", "#ffffff")] "\n"
    ++ leaf .text
      [("x", "450"), ("y", "28"), ("text-anchor", "middle"), ("font-size", "16")]
      (escape report.title) "\n"

/-- The marks of the horizontal axis and the labels of both axes. -/
def axesMarks (report : Report) : List Mark :=
  single .line
      [("x1", coordinate left), ("y1", coordinate baseline),
        ("x2", coordinate (left + plotWidth)), ("y2", coordinate baseline), ("stroke", "#444")] "\n"
    ++ leaf .text
      [("x", coordinate (left + plotWidth / 2.0)), ("y", coordinate (baseline + 40.0)),
        ("text-anchor", "middle")]
      (escape report.axisLabel) "\n"
    ++ leaf .text
      [("transform",
          s!"translate(18 {coordinate (baseline - plotHeight / 2.0)}) rotate(-90)"),
        ("text-anchor", "middle")]
      (escape report.valueLabel) "\n"

/-- The attributes of the drawing. -/
def drawingAttributes : List (String × String) :=
  [("xmlns", "http://www.w3.org/2000/svg"), ("width", "900"), ("height", "480"),
    ("viewBox", "0 0 900 480"), ("font-family", "sans-serif"), ("font-size", "12")]

/-- The marks of the groups of bars, category by category. -/
def groupsMarks (layout : Layout) (missing : MissingPolicy) (report : Report) : List Mark :=
  report.categories.zipIdx.flatMap fun (category, group) =>
    groupMarks layout missing report group category

/-- The marks of the legend. -/
def legendMarks (report : Report) : List Mark :=
  report.columns.zipIdx.flatMap fun (column, position) => entryMarks column position

/-- The marks of what is in a chart. -/
def innerMarks (report : Report) (missing : MissingPolicy) : List Mark :=
  let layout := Layout.ofReport report
  titleMarks report
    ++ (List.range (tickIntervals + 1)).flatMap (tickMarks layout.top)
    ++ groupsMarks layout missing report
    ++ axesMarks report
    ++ legendMarks report

/-- The marks of a chart. -/
def chartMarks (report : Report) (missing : MissingPolicy) : List Mark :=
  element .svg drawingAttributes "\n" (innerMarks report missing) "\n"

/-! ## A chart is written mark by mark -/

/-- What is written item by item, with positions counted up, is joined from the items. -/
theorem eq_join_zipIdx {α : Type} {write : Nat → List α → String} {one : α × Nat → String}
    (nothing : ∀ position, write position [] = "")
    (step : ∀ position item items,
      write position (item :: items) = one (item, position) ++ write (position + 1) items)
    (position : Nat) (items : List α) :
    write position items = String.join ((items.zipIdx position).map one) := by
  induction items generalizing position with
  | nil => exact nothing position
  | cons item items ih => rw [step, ih, List.zipIdx_cons, List.map_cons, String.join_cons]

theorem barsFrom_eq (layout : Layout) (missing : MissingPolicy) (metric : Metric) (group : Nat)
    (category : String) (position : Nat) (columns : List ReportColumn) :
    barsFrom layout missing metric group category position columns =
      String.join ((columns.zipIdx position).map fun (column, place) =>
        bar layout missing metric group category place column) :=
  eq_join_zipIdx (fun _ => rfl) (fun _ _ _ => rfl) position columns

theorem groupsFrom_eq (layout : Layout) (missing : MissingPolicy) (report : Report) (group : Nat)
    (categories : List String) :
    groupsFrom layout missing report group categories =
      String.join ((categories.zipIdx group).map fun (category, place) =>
        barsFrom layout missing report.metric place category 0 report.columns
          ++ groupLabel layout place category) :=
  eq_join_zipIdx (fun _ => rfl) (fun _ _ _ => rfl) group categories

/-- One entry of the legend. -/
def entry (column : ReportColumn) (position : Nat) : String :=
  let x := left + 120.0 * Float.ofNat position
  s!"<rect x=\"{coordinate x}\" y=\"{coordinate (legendLine - 10.0)}\" width=\"12\" "
    ++ s!"height=\"12\" fill=\"{colour position}\"/>\n"
    ++ s!"<text x=\"{coordinate (x + 18.0)}\" y=\"{coordinate legendLine}\">"
    ++ s!"{escape column.endpoint}</text>\n"

theorem legendFrom_eq (position : Nat) (columns : List ReportColumn) :
    legendFrom position columns =
      String.join ((columns.zipIdx position).map fun (column, place) =>
        entry column place) :=
  eq_join_zipIdx (fun _ => rfl) (fun _ _ _ => rfl) position columns

theorem plain_titleText (metric : Metric) (place : Place) : Plain (titleText metric place) := by
  simp +decide [titleText, toString, (numeric_cell metric place.value?).plain]

theorem bar_marked (layout : Layout) (missing : MissingPolicy) (metric : Metric) (place : Place) :
    Marked (bar layout missing metric place.group place.category place.position place.column)
      (barMarks layout missing metric place) := by
  have same : place.column.value? place.group = place.value? := rfl
  cases drawn : barHeight? layout.top missing place.value? with
  | none =>
    simp only [bar, barMarks, same, drawn]
    exact ⟨rfl, nofun⟩
  | some height =>
    simp only [bar, barMarks, same, drawn]
    constructor
    · unfold barAttributes
      generalize coordinate = shown
      rw [← String.toList_inj]
      simp [leaf, element, ElementName.shown, attributesText, Mark.written, titleText, toString]
    · exact plainMarks_element (by simp +decide [barAttributes]) (by decide)
        (plainMarks_leaf (by decide) (plain_titleText metric place))

theorem bars_marked (layout : Layout) (missing : MissingPolicy) (metric : Metric) (group : Nat)
    (category : String) (columns : List ReportColumn) :
    Marked (barsFrom layout missing metric group category 0 columns)
      ((placesOf columns group category).flatMap (barMarks layout missing metric)) := by
  rw [barsFrom_eq, placesOf, List.flatMap_map]
  refine .flatMap ?_
  rintro ⟨column, position⟩ -
  exact bar_marked layout missing metric ⟨group, category, position, column⟩

theorem groupLabel_marked (layout : Layout) (group : Nat) (category : String) :
    Marked (groupLabel layout group category) (labelMarks layout group category) where
  text := by
    unfold groupLabel labelMarks
    generalize coordinate = shown
    rw [← String.toList_inj]
    simp [leaf, element, ElementName.shown, attributesText, Mark.written, toString]
  plain := plainMarks_leaf (by simp +decide) (plain_escape _)

theorem entry_marked (column : ReportColumn) (position : Nat) :
    Marked (entry column position) (entryMarks column position) where
  text := by
    unfold entry entryMarks
    generalize coordinate = shown
    rw [← String.toList_inj]
    simp [single, leaf, element, ElementName.shown, attributesText, Mark.written, toString]
  plain := (plainMarks_single (by simp +decide)).append
    (plainMarks_leaf (by simp +decide) (plain_escape _))

/-- The opening tag of a chart. -/
theorem drawing_marked :
    Marked
      ("<svg xmlns=\"http://www.w3.org/2000/svg\" width=\"900\" height=\"480\" "
        ++ "viewBox=\"0 0 900 480\" font-family=\"sans-serif\" font-size=\"12\">\n")
      [⟨ElementName.svg.shown ++ attributesText drawingAttributes, "\n"⟩] where
  text := by decide +kernel
  plain := by
    have attributes : PlainAttributes drawingAttributes := by decide
    refine List.forall_mem_singleton.mpr ⟨(plain_append_iff _ _).mpr ⟨by decide, ?_⟩, by decide⟩
    exact plain_attributesText attributes

theorem title_marked (report : Report) :
    Marked
      ("<rect width=\"100%\" height=\"100%\" fill=\"#ffffff\"/>\n"
        ++ ("<text x=\"450\" y=\"28\" text-anchor=\"middle\" font-size=\"16\">"
          ++ s!"{escape report.title}</text>\n"))
      (titleMarks report) where
  text := by
    rw [← String.toList_inj]
    simp [titleMarks, single, leaf, element, ElementName.shown, attributesText, Mark.written,
      toString]
  plain := (plainMarks_single (by simp +decide)).append
    (plainMarks_leaf (by simp +decide) (plain_escape _))

theorem opening_marked (report : Report) :
    Marked (opening report)
      (⟨ElementName.svg.shown ++ attributesText drawingAttributes, "\n"⟩ :: titleMarks report) := by
  have regroup (a b c d : String) : a ++ b ++ c ++ d = a ++ (b ++ (c ++ d)) := by
    rw [String.append_assoc, String.append_assoc]
  have parts : opening report = _ := regroup _ _ _ _
  rw [parts]
  exact drawing_marked.append (title_marked report)

theorem axes_marked (report : Report) : Marked (axes report) (axesMarks report) where
  text := by
    unfold axes axesMarks
    generalize coordinate = shown
    rw [← String.toList_inj]
    simp [single, leaf, element, ElementName.shown, attributesText, Mark.written, toString]
  plain := ((plainMarks_single (by simp +decide)).append
    (plainMarks_leaf (by simp +decide) (plain_escape _))).append
      (plainMarks_leaf (by simp +decide) (plain_escape _))

theorem groups_marked (layout : Layout) (missing : MissingPolicy) (report : Report) :
    Marked (groupsFrom layout missing report 0 report.categories)
      (groupsMarks layout missing report) := by
  rw [groupsFrom_eq]
  refine .flatMap ?_
  rintro ⟨category, group⟩ -
  exact (bars_marked layout missing report.metric group category report.columns).append
    (groupLabel_marked layout group category)

theorem legend_marked (report : Report) :
    Marked (legendFrom 0 report.columns) (legendMarks report) := by
  rw [legendFrom_eq]
  refine .flatMap ?_
  rintro ⟨column, position⟩ -
  exact entry_marked column position

/-- **A chart is written mark by mark.** -/
theorem chart_marked (report : Report) (missing : MissingPolicy) :
    Marked (report.chart missing) (chartMarks report missing) := by
  have ticks (top : Float) : Marked
      (String.join ((List.range (tickIntervals + 1)).map (tick top)))
      ((List.range (tickIntervals + 1)).flatMap (tickMarks top)) :=
    .flatMap fun position _ => tick_marked top position
  have groups := groups_marked (Layout.ofReport report) missing report
  have closing : Marked "</svg>\n" [⟨"/" ++ ElementName.svg.shown, "\n"⟩] :=
    (Marked.mark (by decide) (by decide)).of_toList (by simp [ElementName.shown])
  have whole := ((((opening_marked report).append (ticks (Layout.ofReport report).top)).append
    groups).append (axes_marked report)).append (legend_marked report) |>.append closing
  rw [Report.chart, chartMarks, element, innerMarks]
  simpa only [List.cons_append, List.append_assoc] using whole

/-! ## Nesting -/

theorem balanced_barMarks (layout : Layout) (missing : MissingPolicy) (metric : Metric)
    (place : Place) : Balanced (barMarks layout missing metric place) := by
  rw [barMarks]
  cases barHeight? layout.top missing place.value? with
  | none => exact balanced_nil
  | some height =>
    exact balanced_element balanced_leaf

theorem balanced_groupsMarks (layout : Layout) (missing : MissingPolicy) (report : Report) :
    Balanced (groupsMarks layout missing report) := by
  refine .flatMap ?_
  rintro ⟨category, group⟩ -
  have bars : Balanced ((placesOf report.columns group category).flatMap
      (barMarks layout missing report.metric)) :=
    .flatMap fun place _ => balanced_barMarks layout missing report.metric place
  exact bars.append balanced_leaf

theorem balanced_legendMarks (report : Report) : Balanced (legendMarks report) := by
  refine .flatMap ?_
  rintro ⟨column, position⟩ -
  exact balanced_single.append balanced_leaf

theorem balanced_innerMarks (report : Report) (missing : MissingPolicy) :
    Balanced (innerMarks report missing) := by
  have title : Balanced (titleMarks report) := balanced_single.append balanced_leaf
  have ticks (top : Float) : Balanced ((List.range (tickIntervals + 1)).flatMap (tickMarks top)) :=
    .flatMap fun position _ => balanced_single.append balanced_leaf
  have axes : Balanced (axesMarks report) :=
    (balanced_single.append balanced_leaf).append balanced_leaf
  exact (((title.append (ticks _)).append (balanced_groupsMarks _ missing report)).append
    axes).append (balanced_legendMarks report)

theorem balanced_chartMarks (report : Report) (missing : MissingPolicy) :
    Balanced (chartMarks report missing) :=
  balanced_element (balanced_innerMarks report missing)

end LoadSweep.Chart
