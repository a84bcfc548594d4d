import LoadSweep.Proofs.Markup.Attributes
import LoadSweep.Proofs.Report.ChartContents
import LoadSweep.Proofs.Report.Tables

/-!
# Bars of a chart

The bars of a chart are its elements of class `bar`.  Marks show the same bars whatever follows them
(`Shows`), so the bars of a chart are those of its parts, and only the places that are drawn have
one (`shows_chartMarks`).  Names and titles have no quotes once they are escaped; therefore the
class is written nowhere but in the tags of bars, and counting its text counts the bars
(`chart_draws_one_bar_for_each_place`).
-/

namespace LoadSweep.Chart

open Markup Text

set_option autoImplicit false

/-! ## Reading bars -/

/-- A bar as it is read: the name of its element, its colour and its title. -/
structure Bar where
  element : String
  fill : Option String
  title : Option String
  deriving Repr, DecidableEq

/-- The title that comes first. -/
def titleFirst? : List Mark → Option String
  | mark :: _ => if tagKind mark.tag = .opening "title" then some (unescaped mark.text) else none
  | [] => none

/-- The elements of class `bar`, each with the title right behind its opening tag. -/
def barsOf : List Mark → List Bar
  | [] => []
  | mark :: others =>
    if attribute? "class" mark.tag = some "bar" then
      ⟨tagName mark.tag, attribute? "fill" mark.tag, titleFirst? others⟩ :: barsOf others
    else barsOf others

/-- The bars of a document. -/
def bars (document : String) : List Bar :=
  barsOf (marks document)

/-- There are as many bars as tags of their class. -/
theorem length_barsOf (marks : List Mark) :
    (barsOf marks).length =
      marks.countP fun mark => attribute? "class" mark.tag = some "bar" := by
  induction marks with
  | nil => rfl
  | cons mark others ih =>
    rw [barsOf, List.countP_cons, ← ih]
    simp only [decide_eq_true_eq]
    split <;> rfl

/-! ## Marks and their bars -/

/-- Marks that show these bars, whatever follows, and the class of bars nowhere else. -/
structure Shows (marks : List Mark) (bars : List Bar) : Prop where
  read : ∀ rest, barsOf (marks ++ rest) = bars ++ barsOf rest
  telling : TellingMarks "bar" marks

theorem Shows.barsOf_eq {marks : List Mark} {bars : List Bar} (shows : Shows marks bars) :
    barsOf marks = bars := by
  have whole := shows.read []
  rwa [List.append_nil, barsOf, List.append_nil] at whole

theorem shows_nil : Shows [] [] :=
  ⟨fun _ => rfl, nofun⟩

theorem Shows.append {marks others : List Mark} {bars more : List Bar} (first : Shows marks bars)
    (second : Shows others more) : Shows (marks ++ others) (bars ++ more) where
  read := by
    intro rest
    rw [List.append_assoc, first.read, second.read, List.append_assoc]
  telling := first.telling.append second.telling

theorem Shows.flatMap {α : Type} {marksOf : α → List Mark} {barsOf : α → List Bar} {items : List α}
    (each : ∀ item ∈ items, Shows (marksOf item) (barsOf item)) :
    Shows (items.flatMap marksOf) (items.flatMap barsOf) := by
  induction items with
  | nil => exact shows_nil
  | cons item items ih =>
    obtain ⟨here, others⟩ := List.forall_mem_cons.mp each
    rw [List.flatMap_cons, List.flatMap_cons]
    exact here.append (ih others)

/-- Items that show no bar show none together. -/
theorem Shows.flatMap_nothing {α : Type} {marksOf : α → List Mark} {items : List α}
    (each : ∀ item ∈ items, Shows (marksOf item) []) : Shows (items.flatMap marksOf) [] := by
  have shows : Shows (items.flatMap marksOf) (items.flatMap fun _ => []) := .flatMap each
  rwa [LoadSweep.flatMap_nothing] at shows

/-- What an element that is no bar has around its text. -/
structure Other (attributes : List (String × String)) (after : String) : Prop where
  legible : Legible attributes
  unlike : ("class", "bar") ∉ attributes
  unquotedAfter : Unquoted after

@[simp] theorem other_iff (attributes : List (String × String)) (after : String) :
    Other attributes after ↔
      Legible attributes ∧ ("class", "bar") ∉ attributes ∧ Unquoted after :=
  ⟨fun ⟨legible, unlike, unquotedAfter⟩ => ⟨legible, unlike, unquotedAfter⟩,
    fun ⟨legible, unlike, unquotedAfter⟩ => ⟨legible, unlike, unquotedAfter⟩⟩

section Elements

variable {name : ElementName} {attributes : List (String × String)} {tag text after : String}
  {inner : List Mark} {bars : List Bar}

/-- The class of bars is a word. -/
theorem isClass_bar : IsClass "bar" := by
  decide

/-- A tag of another class is no bar. -/
theorem barsOf_cons_other (unlike : attribute? "class" tag ≠ some "bar") (rest : List Mark) :
    barsOf (⟨tag, text⟩ :: rest) = barsOf rest := by
  rw [barsOf, if_neg unlike]

theorem barsOf_cons_closing (name : ElementName) (text : String) (rest : List Mark) :
    barsOf (⟨"/" ++ name.shown, text⟩ :: rest) = barsOf rest := by
  apply barsOf_cons_other
  rw [attribute?, attributesOf_closing]
  intro given
  cases given

theorem shows_single (other : Other attributes after) :
    Shows (single name attributes after) [] where
  read := by
    intro rest
    apply barsOf_cons_other
    rw [attribute?, attributesOf_single other.legible]
    exact mt (other.legible.lookup_iff ..).mp other.unlike
  telling := tells_single isClass_bar other.legible other.unquotedAfter

theorem shows_element (other : Other attributes after) (unquoted : Unquoted text)
    (shows : Shows inner bars) : Shows (element name attributes text inner after) bars where
  read := by
    intro rest
    have unlike : attribute? "class" (name.shown ++ attributesText attributes) ≠ some "bar" := by
      rw [attribute?, attributesOf_opening other.legible]
      exact mt (other.legible.lookup_iff ..).mp other.unlike
    rw [element, List.cons_append, barsOf_cons_other unlike, List.append_assoc, shows.read,
      List.singleton_append, barsOf_cons_closing]
  telling := tells_element isClass_bar other.legible unquoted other.unquotedAfter shows.telling

theorem shows_leaf (other : Other attributes after) (unquoted : Unquoted text) :
    Shows (leaf name attributes text after) [] :=
  shows_element other unquoted shows_nil

/-- An element of class `bar` with a title in it. -/
theorem shows_bar {caption said : String} (legible : Legible attributes)
    (bar : attributes.lookup "class" = some "bar") (denotes : Denotes caption said)
    (unquoted : Unquoted caption) :
    Shows (element name attributes "" (leaf .title [] caption "") "\n")
      [⟨name.shown, attributes.lookup "fill", some said⟩] where
  read := by
    intro rest
    have titled : Shows (leaf .title [] caption "") [] := shows_leaf (by simp +decide) unquoted
    have opens : tagKind (ElementName.title.shown ++ attributesText []) = .opening "title" :=
      tagKind_opening .title []
    rw [element, List.cons_append, barsOf, attribute?, attribute?, attributesOf_opening legible,
      if_pos bar, tagName_opening, List.append_assoc, titled.read, List.singleton_append,
      barsOf_cons_closing]
    rw [leaf, element, List.cons_append, titleFirst?, if_pos opens, denotes.unescaped]
    rfl
  telling := tells_element isClass_bar legible (by decide) (by decide)
    (tells_leaf isClass_bar legible_nil unquoted (by decide))

end Elements

/-! ## Parts of a chart -/

theorem unquoted_of_numeric {text : String} (numeric : Numeric text) : Unquoted text :=
  numeric.not_mem (by decide)

@[simp] theorem unquoted_coordinate (x : Float) : Unquoted (coordinate x) :=
  unquoted_of_numeric (numeric_coordinate x)

@[simp] theorem unquoted_colour (position : Nat) : Unquoted (colour position) := by
  have each : ∀ place < palette.length, Unquoted ((palette[place]?).getD "") := by decide
  exact each (position % palette.length) (Nat.mod_lt _ (by decide))

theorem unquoted_titleText (metric : Metric) (place : Place) :
    Unquoted (titleText metric place) := by
  have shown : Unquoted (cell metric place.value?) := unquoted_of_numeric (numeric_cell _ _)
  simp +decide [titleText, toString, shown]

theorem legible_barAttributes (layout : Layout) (place : Place) (height : Float) :
    Legible (barAttributes layout place height) := by
  simp +decide [barAttributes]

/-- The bar of a place. -/
def Place.bar (metric : Metric) (place : Place) : Bar where
  element := "rect"
  fill := palette[place.position % palette.length]?
  title := some (place.title metric)

theorem colour_eq (position : Nat) :
    some (colour position) = palette[position % palette.length]? := by
  have inside : position % palette.length < palette.length := Nat.mod_lt _ (by decide)
  rw [colour, List.getElem?_eq_getElem inside, Option.getD_some]

/-- The marks of a place show its bar, if it has one. -/
theorem shows_barMarks (layout : Layout) (missing : MissingPolicy) (metric : Metric)
    (place : Place) :
    Shows (barMarks layout missing metric place)
      (if place.isDrawn missing then [place.bar metric] else []) := by
  have drawn := isSome_barHeight? layout.top missing place.value?
  rw [Place.isDrawn, ← drawn, barMarks]
  cases barHeight? layout.top missing place.value? with
  | none => exact shows_nil
  | some height =>
    have legible := legible_barAttributes layout place height
    have cls : (barAttributes layout place height).lookup "class" = some "bar" := by
      rw [legible.lookup_iff]
      exact List.mem_cons_self
    have fill : (barAttributes layout place height).lookup "fill" = some (colour place.position) := by
      rw [legible.lookup_iff]
      simp [barAttributes]
    have shows : Shows (element .rect _ "" (leaf .title [] (titleText metric place) "") "\n") _ :=
      shows_bar legible cls (denotes_titleText metric place) (unquoted_titleText metric place)
    rwa [fill, colour_eq] at shows

theorem shows_tickMarks (top : Float) (position : Nat) : Shows (tickMarks top position) [] :=
  (shows_single (by simp +decide)).append
    (shows_leaf (by simp +decide) (unquoted_of_numeric (numeric_tickText _)))

theorem shows_labelMarks (layout : Layout) (group : Nat) (category : String) :
    Shows (labelMarks layout group category) [] :=
  shows_leaf (by simp +decide) (unquoted_escape _)

theorem shows_entryMarks (column : ReportColumn) (position : Nat) :
    Shows (entryMarks column position) [] :=
  (shows_single (by simp +decide)).append (shows_leaf (by simp +decide) (unquoted_escape _))

theorem shows_titleMarks (report : Report) : Shows (titleMarks report) [] :=
  (shows_single (by simp +decide)).append (shows_leaf (by simp +decide) (unquoted_escape _))

theorem shows_axesMarks (report : Report) : Shows (axesMarks report) [] :=
  ((shows_single (by simp +decide)).append
    (shows_leaf (by simp +decide) (unquoted_escape _))).append
      (shows_leaf (by simp +decide [toString]) (unquoted_escape _))

theorem shows_groupsMarks (layout : Layout) (missing : MissingPolicy) (report : Report) :
    Shows (groupsMarks layout missing report)
      ((report.drawn missing).map (Place.bar report.metric)) := by
  have places : (report.drawn missing).map (Place.bar report.metric) =
      report.categories.zipIdx.flatMap fun item =>
        (placesOf report.columns item.2 item.1).flatMap fun place =>
          if place.isDrawn missing then [place.bar report.metric] else [] := by
    rw [Report.drawn, ← flatMap_filter, Report.places, List.flatMap_assoc]
  rw [places]
  apply Shows.flatMap
  rintro ⟨category, group⟩ -
  have bars : Shows ((placesOf report.columns group category).flatMap
      (barMarks layout missing report.metric)) _ :=
    .flatMap fun place _ => shows_barMarks layout missing report.metric place
  have labelled := bars.append (shows_labelMarks layout group category)
  rwa [List.append_nil] at labelled

/-- A chart shows the bars of the places that are drawn. -/
theorem shows_chartMarks (report : Report) (missing : MissingPolicy) :
    Shows (chartMarks report missing) ((report.drawn missing).map (Place.bar report.metric)) := by
  have ticks : Shows ((List.range (tickIntervals + 1)).flatMap
      (tickMarks (Layout.ofReport report).top)) [] :=
    .flatMap_nothing fun position _ => shows_tickMarks _ position
  have legend : Shows (legendMarks report) [] :=
    .flatMap_nothing fun item _ => shows_entryMarks item.1 item.2
  have inner := ((((shows_titleMarks report).append ticks).append
    (shows_groupsMarks (Layout.ofReport report) missing report)).append
      (shows_axesMarks report)).append legend
  simp only [List.nil_append, List.append_nil] at inner
  exact shows_element (by simp +decide [drawingAttributes]) (by decide) inner

/-! ## Places in order -/

/-- The order in which places are drawn: by category, and in a category by column. -/
def Place.Before (first second : Place) : Prop :=
  first.group < second.group ∨ first.group = second.group ∧ first.position < second.position

/-- Positions are counted up. -/
theorem pairwise_zipIdx {α : Type} (items : List α) :
    items.zipIdx.Pairwise fun first second => first.2 < second.2 := by
  have counted : (items.zipIdx.map Prod.snd).Pairwise (· < ·) := by
    rw [List.zipIdx_map_snd]
    exact List.pairwise_lt_range'
  exact List.pairwise_map.mp counted

theorem pairwise_placesOf (columns : List ReportColumn) (group : Nat) (category : String) :
    (placesOf columns group category).Pairwise Place.Before := by
  rw [placesOf, List.pairwise_map]
  exact (pairwise_zipIdx columns).imp fun earlier => .inr ⟨rfl, earlier⟩

/-- The places of a chart are in order, so none of them comes twice. -/
theorem pairwise_places (report : Report) : report.places.Pairwise Place.Before := by
  rw [Report.places, List.pairwise_flatMap]
  refine ⟨fun item _ => pairwise_placesOf report.columns item.2 item.1, ?_⟩
  refine (pairwise_zipIdx report.categories).imp ?_
  intro first second earlier place member other among
  obtain ⟨_, -, rfl⟩ := List.mem_map.mp member
  obtain ⟨_, -, rfl⟩ := List.mem_map.mp among
  exact .inl earlier

end LoadSweep.Chart

namespace LoadSweep

open Chart Markup Text

/-- The places that are to have a bar: those with a value, and all of them if no gaps are left.
Each comes once, by category and then by column, and its title shows what stands in the tables. -/
structure Report.Draws (report : Report) (missing : MissingPolicy) (places : List Place) :
    Prop where
  ordered : places.Pairwise Place.Before
  mem_iff : ∀ place, place ∈ places ↔
    report.categories[place.group]? = some place.category ∧
      report.columns[place.position]? = some place.column ∧
      (place.value?.isSome ∨ missing = .flat)
  shown : ∀ place ∈ places, ∃ text,
    (report.rows[place.group]?).bind (·[place.position + 1]?) = some text ∧
      place.title report.metric = s!"{place.column.endpoint} @ {place.category}: {text}" ∧
      (text = "n/a" ↔ place.value? = none)

theorem Report.draws_drawn (report : Report) (missing : MissingPolicy) :
    report.Draws missing (report.drawn missing) where
  ordered := (pairwise_places report).filter _
  mem_iff := by
    intro place
    rw [drawn, List.mem_filter, mem_places, Place.isDrawn, Bool.or_eq_true, beq_iff_eq, and_assoc]
  shown := by
    intro place member
    obtain ⟨labelled, held⟩ := mem_places.mp (List.mem_of_mem_filter member)
    refine ⟨cell report.metric place.value?, ?_, rfl, cell_eq_missing_iff _ _⟩
    rw [getElem?_rows, labelled, Option.map_some, Option.bind_some, rowCells,
      List.getElem?_cons_succ, List.getElem?_map, held]
    rfl

/-- **A chart draws one bar for each place that is to have one**, in order, with the colour of its
column and its title, and writes the class of bars nowhere else. -/
theorem chart_draws_one_bar_for_each_place (report : Report) (missing : MissingPolicy) :
    report.Draws missing (report.drawn missing) ∧
      bars (report.chart missing) = (report.drawn missing).map (Place.bar report.metric) ∧
      occurrences "class=\x22bar\x22".toList (report.chart missing).toList =
        (report.drawn missing).length := by
  have marked := chart_marked report missing
  have shows := shows_chartMarks report missing
  have read : bars (report.chart missing) = (report.drawn missing).map (Place.bar report.metric) := by
    rw [bars, marked.read, shows.barsOf_eq]
  refine ⟨report.draws_drawn missing, read, ?_⟩
  have text : "class=\x22bar\x22".toList = classText "bar" := rfl
  rw [text, marked.occurrences_class isClass_bar shows.telling, ← length_barsOf, shows.barsOf_eq,
    List.length_map]

end LoadSweep
