import LoadSweep.Proofs.Report.ChartBars
import LoadSweep.Proofs.Report.PageContents

/-!
# Lists of comparisons

A page has one list for each comparison, with an item for each point.  A list is read with the
heading before it, and an item with the class and the text of the span in it.  Marks show the same
lists whatever stands around them (`ShowsLists`), so the lists of a page are those of its parts, and
only comparisons have one (`showsLists_pageMarks`).

The classes of verdicts are words of the style sheet too, and a name may be anything; but nothing
between tags has a quote, so the text of such a class stands on a page as often as items have it
(`ShowsLists.occurrences_class`).
-/

namespace LoadSweep.Page

open Markup Chart Text

set_option autoImplicit false

/-! ## Reading lists -/

/-- An item of a list as it is read: its text, and the class and the text of the span in it. -/
structure Item where
  label : String
  styled : Option String
  change : Option String
  deriving Repr, DecidableEq

/-- A list as it is read: the heading before it, and its items. -/
structure ItemList where
  heading : String
  items : List Item
  deriving Repr, DecidableEq

/-- The tag of a span that comes first, and its text. -/
def spanFirst? : List Mark → Option Mark
  | mark :: _ => if tagKind mark.tag = .opening "span" then some mark else none
  | [] => none

/-- The items up to the end of a list. -/
def itemsOf : List Mark → List Item
  | [] => []
  | mark :: others =>
    if tagKind mark.tag = .closing "ul" then []
    else if tagKind mark.tag = .opening "li" then
      { label := unescaped mark.text
        styled := (spanFirst? others).bind fun span => attribute? "class" span.tag
        change := (spanFirst? others).map fun span => unescaped span.text } :: itemsOf others
    else itemsOf others

/-- The lists behind a heading. -/
def listsOf (heading : String) : List Mark → List ItemList
  | [] => []
  | mark :: others =>
    if tagKind mark.tag = .opening "h2" then listsOf (unescaped mark.text) others
    else if tagKind mark.tag = .opening "ul" then
      ⟨heading, itemsOf others⟩ :: listsOf heading others
    else listsOf heading others

/-- The lists of a document. -/
def lists (document : String) : List ItemList :=
  listsOf "" (marks document)

/-! ## Marks and their lists -/

/-- The classes of verdicts. -/
def verdictClasses : List String :=
  ["better", "worse"]

theorem isClass_of_verdict {cls : String} (member : cls ∈ verdictClasses) : IsClass cls := by
  simp only [verdictClasses, List.mem_cons, List.not_mem_nil, or_false] at member
  rcases member with rfl | rfl <;> decide

/-- The items of some lists that have a class. -/
def styledItems (cls : String) (shown : List ItemList) : Nat :=
  (shown.flatMap ItemList.items).countP fun item => item.styled = some cls

/-- Marks that show these lists, whatever is around them, and the classes of verdicts as often as
the items of the lists have them. -/
structure ShowsLists (marks : List Mark) (shown : List ItemList) : Prop where
  read : ∀ heading rest, ∃ later, listsOf heading (marks ++ rest) = shown ++ listsOf later rest
  telling : ∀ cls ∈ verdictClasses, TellingMarks cls marks
  styled : ∀ cls ∈ verdictClasses,
    (marks.countP fun mark => attribute? "class" mark.tag = some cls) = styledItems cls shown

namespace ShowsLists

variable {marks others : List Mark} {shown more : List ItemList}

theorem nil : ShowsLists [] [] :=
  ⟨fun heading _ => ⟨heading, rfl⟩, fun _ _ => nofun, fun _ _ => rfl⟩

theorem append (first : ShowsLists marks shown) (second : ShowsLists others more) :
    ShowsLists (marks ++ others) (shown ++ more) where
  read := by
    intro heading rest
    obtain ⟨between, before⟩ := first.read heading (others ++ rest)
    obtain ⟨later, behind⟩ := second.read between rest
    exact ⟨later, by rw [List.append_assoc, before, behind, List.append_assoc]⟩
  telling := fun cls member => (first.telling cls member).append (second.telling cls member)
  styled := by
    intro cls member
    rw [List.countP_append, first.styled cls member, second.styled cls member, styledItems,
      styledItems, styledItems, List.flatMap_append, List.countP_append]

theorem flatMap {α : Type} {marksOf : α → List Mark} {listsOf : α → List ItemList} {items : List α}
    (each : ∀ item ∈ items, ShowsLists (marksOf item) (listsOf item)) :
    ShowsLists (items.flatMap marksOf) (items.flatMap listsOf) := by
  induction items with
  | nil => exact nil
  | cons item items ih =>
    obtain ⟨here, others⟩ := List.forall_mem_cons.mp each
    rw [List.flatMap_cons, List.flatMap_cons]
    exact here.append (ih others)

/-- Items that show no list show none together. -/
theorem flatMap_nothing {α : Type} {marksOf : α → List Mark} {items : List α}
    (each : ∀ item ∈ items, ShowsLists (marksOf item) []) :
    ShowsLists (items.flatMap marksOf) [] := by
  have shows : ShowsLists (items.flatMap marksOf) (items.flatMap fun _ => []) := .flatMap each
  rwa [LoadSweep.flatMap_nothing] at shows

theorem listsOf_eq (shows : ShowsLists marks shown) (heading : String) :
    listsOf heading marks = shown := by
  obtain ⟨later, whole⟩ := shows.read heading []
  rwa [List.append_nil, listsOf, List.append_nil] at whole

/-- **The class of a verdict stands in a document as often as items of its lists have it.** -/
theorem occurrences_class {document : String} (shows : ShowsLists marks shown)
    (marked : Marked document marks) {cls : String} (member : cls ∈ verdictClasses) :
    occurrences (classText cls) document.toList = styledItems cls shown := by
  rw [marked.occurrences_class (isClass_of_verdict member) (shows.telling cls member),
    shows.styled cls member]

end ShowsLists

/-- A mark that belongs to no list: it opens none and gives no class of a verdict. -/
structure Quiet (mark : Mark) : Prop where
  unlisted : tagKind mark.tag ≠ .opening "ul"
  telling : ∀ cls ∈ verdictClasses, Tells cls mark
  unstyled : ∀ cls ∈ verdictClasses, attribute? "class" mark.tag ≠ some cls

/-- Marks that open no list change at most the heading of the lists behind them. -/
theorem listsOf_unlisted {marks : List Mark}
    (unlisted : ∀ mark ∈ marks, tagKind mark.tag ≠ .opening "ul") (heading : String)
    (rest : List Mark) : ∃ later, listsOf heading (marks ++ rest) = listsOf later rest := by
  induction marks generalizing heading with
  | nil => exact ⟨heading, rfl⟩
  | cons mark marks ih =>
    obtain ⟨here, others⟩ := List.forall_mem_cons.mp unlisted
    rw [List.cons_append, listsOf, if_neg here]
    split
    · exact ih others _
    · exact ih others _

theorem showsLists_of_quiet {marks : List Mark} (quiet : ∀ mark ∈ marks, Quiet mark) :
    ShowsLists marks [] where
  read := listsOf_unlisted fun mark member => (quiet mark member).unlisted
  telling := fun cls among mark member => (quiet mark member).telling cls among
  styled := by
    intro cls among
    refine List.countP_eq_zero.mpr fun mark member => ?_
    simpa using (quiet mark member).unstyled cls among

/-! ## Elements beside lists -/

/-- What an element without a class of a verdict has around its text. -/
structure Unstyled (attributes : List (String × String)) (after : String) : Prop where
  legible : Legible attributes
  unlike : ∀ cls ∈ verdictClasses, ("class", cls) ∉ attributes
  unquotedAfter : Unquoted after

@[simp] theorem unstyled_iff (attributes : List (String × String)) (after : String) :
    Unstyled attributes after ↔ Legible attributes ∧
      (∀ cls ∈ verdictClasses, ("class", cls) ∉ attributes) ∧ Unquoted after :=
  ⟨fun ⟨legible, unlike, unquotedAfter⟩ => ⟨legible, unlike, unquotedAfter⟩,
    fun ⟨legible, unlike, unquotedAfter⟩ => ⟨legible, unlike, unquotedAfter⟩⟩

section Elements

variable {name : ElementName} {attributes : List (String × String)} {text after : String}
  {inner : List Mark} {shown : List ItemList}

/-- No list is opened by a tag of another name. -/
theorem unlisted_opening (other : name ≠ .ul) (attributes : List (String × String)) :
    tagKind (name.shown ++ attributesText attributes) ≠ .opening "ul" := by
  have unlike : name.shown ≠ "ul" := by
    revert other
    cases name <;> decide
  rw [tagKind_opening]
  exact fun same => unlike (TagKind.opening.inj same)

theorem unlisted_closing (name : ElementName) : tagKind ("/" ++ name.shown) ≠ .opening "ul" := by
  rw [tagKind_closing]
  intro same
  cases same

/-- The tags of an element that is no list belong to none. -/
theorem quiet_leaf (other : name ≠ .ul) (unstyled : Unstyled attributes after)
    (unquoted : Unquoted text) : ∀ mark ∈ leaf name attributes text after, Quiet mark := by
  have telling {cls : String} (member : cls ∈ verdictClasses) :
      TellingMarks cls (leaf name attributes text after) :=
    tells_leaf (isClass_of_verdict member) unstyled.legible unquoted unstyled.unquotedAfter
  intro mark member
  refine ⟨?_, fun cls among => telling among mark member, fun cls among => ?_⟩
  all_goals
    rw [leaf, element, List.nil_append, List.mem_cons, List.mem_singleton] at member
    rcases member with rfl | rfl
  · exact unlisted_opening other attributes
  · exact unlisted_closing name
  · rw [attribute?, attributesOf_opening unstyled.legible]
    exact mt (unstyled.legible.lookup_iff ..).mp (unstyled.unlike cls among)
  · rw [attribute?, attributesOf_closing]
    intro given
    cases given

theorem showsLists_leaf (other : name ≠ .ul) (unstyled : Unstyled attributes after)
    (unquoted : Unquoted text) : ShowsLists (leaf name attributes text after) [] :=
  showsLists_of_quiet (quiet_leaf other unstyled unquoted)

/-- An element that is no list shows the lists in it. -/
theorem showsLists_element (other : name ≠ .ul) (unstyled : Unstyled attributes after)
    (unquoted : Unquoted text) (shows : ShowsLists inner shown) :
    ShowsLists (element name attributes text inner after) shown := by
  have quiet := quiet_leaf other unstyled unquoted
  obtain ⟨opening, closing⟩ := List.forall_mem_cons.mp quiet
  have whole := (showsLists_of_quiet (List.forall_mem_singleton.mpr opening)).append
    (shows.append (showsLists_of_quiet closing))
  rwa [List.nil_append, List.append_nil] at whole

theorem showsLists_single (unstyled : Unstyled attributes after) :
    ShowsLists (single name attributes after) [] := by
  refine showsLists_of_quiet (List.forall_mem_singleton.mpr ⟨?_, ?_, ?_⟩)
  · rw [tagKind_single]
    intro same
    cases same
  · intro cls among
    have telling : TellingMarks cls (single name attributes after) :=
      tells_single (isClass_of_verdict among) unstyled.legible unstyled.unquotedAfter
    exact telling _ List.mem_cons_self
  · intro cls among
    rw [attribute?, attributesOf_single unstyled.legible]
    exact mt (unstyled.legible.lookup_iff ..).mp (unstyled.unlike cls among)

end Elements

/-! ## Charts and tables -/

theorem showsLists_barMarks (layout : Layout) (missing : MissingPolicy) (metric : Metric)
    (place : Place) : ShowsLists (barMarks layout missing metric place) [] := by
  rw [barMarks]
  cases barHeight? layout.top missing place.value? with
  | none => exact .nil
  | some height =>
    have legible := legible_barAttributes layout place height
    have unlike : ∀ cls ∈ verdictClasses, ("class", cls) ∉ barAttributes layout place height := by
      simp +decide [barAttributes]
    exact showsLists_element (by decide) ⟨legible, unlike, by decide⟩ (by decide)
      (showsLists_leaf (by decide) (by simp +decide) (unquoted_titleText metric place))

theorem showsLists_groupsMarks (layout : Layout) (missing : MissingPolicy) (report : Report) :
    ShowsLists (groupsMarks layout missing report) [] := by
  apply ShowsLists.flatMap_nothing
  rintro ⟨category, group⟩ -
  have bars : ShowsLists ((placesOf report.columns group category).flatMap
      (barMarks layout missing report.metric)) [] :=
    .flatMap_nothing fun place _ => showsLists_barMarks layout missing report.metric place
  exact bars.append (showsLists_leaf (by decide) (by simp +decide) (unquoted_escape category))

/-- A chart has no lists. -/
theorem showsLists_chartMarks (report : Report) (missing : MissingPolicy) :
    ShowsLists (chartMarks report missing) [] := by
  have title : ShowsLists (titleMarks report) [] :=
    (showsLists_single (by simp +decide)).append
      (showsLists_leaf (by decide) (by simp +decide) (unquoted_escape _))
  have ticks : ShowsLists ((List.range (tickIntervals + 1)).flatMap
      (tickMarks (Layout.ofReport report).top)) [] :=
    .flatMap_nothing fun position _ => (showsLists_single (by simp +decide)).append
      (showsLists_leaf (by decide) (by simp +decide) (unquoted_of_numeric (numeric_tickText _)))
  have groups := showsLists_groupsMarks (Layout.ofReport report) missing report
  have axes : ShowsLists (axesMarks report) [] :=
    ((showsLists_single (by simp +decide)).append
      (showsLists_leaf (by decide) (by simp +decide) (unquoted_escape _))).append
        (showsLists_leaf (by decide) (by simp +decide [toString]) (unquoted_escape _))
  have legend : ShowsLists (legendMarks report) [] :=
    .flatMap_nothing fun item _ => (showsLists_single (by simp +decide)).append
      (showsLists_leaf (by decide) (by simp +decide) (unquoted_escape _))
  exact showsLists_element (by decide) (by simp +decide [drawingAttributes]) (by decide)
    ((((title.append ticks).append groups).append axes).append legend)

theorem unquoted_cell (metric : Metric) (value : Option Float) : Unquoted (cell metric value) :=
  unquoted_of_numeric (numeric_cell metric value)

/-- A table has no lists. -/
theorem showsLists_tableMarks (report : Report) : ShowsLists (tableMarks report) [] := by
  have leaf {name : ElementName} (other : name ≠ .ul) {text after : String}
      (unquoted : Unquoted text) (unquotedAfter : Unquoted after) :
      ShowsLists (leaf name [] text after) [] :=
    showsLists_leaf other (by simpa using unquotedAfter) unquoted
  have header : ShowsLists (headerMarks report) [] :=
    showsLists_element (by decide) (by simp +decide) (by decide)
      ((leaf (by decide) (unquoted_escape _) (by decide)).append
        (.flatMap_nothing fun column _ => leaf (by decide)
          (by simp +decide [columnText, toString]) (by decide)))
  have rows : ShowsLists (rowsMarks report) [] := by
    apply ShowsLists.flatMap_nothing
    rintro ⟨category, position⟩ -
    exact showsLists_element (by decide) (by simp +decide) (by decide)
      ((leaf (by decide) (unquoted_escape _) (by decide)).append
        (.flatMap_nothing fun column _ => leaf (by decide) (unquoted_cell _ _) (by decide)))
  exact (leaf (by decide) (unquoted_escape _) (by decide)).append
    (showsLists_element (by decide) (by simp +decide) (by decide) (header.append rows))

/-! ## Comparisons -/

/-- The item for a compared point. -/
def Item.ofPoint (axis : Axis) (point : PointComparison) : Item where
  label := s!"{axis.label} {point.category}: "
  styled := some (styleClass point.verdict)
  change := some (changeText point.change)

/-- The list for a comparison. -/
def ItemList.ofComparison (axis : Axis) (compared : Comparison) : ItemList where
  heading := Page.heading compared
  items := compared.points.map (Item.ofPoint axis)

section Comparisons

variable (axis : Axis) (point : PointComparison) (compared : Comparison)

theorem unquoted_axisLabel : Unquoted axis.label := by
  cases axis <;> decide

theorem unquoted_metricLabel (metric : Metric) : Unquoted metric.label := by
  cases metric <;> decide

/-- The text of an item as it is written. -/
def labelText : String :=
  s!"{axis.label} {escape point.category}: "

theorem unquoted_labelText : Unquoted (labelText axis point) := by
  simp +decide [labelText, toString, unquoted_axisLabel axis]

theorem denotes_labelText :
    Denotes (labelText axis point) s!"{axis.label} {point.category}: " := by
  have label : Denotes axis.label axis.label := by
    cases axis <;> exact denotes_self (by decide)
  exact ((label.append (denotes_self (by decide))).append (denotes_escape _)).append
    (denotes_self (by decide))

theorem legible_styled : Legible [("class", styleClass point.verdict)] := by
  have unquoted : Unquoted (styleClass point.verdict) := by
    cases point.verdict <;> decide
  simp +decide [unquoted]

theorem unquoted_changeText (change : Option Float) : Unquoted (changeText change) :=
  unquoted_of_numeric (numeric_changeText change)

/-- A tag that ends no list and opens no item is passed over. -/
theorem itemsOf_beside {mark : Mark} (goesOn : tagKind mark.tag ≠ .closing "ul")
    (within : tagKind mark.tag ≠ .opening "li") (rest : List Mark) :
    itemsOf (mark :: rest) = itemsOf rest := by
  rw [itemsOf, if_neg goesOn, if_neg within]

/-- The marks of an item are read as the item. -/
theorem itemsOf_itemMarks (rest : List Mark) :
    itemsOf (itemMarks axis point ++ rest) = Item.ofPoint axis point :: itemsOf rest := by
  have opensItem : tagKind (ElementName.li.shown ++ attributesText []) = .opening "li" :=
    tagKind_opening .li []
  have opensSpan : tagKind (ElementName.span.shown
      ++ attributesText [("class", styleClass point.verdict)]) = .opening "span" :=
    tagKind_opening .span _
  have given : attribute? "class" (ElementName.span.shown
      ++ attributesText [("class", styleClass point.verdict)]) =
      some (styleClass point.verdict) := by
    rw [attribute?, attributesOf_opening (legible_styled point), List.lookup_cons_self]
  have closed {name : ElementName} (other : name.shown ≠ "ul") (after : String)
      (rest : List Mark) : itemsOf (⟨"/" ++ name.shown, after⟩ :: rest) = itemsOf rest := by
    apply itemsOf_beside
    · rw [tagKind_closing]
      exact fun same => other (TagKind.closing.inj same)
    · rw [tagKind_closing]
      intro same
      cases same
  have behind : itemsOf (leaf .span [("class", styleClass point.verdict)]
      (changeText point.change) "" ++ [⟨"/" ++ ElementName.li.shown, "\n"⟩] ++ rest) =
      itemsOf rest := by
    rw [leaf, element, List.nil_append, List.append_assoc, List.cons_append,
      itemsOf_beside (by rw [opensSpan]; decide) (by rw [opensSpan]; decide), List.singleton_append,
      closed (by decide), List.singleton_append, closed (by decide)]
  rw [itemMarks, element, List.cons_append, itemsOf, if_neg (by rw [opensItem]; decide),
    if_pos opensItem, behind, leaf, element, List.cons_append, List.cons_append, spanFirst?,
    if_pos opensSpan, Option.bind_some, Option.map_some, given]
  have label : unescaped s!"{axis.label} {escape point.category}: " =
      s!"{axis.label} {point.category}: " := (denotes_labelText axis point).unescaped
  rw [label, (numeric_changeText point.change).denotes.unescaped]
  rfl

/-- The items of a list are read up to its end. -/
theorem itemsOf_points (points : List PointComparison) (rest : List Mark) :
    itemsOf (points.flatMap (itemMarks axis) ++ ⟨"/" ++ ElementName.ul.shown, "\n"⟩ :: rest) =
      points.map (Item.ofPoint axis) := by
  induction points with
  | nil =>
    rw [List.flatMap_nil, List.nil_append, itemsOf, if_pos (tagKind_closing .ul), List.map_nil]
  | cons point points ih =>
    rw [List.flatMap_cons, List.append_assoc, itemsOf_itemMarks, ih, List.map_cons]

/-- No list is opened in an item. -/
theorem unlisted_itemMarks : ∀ mark ∈ itemMarks axis point, tagKind mark.tag ≠ .opening "ul" := by
  simp only [itemMarks, leaf, element, List.nil_append, List.cons_append, List.forall_mem_cons]
  exact ⟨unlisted_opening (by decide) _, unlisted_opening (by decide) _, unlisted_closing .span,
    unlisted_closing .li, List.forall_mem_nil _⟩

/-- A heading is kept for the lists behind it. -/
theorem listsOf_headed (heading text after : String) (rest : List Mark) :
    listsOf heading (leaf .h2 [] text after ++ rest) = listsOf (unescaped text) rest := by
  have closing : tagKind ("/" ++ ElementName.h2.shown) = .closing "h2" := tagKind_closing .h2
  rw [leaf, element, List.cons_append, listsOf, if_pos (tagKind_opening .h2 []), List.nil_append,
    List.singleton_append, listsOf, if_neg (by rw [closing]; decide),
    if_neg (by rw [closing]; decide)]

/-- The marks of a comparison are read as its list. -/
theorem listsOf_comparisonMarks (heading : String) (rest : List Mark) :
    ∃ later, listsOf heading (comparisonMarks axis compared ++ rest) =
      [ItemList.ofComparison axis compared] ++ listsOf later rest := by
  have opening : tagKind (ElementName.ul.shown ++ attributesText []) = .opening "ul" :=
    tagKind_opening .ul []
  have unlisted : ∀ mark ∈ compared.points.flatMap (itemMarks axis)
      ++ [⟨"/" ++ ElementName.ul.shown, "\n"⟩], tagKind mark.tag ≠ .opening "ul" := by
    refine List.forall_mem_append.mpr
      ⟨fun mark member => ?_, List.forall_mem_singleton.mpr (unlisted_closing .ul)⟩
    obtain ⟨point, -, held⟩ := List.mem_flatMap.mp member
    exact unlisted_itemMarks axis point mark held
  obtain ⟨later, behind⟩ := listsOf_unlisted unlisted (Page.heading compared) rest
  refine ⟨later, ?_⟩
  rw [comparisonMarks, List.append_assoc, listsOf_headed, (denotes_headingText compared).unescaped,
    element, List.cons_append, listsOf, if_neg (by rw [opening]; decide), if_pos opening, behind,
    List.append_assoc, List.singleton_append, itemsOf_points]
  rfl

/-- An element adds its own class to those in it. -/
theorem countP_class_element {name : ElementName} {attributes : List (String × String)}
    (legible : Legible attributes) (cls text after : String) (inner : List Mark) :
    ((element name attributes text inner after).countP
        fun mark => attribute? "class" mark.tag = some cls) =
      (if attributes.lookup "class" = some cls then 1 else 0) +
        inner.countP fun mark => attribute? "class" mark.tag = some cls := by
  have opening : attribute? "class" (name.shown ++ attributesText attributes) =
      attributes.lookup "class" := by
    rw [attribute?, attributesOf_opening legible]
  have closing : attribute? "class" ("/" ++ name.shown) = none := by
    rw [attribute?, attributesOf_closing, List.lookup_nil]
  rw [element, List.countP_cons, List.countP_append, List.countP_singleton]
  simp only [opening, closing, decide_eq_true_eq, reduceCtorEq, if_false]
  omega

theorem countP_class_itemMarks (cls : String) :
    ((itemMarks axis point).countP fun mark => attribute? "class" mark.tag = some cls) =
      if styleClass point.verdict = cls then 1 else 0 := by
  rw [itemMarks, countP_class_element legible_nil, leaf,
    countP_class_element (legible_styled point), List.lookup_cons_self]
  simp

/-- Tags give a class in a list as often as items have it. -/
theorem countP_class_points (cls : String) (points : List PointComparison) :
    ((points.flatMap (itemMarks axis)).countP fun mark => attribute? "class" mark.tag = some cls) =
      (points.map (Item.ofPoint axis)).countP fun item => item.styled = some cls := by
  induction points with
  | nil => rfl
  | cons point points ih =>
    have styled : (Item.ofPoint axis point).styled = some (styleClass point.verdict) := rfl
    rw [List.flatMap_cons, List.countP_append, countP_class_itemMarks, ih, List.map_cons,
      List.countP_cons, styled, Nat.add_comm]
    simp only [decide_eq_true_eq, Option.some.injEq]

/-- A comparison shows its list. -/
theorem showsLists_comparisonMarks :
    ShowsLists (comparisonMarks axis compared) [ItemList.ofComparison axis compared] where
  read := listsOf_comparisonMarks axis compared
  telling := by
    intro cls member
    have isClass := isClass_of_verdict member
    have heading : Unquoted (headingText compared) := by
      simp +decide [headingText, toString, unquoted_metricLabel]
    have items : TellingMarks cls (compared.points.flatMap (itemMarks axis)) := by
      refine .flatMap fun point _ => tells_element isClass legible_nil
        (unquoted_labelText axis point) (by decide) ?_
      exact tells_leaf isClass (legible_styled point) (unquoted_changeText point.change) (by decide)
    exact (tells_leaf isClass legible_nil heading (by decide)).append
      (tells_element isClass legible_nil (by decide) (by decide) items)
  styled := by
    intro cls member
    rw [comparisonMarks, List.countP_append, leaf, countP_class_element legible_nil,
      countP_class_element legible_nil, List.lookup_nil, if_neg (Option.some_ne_none cls).symm,
      List.countP_nil,
      countP_class_points, styledItems, List.flatMap_singleton, ItemList.ofComparison]
    simp only [Nat.zero_add]

end Comparisons

/-! ## Pages -/

/-- A literal is unquoted if its characters are. -/
theorem unquoted_ofList {characters : List Char} (each : characters.all (· != '\x22')) :
    Unquoted (String.ofList characters) := by
  intro quoted
  rw [String.toList_ofList] at quoted
  simpa using List.all_eq_true.mp each _ quoted

theorem unquoted_style : Unquoted style := by
  unfold style
  repeat rw [unquoted_append_iff]
  and_intros <;> exact unquoted_ofList rfl

theorem unquoted_generatedText (series : Series) {timestamp : String}
    (unquoted : Unquoted timestamp) : Unquoted (generatedText series timestamp) := by
  have number (n : Nat) : Unquoted (toString n) := unquoted_of_numeric (numeric_toString n)
  simp only [generatedText_eq, unquoted_append_iff, unquoted, number, and_true]
  decide

/-- The head of a page has no lists. -/
theorem showsLists_headMarks (series : Series) : ShowsLists (headMarks series) [] := by
  have charset : ShowsLists [⟨"meta charset=\x22utf-8\x22", "\n"⟩] [] :=
    showsLists_of_quiet (List.forall_mem_singleton.mpr ⟨by decide, by decide, by decide⟩)
  have sheet : Unquoted ("\n" ++ style) :=
    (unquoted_append_iff _ _).mpr ⟨by decide, unquoted_style⟩
  exact showsLists_element (by decide) (by simp +decide) (by decide)
    (charset.append ((showsLists_leaf (by decide) (by simp +decide) (unquoted_escape _)).append
      (showsLists_leaf (by decide) (by simp +decide) sheet)))

/-- **A page shows the lists of its comparisons, in order, and no others.** -/
theorem showsLists_pageMarks (series : Series) (missing : MissingPolicy) {timestamp : String}
    (unquoted : Unquoted timestamp) (reports : List Report) (comparisons : List Comparison) :
    ShowsLists (pageMarks series missing timestamp reports comparisons)
      (comparisons.map (ItemList.ofComparison series.sweep.axis)) := by
  have declaration : ShowsLists [⟨"!DOCTYPE html", "\n"⟩] [] :=
    showsLists_of_quiet (List.forall_mem_singleton.mpr ⟨by decide, by decide, by decide⟩)
  have title : ShowsLists (leaf .h1 [] (escape series.sweep.title) "\n") [] :=
    showsLists_leaf (by decide) (by simp +decide) (unquoted_escape _)
  have generated : ShowsLists (leaf .p [] (generatedText series timestamp) "\n") [] :=
    showsLists_leaf (by decide) (by simp +decide) (unquoted_generatedText series unquoted)
  have charts : ShowsLists (reports.flatMap fun report => chartMarks report missing) [] :=
    .flatMap_nothing fun report _ => showsLists_chartMarks report missing
  have drawn : ShowsLists (element .div [("class", "charts")] "\n" _ "\n") [] :=
    showsLists_element (by decide) (by simp +decide) (by decide) charts
  have tables : ShowsLists (reports.flatMap tableMarks) [] :=
    .flatMap_nothing fun report _ => showsLists_tableMarks report
  have compared : ShowsLists (comparisons.flatMap (comparisonMarks series.sweep.axis))
      (comparisons.flatMap fun compared => [ItemList.ofComparison series.sweep.axis compared]) :=
    .flatMap fun comparison _ => showsLists_comparisonMarks series.sweep.axis comparison
  have inner := (((title.append generated).append drawn).append tables).append compared
  have body : ShowsLists
      (element .body [] "\n" (bodyMarks series missing timestamp reports comparisons) "\n") _ :=
    showsLists_element (by decide) (by simp +decide) (by decide) inner
  have html : ShowsLists (element .html [] "\n" _ "\n") _ :=
    showsLists_element (by decide) (by simp +decide) (by decide)
      ((showsLists_headMarks series).append body)
  rw [List.map_eq_flatMap]
  exact declaration.append html

end LoadSweep.Page
