import LoadSweep.Proofs.Report.Cells
import LoadSweep.Proofs.Text.Words
import LoadSweep.Report.Table
import Mathlib.Data.List.Forall2

/-!
# Tables are read back

The last lines of a table are its rows, and the cells of a row stand between bars, with blanks
around them.  If the labels of the rows are numeric, as those of points are, then the rows of a
plain table (`plainTable_read`) and of a Markdown table (`markdownTable_read`) are read back from
the text, whatever the title and the names of the columns contain.
-/

namespace LoadSweep

open Text

set_option autoImplicit false

/-! ## Reading lines and cells -/

/-- The last lines of a text whose lines all end with a line feed. -/
def lastLines (count : Nat) (text : String) : List (List Char) :=
  let all := (lines text.toList).dropLast
  all.drop (all.length - count)

/-- The texts between the bars of a line, without the blanks around them. -/
def cellsOf (line : List Char) : List String :=
  (pieces (· == '|') line).map fun piece => String.ofList (trim piece)

/-- The texts between the bars of a line that begins and ends with a bar. -/
def innerCellsOf (line : List Char) : List String :=
  (cellsOf line).tail.dropLast

/-- Lines that are written one after the other, each with its line feed, are read back. -/
theorem lines_join {body : List String} (unbroken : ∀ line ∈ body, '\n' ∉ line.toList) :
    lines (String.join (body.map (· ++ "\n"))).toList = body.map String.toList ++ [[]] := by
  induction body with
  | nil => rfl
  | cons line body ih =>
    obtain ⟨here, others⟩ := List.forall_mem_cons.mp unbroken
    have whole : ∀ c ∈ line.toList, (c == '\n') = false := by
      intro c member
      exact beq_false_of_ne fun same => here (same ▸ member)
    have unfolded : (String.join ((line :: body).map (· ++ "\n"))).toList =
        line.toList ++ '\n' :: (String.join (body.map (· ++ "\n"))).toList := by
      simp
    rw [lines, unfolded, pieces_append_cut rfl, pieces_uncut whole]
    exact congrArg (line.toList :: ·) (ih others)

/-- Complete lines after a line feed are the last lines. -/
theorem lastLines_append {before : String} {body : List String}
    (unbroken : ∀ line ∈ body, '\n' ∉ line.toList) {text : String}
    (written : text = before ++ "\n" ++ String.join (body.map (· ++ "\n"))) :
    lastLines body.length text = body.map String.toList := by
  have all : (lines text.toList).dropLast = lines before.toList ++ body.map String.toList := by
    have split : text.toList =
        before.toList ++ '\n' :: (String.join (body.map (· ++ "\n"))).toList := by
      rw [written, String.toList_append, String.toList_append, List.append_assoc]
      rfl
    have cut : lines text.toList = (lines before.toList ++ body.map String.toList) ++ [[]] := by
      rw [split, lines, pieces_append_cut rfl, List.append_assoc, ← lines_join unbroken]
      rfl
    rw [cut, List.dropLast_concat]
  have count : (lines before.toList ++ body.map String.toList).length - body.length =
      (lines before.toList).length := by
    rw [List.length_append, List.length_map, Nat.add_sub_cancel]
  rw [lastLines, all, count, List.drop_left]

/-- A part of a line shows a cell with blanks in front of it. -/
def Fills (part cell : String) : Prop :=
  ∃ before, (∀ c ∈ before, c = ' ') ∧ part.toList = before ++ cell.toList

theorem fills_padStart (width : Nat) (cell : String) : Fills (padStart width cell) cell := by
  refine ⟨List.replicate (width - cell.length) ' ', ?_, ?_⟩
  · intro c member
    exact (List.mem_replicate.mp member).2
  · rw [padStart, String.toList_append, filling, String.toList_ofList]

/-- A part has no other characters than blanks and those of its cell. -/
theorem Fills.not_mem {part cell : String} (fills : Fills part cell) {c : Char} (other : c ≠ ' ')
    (absent : c ∉ cell.toList) : c ∉ part.toList := by
  obtain ⟨before, blank, split⟩ := fills
  rw [split, List.mem_append, not_or]
  exact ⟨fun member => other (blank c member), absent⟩

/-- A numeric text has no blanks. -/
theorem Numeric.solid {text : String} (numeric : Numeric text) :
    ∀ c ∈ text.toList, isBlank c = false := by
  intro c member
  rcases Bool.or_eq_true_iff.mp (numeric c member) with digit | other
  · exact not_blank_of_isDigit digit
  · have each : "+-.NaNinf/%".toList.all fun c => !isBlank c := by decide
    simp only [List.all_eq_true, Bool.not_eq_true'] at each
    exact each c (List.contains_iff_mem.mp other)

/-- A bar separates the cells before it from those after it. -/
theorem cellsOf_append_bar (before after : List Char) :
    cellsOf (before ++ '|' :: after) = cellsOf before ++ cellsOf after := by
  rw [cellsOf, pieces_append_cut rfl, List.map_append]
  rfl

/-- A part with blanks around it is trimmed to its cell. -/
theorem Fills.trim_eq {part cell : String} (fills : Fills part cell) (numeric : Numeric cell)
    {lead tail : List Char} (leading : ∀ c ∈ lead, c = ' ') (trailing : ∀ c ∈ tail, c = ' ') :
    trim (lead ++ part.toList ++ tail) = cell.toList := by
  obtain ⟨before, blank, split⟩ := fills
  have blanks {added : List Char} (each : ∀ c ∈ added, c = ' ') :
      ∀ c ∈ added, isBlank c = true := by
    intro c member
    rw [each c member]
    rfl
  have around : ∀ c ∈ lead ++ before, isBlank c = true :=
    List.forall_mem_append.mpr ⟨blanks leading, blanks blank⟩
  rw [split, ← List.append_assoc lead before,
    trim_padded around numeric.solid (blanks trailing)]

/-- A part with blanks around it is one piece of its line, and shows its cell. -/
theorem cellsOf_part {part cell : String} (fills : Fills part cell) (numeric : Numeric cell)
    {lead tail : List Char} (leading : ∀ c ∈ lead, c = ' ') (trailing : ∀ c ∈ tail, c = ' ') :
    cellsOf (lead ++ part.toList ++ tail) = [cell] := by
  have shown : '|' ∉ part.toList := fills.not_mem (by decide) (numeric.not_mem (by decide))
  have spaces {added : List Char} (each : ∀ c ∈ added, c = ' ') : '|' ∉ added := by
    intro member
    cases each '|' member
  have uncut : ∀ c ∈ lead ++ part.toList ++ tail, (c == '|') = false := by
    intro c member
    refine beq_false_of_ne ?_
    rintro rfl
    simp [shown, spaces leading, spaces trailing] at member
  rw [cellsOf, pieces_uncut uncut, List.map_singleton, fills.trim_eq numeric leading trailing,
    String.ofList_toList]

/-- The characters of joined texts. -/
theorem mem_joined {separator : String} {texts : List String} {c : Char}
    (member : c ∈ (joined separator texts).toList) :
    c ∈ separator.toList ∨ ∃ text ∈ texts, c ∈ text.toList := by
  induction texts with
  | nil => cases member
  | cons text texts ih =>
    cases texts with
    | nil =>
      rw [joined, String.intercalate_singleton] at member
      exact .inr ⟨text, List.mem_cons_self, member⟩
    | cons next texts =>
      rw [joined, String.intercalate_cons_cons, String.toList_append, String.toList_append,
        List.mem_append, List.mem_append] at member
      rcases member with (here | between) | later
      · exact .inr ⟨text, List.mem_cons_self, here⟩
      · exact .inl between
      · rcases ih later with between | ⟨other, among, held⟩
        · exact .inl between
        · exact .inr ⟨other, List.mem_cons_of_mem _ among, held⟩

theorem unbroken_of_fills {part cell : String} (fills : Fills part cell)
    (unbroken : '\n' ∉ cell.toList) : '\n' ∉ part.toList :=
  fills.not_mem (by decide) unbroken

/-- Parts that show cells without a line feed have none. -/
theorem unbroken_parts {shows : String → String → Prop}
    (keeps : ∀ {part cell : String}, shows part cell → '\n' ∉ cell.toList → '\n' ∉ part.toList)
    {parts cells : List String} (shown : List.Forall₂ shows parts cells)
    (unbroken : ∀ cell ∈ cells, '\n' ∉ cell.toList) : ∀ part ∈ parts, '\n' ∉ part.toList := by
  induction shown with
  | nil => exact nofun
  | cons first others ih =>
    obtain ⟨here, rest⟩ := List.forall_mem_cons.mp unbroken
    exact List.forall_mem_cons.mpr ⟨keeps first here, ih rest⟩

theorem unbroken_joined {separator : String} (between : '\n' ∉ separator.toList)
    {parts : List String} (each : ∀ part ∈ parts, '\n' ∉ part.toList) :
    '\n' ∉ (joined separator parts).toList := by
  intro member
  rcases mem_joined member with held | ⟨part, among, held⟩
  · exact between held
  · exact each part among held

/-- Parts joined with bars are read as the cells that they show. -/
theorem cellsOf_joined {parts cells : List String} (fills : List.Forall₂ Fills parts cells)
    (numeric : ∀ cell ∈ cells, Numeric cell) (some : cells ≠ []) {lead tail : List Char}
    (leading : ∀ c ∈ lead, c = ' ') (trailing : ∀ c ∈ tail, c = ' ') :
    cellsOf (lead ++ (joined " | " parts).toList ++ tail) = cells := by
  induction fills generalizing lead with
  | nil => exact absurd rfl some
  | @cons part cell parts cells first others ih =>
    obtain ⟨here, rest⟩ := List.forall_mem_cons.mp numeric
    cases others with
    | nil =>
      rw [joined, String.intercalate_singleton]
      exact cellsOf_part first here leading trailing
    | @cons second other parts cells fills others =>
      have split : lead ++ (joined " | " (part :: second :: parts)).toList ++ tail =
          (lead ++ part.toList ++ [' ']) ++ '|' ::
            ([' '] ++ (joined " | " (second :: parts)).toList ++ tail) := by
        rw [joined, String.intercalate_cons_cons]
        simp [joined]
      have blank : ∀ c ∈ [' '], c = ' ' := fun _ => List.mem_singleton.mp
      have cut : cellsOf (lead ++ (joined " | " (part :: second :: parts)).toList ++ tail) =
          cellsOf (lead ++ part.toList ++ [' ']) ++
            cellsOf ([' '] ++ (joined " | " (second :: parts)).toList ++ tail) := by
        rw [split, cellsOf_append_bar]
      rw [cut, cellsOf_part first here leading blank, ih rest nofun blank]
      rfl

namespace Report

theorem rowsFrom_eq (report : Report) (position : Nat) (categories : List String) :
    report.rowsFrom position categories =
      (categories.zipIdx position).map fun (category, place) => report.rowCells place category := by
  induction categories generalizing position with
  | nil => rfl
  | cons category categories ih => rw [rowsFrom, ih, List.zipIdx_cons, List.map_cons]

theorem rows_eq (report : Report) :
    report.rows = report.categories.zipIdx.map fun (category, position) =>
      report.rowCells position category :=
  report.rowsFrom_eq 0 report.categories

/-! ## Rows of a table -/

theorem length_rows (report : Report) : report.rows.length = report.categories.length := by
  rw [rows_eq, List.length_map, List.length_zipIdx]

theorem getElem?_rows (report : Report) (position : Nat) :
    report.rows[position]? = (report.categories[position]?).map (report.rowCells position) := by
  rw [rows_eq, List.getElem?_map, List.getElem?_zipIdx, Option.map_map, Nat.zero_add]
  rfl

/-- A row has a label and a cell for each column. -/
theorem length_of_mem_rows {report : Report} {row : List String} (member : row ∈ report.rows) :
    row.length = report.columns.length + 1 := by
  rw [rows_eq] at member
  obtain ⟨⟨category, position⟩, -, rfl⟩ := List.mem_map.mp member
  exact congrArg (· + 1) (List.length_map ..)

/-- What holds of the labels and of every shown value holds of all cells. -/
theorem forall_mem_row {report : Report} {good : String → Prop}
    (labels : ∀ category ∈ report.categories, good category)
    (values : ∀ value, good (cell report.metric value)) {row : List String}
    (member : row ∈ report.rows) : ∀ text ∈ row, good text := by
  rw [rows_eq] at member
  obtain ⟨⟨category, position⟩, held, rfl⟩ := List.mem_map.mp member
  have label := labels category (List.fst_mem_of_mem_zipIdx held)
  refine List.forall_mem_cons.mpr ⟨label, ?_⟩
  intro shown among
  obtain ⟨column, -, rfl⟩ := List.mem_map.mp among
  exact values _

/-- The cells of rows with numeric labels are numeric. -/
theorem numeric_of_mem_rows {report : Report}
    (labels : ∀ category ∈ report.categories, Numeric category) {row : List String}
    (member : row ∈ report.rows) : ∀ cell ∈ row, Numeric cell :=
  forall_mem_row labels (numeric_cell _) member

theorem unbroken_of_numeric {report : Report}
    (labels : ∀ category ∈ report.categories, Numeric category) :
    ∀ category ∈ report.categories, '\n' ∉ category.toList :=
  fun category held => (labels category held).not_mem (by decide)

/-- The cells of rows have no line feed if the labels have none. -/
theorem unbroken_of_mem_rows {report : Report}
    (labels : ∀ category ∈ report.categories, '\n' ∉ category.toList) {row : List String}
    (member : row ∈ report.rows) : ∀ cell ∈ row, '\n' ∉ cell.toList :=
  forall_mem_row labels (fun value => (numeric_cell _ value).not_mem (by decide)) member

theorem ne_nil_of_mem_rows {report : Report} {row : List String} (member : row ∈ report.rows) :
    row ≠ [] := by
  rintro rfl
  cases length_of_mem_rows member

/-! ## Plain tables -/

theorem length_widen (widths : List Nat) (texts : List String) :
    (widen widths texts).length = widths.length := by
  induction widths generalizing texts with
  | nil => rfl
  | cons width widths ih =>
    cases texts with
    | nil => rfl
    | cons text texts => rw [widen, List.length_cons, ih, List.length_cons]

theorem length_widths (report : Report) : report.widths.length = report.columns.length + 1 := by
  have kept (rows : List (List String)) (widths : List Nat) :
      (rows.foldl widen widths).length = widths.length := by
    induction rows generalizing widths with
    | nil => rfl
    | cons row rows ih => rw [List.foldl_cons, ih, length_widen]
  rw [widths, kept, List.length_map, headerCells, List.length_cons, List.length_map]

/-- The parts of a line are its cells, each filled up in the same way. -/
theorem forall₂_zipWith {shows : String → String → Prop} {pad : Nat → String → String}
    (each : ∀ width cell, shows (pad width cell) cell) {widths : List Nat} {cells : List String}
    (wide : cells.length ≤ widths.length) :
    List.Forall₂ shows (List.zipWith pad widths cells) cells := by
  induction cells generalizing widths with
  | nil =>
    rw [List.zipWith_nil_right]
    exact .nil
  | cons cell cells ih =>
    cases widths with
    | nil => cases wide
    | cons width widths => exact .cons (each width cell) (ih (Nat.le_of_succ_le_succ wide))

/-- What stands before the rows of a plain table. -/
def plainHead (report : Report) : String :=
  report.title ++ "\n"
    ++ String.ofList (trimEnd
      (plainLine " | " (List.zipWith padEnd report.widths report.headerCells)).toList) ++ "\n"
    ++ plainLine "-+-" (report.widths.map fun width => String.ofList (List.replicate width '-'))

/-- A row of a plain table. -/
def plainRow (report : Report) (row : List String) : String :=
  plainLine " | " (List.zipWith padStart report.widths row)

theorem plainTable_eq (report : Report) :
    report.plainTable =
      report.plainHead ++ "\n"
        ++ String.join ((report.rows.map report.plainRow).map (· ++ "\n")) := by
  rw [← String.toList_inj]
  simp [plainTable, plainHead, plainRow, List.map_map, Function.comp_def]

/-- **The rows of a plain table are read back.** -/
theorem plainTable_read {report : Report}
    (labels : ∀ category ∈ report.categories, Numeric category) :
    (lastLines report.rows.length report.plainTable).map cellsOf = report.rows := by
  have fills : ∀ row ∈ report.rows,
      List.Forall₂ Fills (List.zipWith padStart report.widths row) row := by
    intro row member
    exact forall₂_zipWith fills_padStart
      (Nat.le_of_eq ((length_of_mem_rows member).trans report.length_widths.symm))
  have unbroken : ∀ line ∈ report.rows.map report.plainRow, '\n' ∉ line.toList := by
    intro line member
    obtain ⟨row, held, rfl⟩ := List.mem_map.mp member
    exact unbroken_joined (by decide)
      (unbroken_parts unbroken_of_fills (fills row held)
        (unbroken_of_mem_rows (unbroken_of_numeric labels) held))
  have last := lastLines_append unbroken report.plainTable_eq
  have read : ∀ row ∈ report.rows, cellsOf (report.plainRow row).toList = row := by
    intro row member
    have whole := cellsOf_joined (fills row member) (numeric_of_mem_rows labels member)
      (ne_nil_of_mem_rows member) (List.forall_mem_nil (· = ' ')) (List.forall_mem_nil (· = ' '))
    rwa [List.nil_append, List.append_nil] at whole
  rw [List.length_map] at last
  rw [last, List.map_map, List.map_map]
  exact (List.map_congr_left read).trans (List.map_id _)

/-! ## Markdown tables -/

/-- What stands before the rows of a Markdown table. -/
def markdownHead (report : Report) : String :=
  s!"### {report.title}\n\n" ++ markdownLine report.headerCells
    ++ "|" ++ joined "|" (report.headerCells.map fun _ => "---:") ++ "|"

/-- A row of a Markdown table, without its line feed. -/
def markdownRow (row : List String) : String :=
  "| " ++ joined " | " row ++ " |"

theorem markdownLine_eq (row : List String) : markdownLine row = markdownRow row ++ "\n" := by
  rw [← String.toList_inj]
  simp [markdownLine, markdownRow]

theorem markdownTable_eq (report : Report) :
    report.markdownTable =
      report.markdownHead ++ "\n"
        ++ String.join ((report.rows.map markdownRow).map (· ++ "\n")) := by
  have lines : report.rows.map markdownLine = (report.rows.map markdownRow).map (· ++ "\n") := by
    rw [List.map_map]
    exact List.map_congr_left fun row _ => markdownLine_eq row
  rw [markdownTable, lines, markdownHead, ← String.toList_inj]
  simp

/-- **The rows of a Markdown table are read back.** -/
theorem markdownTable_read {report : Report}
    (labels : ∀ category ∈ report.categories, Numeric category) :
    (lastLines report.rows.length report.markdownTable).map innerCellsOf = report.rows := by
  have fills (row : List String) : List.Forall₂ Fills row row :=
    List.forall₂_same.mpr fun _ _ => ⟨[], nofun, rfl⟩
  have unbroken : ∀ line ∈ report.rows.map markdownRow, '\n' ∉ line.toList := by
    intro line member
    obtain ⟨row, held, rfl⟩ := List.mem_map.mp member
    have inner : '\n' ∉ (joined " | " row).toList :=
      unbroken_joined (by decide) (unbroken_of_mem_rows (unbroken_of_numeric labels) held)
    simp [markdownRow, inner]
  have last := lastLines_append unbroken report.markdownTable_eq
  have read : ∀ row ∈ report.rows, innerCellsOf (markdownRow row).toList = row := by
    intro row member
    have blank : ∀ c ∈ [' '], c = ' ' := fun _ => List.mem_singleton.mp
    have whole := cellsOf_joined (fills row) (numeric_of_mem_rows labels member)
      (ne_nil_of_mem_rows member) blank blank
    have split : (markdownRow row).toList =
        [] ++ '|' :: (([' '] ++ (joined " | " row).toList ++ [' ']) ++ '|' :: []) := by
      simp [markdownRow]
    have cut : cellsOf (markdownRow row).toList = "" :: (row ++ [""]) := by
      rw [split, cellsOf_append_bar, cellsOf_append_bar, whole]
      rfl
    rw [innerCellsOf, cut, List.tail_cons, List.dropLast_concat]
  rw [List.length_map] at last
  rw [last, List.map_map, List.map_map]
  exact (List.map_congr_left read).trans (List.map_id _)

end Report

end LoadSweep
