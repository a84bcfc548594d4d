import LoadSweep.Proofs.Report.Tables
import LoadSweep.Proofs.Text.Bytes

/-!
# Plain tables are rectangular

The width of a column is a number of bytes, and its cells are filled up to that number of
characters. A text has no more characters than bytes (`length_le_byteLength`), and the widths are
maxima over all cells (`Report.accommodates_rows`), so every cell fits and its part of the line has
exactly the width of the column.  The rule, the names before their trailing blanks are cut off, and
the rows are therefore divided at the same offsets (`Divided`), and the rule is as long as every row
(`plain_tables_are_rectangular`).

What is asked of a report is only that its texts have no line feed.
-/

namespace LoadSweep

open Text

set_option autoImplicit false

/-! ## Filling -/

theorem length_le_byteWidth (text : String) : text.length ≤ byteWidth text :=
  length_le_byteLength text.toList

theorem length_filling {width : Nat} {text : String} :
    (filling width text).length = width - text.length := by
  rw [filling, String.length_ofList, List.length_replicate]

/-- A text that fits is filled up to the width exactly. -/
theorem length_padStart {width : Nat} {text : String} (fits : text.length ≤ width) :
    (padStart width text).length = width := by
  rw [padStart, String.length_append, length_filling]
  omega

theorem length_padEnd {width : Nat} {text : String} (fits : text.length ≤ width) :
    (padEnd width text).length = width := by
  rw [padEnd, String.length_append, length_filling]
  omega

/-! ## Widths -/

/-- Every cell has at most as many bytes as its column is wide. -/
def Accommodates (widths : List Nat) (cells : List String) : Prop :=
  List.Forall₂ (fun width cell => byteWidth cell ≤ width) widths cells

theorem accommodates_byteWidth (cells : List String) :
    Accommodates (cells.map byteWidth) cells := by
  rw [Accommodates, List.forall₂_map_left_iff]
  exact List.forall₂_same.mpr fun _ _ => Nat.le_refl _

/-- Wider columns have room for the same cells. -/
theorem Accommodates.widen {widths : List Nat} {cells : List String}
    (accommodates : Accommodates widths cells) (texts : List String) :
    Accommodates (LoadSweep.widen widths texts) cells := by
  induction accommodates generalizing texts with
  | nil => exact .nil
  | cons fits others ih =>
    cases texts with
    | nil => exact .cons fits others
    | cons text texts => exact .cons (Nat.le_trans fits (Nat.le_max_left ..)) (ih texts)

/-- Columns are widened for the cells that are added. -/
theorem accommodates_widen {widths : List Nat} {texts : List String}
    (wide : texts.length = widths.length) : Accommodates (widen widths texts) texts := by
  induction widths generalizing texts with
  | nil =>
    obtain rfl := List.length_eq_zero_iff.mp wide
    exact .nil
  | cons width widths ih =>
    obtain ⟨text, texts, rfl⟩ := List.exists_cons_of_length_eq_add_one wide
    exact .cons (Nat.le_max_right ..) (ih (Nat.succ.inj wide))

theorem Accommodates.foldl_widen {widths : List Nat} {cells : List String}
    (accommodates : Accommodates widths cells) (rows : List (List String)) :
    Accommodates (rows.foldl LoadSweep.widen widths) cells := by
  induction rows generalizing widths with
  | nil => exact accommodates
  | cons row rows ih => exact ih (accommodates.widen row)

/-- Columns that are widened row by row have room for every row. -/
theorem accommodates_foldl_widen {widths : List Nat} {rows : List (List String)}
    (wide : ∀ row ∈ rows, row.length = widths.length) :
    ∀ row ∈ rows, Accommodates (rows.foldl widen widths) row := by
  induction rows generalizing widths with
  | nil => exact nofun
  | cons first rows ih =>
    obtain ⟨here, others⟩ := List.forall_mem_cons.mp wide
    have room : ∀ row ∈ rows, Accommodates (rows.foldl widen (widen widths first)) row := by
      apply ih
      intro row member
      rw [Report.length_widen]
      exact others row member
    intro row member
    rcases List.mem_cons.mp member with rfl | later
    · exact (accommodates_widen here).foldl_widen rows
    · exact room row later

/-- Cells that fit are filled up to the widths of their columns. -/
theorem Accommodates.lengths {widths : List Nat} {cells : List String}
    (accommodates : Accommodates widths cells) {pad : Nat → String → String}
    (exact_pad : ∀ {width : Nat} {text : String}, text.length ≤ width →
      (pad width text).length = width) :
    (List.zipWith pad widths cells).map String.length = widths := by
  induction accommodates with
  | nil => rfl
  | cons fits _ others =>
    rw [List.zipWith_cons_cons, List.map_cons, others,
      exact_pad (Nat.le_trans (length_le_byteWidth _) fits)]

/-! ## Columns of a line -/

/-- The offset of a column in a line: the widths of the columns before it, and three characters
after each of them. -/
def columnStart : List Nat → Nat → Nat
  | width :: widths, column + 1 => width + 3 + columnStart widths column
  | _, _ => 0

theorem columnStart_zero (widths : List Nat) : columnStart widths 0 = 0 := by
  cases widths <;> rfl

theorem columnStart_succ (width : Nat) (widths : List Nat) (column : Nat) :
    columnStart (width :: widths) (column + 1) = width + 3 + columnStart widths column :=
  rfl

/-- A line is divided into columns of the given widths: each shows its part at its offset, the
boundary stands behind every column but the last, and there is nothing else in the line. -/
structure Divided (widths : List Nat) (boundary : String) (line : List Char)
    (parts : List String) : Prop where
  lengths : parts.map String.length = widths
  whole : line.length + 3 = columnStart widths widths.length
  part : ∀ column part, parts[column]? = some part →
    (line.drop (columnStart widths column)).take part.length = part.toList
  boundaries : ∀ column width, widths[column]? = some width → column + 1 < widths.length →
    (line.drop (columnStart widths column + width)).take 3 = boundary.toList

section Columns

variable {boundary : String}

theorem divided_single (part : String) :
    Divided [part.length] boundary part.toList [part] where
  lengths := rfl
  whole := by
    rw [String.length_toList, List.length_singleton, columnStart_succ, columnStart_zero]
  part := by
    intro column other found
    cases column with
    | zero =>
      cases found
      exact List.take_of_length_le (Nat.le_of_eq String.length_toList)
    | succ column => cases found
  boundaries := by
    intro column width _ inside
    rw [List.length_singleton] at inside
    omega

/-- A part and a boundary in front of a divided line. -/
theorem Divided.cons {widths : List Nat} {line : List Char} {parts : List String}
    (divided : Divided widths boundary line parts) (three : boundary.length = 3) (part : String) :
    Divided (part.length :: widths) boundary (part.toList ++ (boundary.toList ++ line))
      (part :: parts) := by
  have wide : boundary.toList.length = 3 := String.length_toList.trans three
  have behind (offset : Nat) : (part.toList ++ (boundary.toList ++ line)).drop
      (part.length + 3 + offset) = line.drop offset := by
    rw [Nat.add_assoc, ← String.length_toList (s := part), List.drop_length_add_append, ← wide,
      List.drop_length_add_append]
  refine ⟨?lengths, ?whole, ?part, ?boundaries⟩
  case lengths => rw [List.map_cons, divided.lengths]
  case whole =>
    rw [List.length_append, List.length_append, wide, String.length_toList, List.length_cons,
      columnStart_succ, ← divided.whole]
    omega
  case part =>
    intro column other found
    cases column with
    | zero =>
      cases found
      rw [columnStart_zero, List.drop_zero]
      exact List.take_left' String.length_toList
    | succ column =>
      rw [columnStart_succ, behind]
      exact divided.part column other found
  case boundaries =>
    intro column width found inside
    cases column with
    | zero =>
      cases found
      rw [columnStart_zero, Nat.zero_add, List.drop_left' String.length_toList]
      exact List.take_left' wide
    | succ column =>
      rw [columnStart_succ, Nat.add_assoc (part.length + 3), behind]
      exact divided.boundaries column width found (Nat.lt_of_succ_lt_succ inside)

/-- Parts joined with a boundary of three characters divide their line. -/
theorem divided_joined (three : boundary.length = 3) {widths : List Nat} {parts : List String}
    (lengths : parts.map String.length = widths) (some : parts ≠ []) :
    Divided widths boundary (joined boundary parts).toList parts := by
  subst lengths
  induction parts with
  | nil => exact absurd rfl some
  | cons part parts ih =>
    cases parts with
    | nil =>
      rw [joined, String.intercalate_singleton]
      exact divided_single part
    | cons next parts =>
      have rest := ih (List.cons_ne_nil next parts)
      rw [joined, String.intercalate_cons_cons, String.toList_append, String.toList_append,
        List.append_assoc]
      exact rest.cons three part

/-- Lines that are divided by the same widths have the same length. -/
theorem Divided.length_eq {widths : List Nat} {other : String} {line second : List Char}
    {parts others : List String} (first : Divided widths boundary line parts)
    (divided : Divided widths other second others) : line.length = second.length := by
  have same := first.whole.trans divided.whole.symm
  omega

end Columns

/-! ## Lines of a table -/

/-- A part of a line shows a name with blanks behind it. -/
def Leads (part name : String) : Prop :=
  ∃ after, (∀ c ∈ after, c = ' ') ∧ part.toList = name.toList ++ after

theorem leads_padEnd (width : Nat) (name : String) : Leads (padEnd width name) name := by
  refine ⟨List.replicate (width - name.length) ' ', ?_, ?_⟩
  · intro c member
    exact (List.mem_replicate.mp member).2
  · rw [padEnd, String.toList_append, filling, String.toList_ofList]

/-- A part of the rule. -/
def dashes (width : Nat) : String :=
  String.ofList (List.replicate width '-')

theorem length_dashes (width : Nat) : (dashes width).length = width := by
  rw [dashes, String.length_ofList, List.length_replicate]

namespace Report

/-- A report whose texts have no line feed. -/
structure Unbroken (report : Report) : Prop where
  title : '\n' ∉ report.title.toList
  axisLabel : '\n' ∉ report.axisLabel.toList
  unit : '\n' ∉ report.unit.toList
  categories : ∀ category ∈ report.categories, '\n' ∉ category.toList
  endpoints : ∀ column ∈ report.columns, '\n' ∉ column.endpoint.toList

/-- The lines of a table behind its title stand in columns of the widths of the report.  The names
are flush left and the cells flush right, and every row has its label and a cell for each column,
which shows that a value is missing exactly if the column is too short or has a gap there. -/
structure Rectangular (report : Report) (header rule : List Char) (body : List (List Char)) :
    Prop where
  columns : report.widths.length = report.columns.length + 1
  names : ∃ parts, Divided report.widths " | " header parts ∧
    List.Forall₂ Leads parts report.headerCells
  dashes : Divided report.widths "-+-" rule (report.widths.map dashes)
  height : body.length = report.categories.length
  row : ∀ position category, report.categories[position]? = some category →
    ∃ line parts, body[position]? = some line ∧ line.length = rule.length ∧
      Divided report.widths " | " line parts ∧
      List.Forall₂ Fills parts (category :: report.columns.map fun column =>
        cell report.metric (column.value? position)) ∧
      ∀ column ∈ report.columns, cell report.metric (column.value? position) = "n/a" ↔
        column.values[position]? = none ∨ column.values[position]? = some none

variable {report : Report}

theorem accommodates_header (report : Report) : Accommodates report.widths report.headerCells :=
  (accommodates_byteWidth report.headerCells).foldl_widen report.rows

theorem accommodates_rows (report : Report) :
    ∀ row ∈ report.rows, Accommodates report.widths row := by
  apply accommodates_foldl_widen
  intro row member
  rw [length_of_mem_rows member, List.length_map, headerCells, List.length_cons, List.length_map]

/-- The line of the names, with the blanks at its end. -/
def namesLine (report : Report) : String :=
  plainLine " | " (List.zipWith padEnd report.widths report.headerCells)

/-- The line between the names and the rows. -/
def ruleLine (report : Report) : String :=
  plainLine "-+-" (report.widths.map dashes)

/-- The lines of a table, each before its line feed. -/
theorem plainTable_lines (report : Report) :
    report.plainTable = String.join (([report.title, String.ofList (trimEnd report.namesLine.toList),
      report.ruleLine] ++ report.rows.map report.plainRow).map (· ++ "\n")) :=
  rfl

/-- Cells that are filled up to the widths of the report, each in the same way, divide a line. -/
theorem divided_plainLine {shows : String → String → Prop} {pad : Nat → String → String}
    (each : ∀ width cell, shows (pad width cell) cell)
    (fills : ∀ {width : Nat} {text : String}, text.length ≤ width →
      (pad width text).length = width)
    {cells : List String} (accommodates : Accommodates report.widths cells) :
    ∃ parts, Divided report.widths " | "
        (plainLine " | " (List.zipWith pad report.widths cells)).toList parts ∧
      List.Forall₂ shows parts cells := by
  have lengths := accommodates.lengths fills
  have some : List.zipWith pad report.widths cells ≠ [] := by
    intro none
    have columns := report.length_widths
    rw [← lengths, none] at columns
    cases columns
  exact ⟨_, divided_joined (by decide) lengths some,
    forall₂_zipWith each (Nat.le_of_eq accommodates.length_eq.symm)⟩

theorem divided_rule (report : Report) :
    Divided report.widths "-+-" report.ruleLine.toList (report.widths.map dashes) := by
  have lengths : (report.widths.map dashes).map String.length = report.widths := by
    have each : String.length ∘ LoadSweep.dashes = id := funext length_dashes
    rw [List.map_map, each, List.map_id]
  have some : report.widths.map dashes ≠ [] := by
    intro none
    have columns := report.length_widths
    rw [← lengths, none] at columns
    cases columns
  exact divided_joined (by decide) lengths some

theorem value?_eq_none_iff (column : ReportColumn) (position : Nat) :
    column.value? position = none ↔
      column.values[position]? = none ∨ column.values[position]? = some none := by
  rw [ReportColumn.value?, Option.join_eq_none_iff]

theorem rectangular (report : Report) :
    report.Rectangular report.namesLine.toList report.ruleLine.toList
      (report.rows.map fun row => (report.plainRow row).toList) where
  columns := report.length_widths
  names := divided_plainLine leads_padEnd length_padEnd report.accommodates_header
  dashes := report.divided_rule
  height := (List.length_map ..).trans report.length_rows
  row := by
    intro position category labelled
    have atPosition : report.rows[position]? = some (report.rowCells position category) := by
      rw [getElem?_rows, labelled, Option.map_some]
    have accommodates :=
      report.accommodates_rows _ (List.mem_of_getElem? atPosition)
    obtain ⟨parts, divided, fills⟩ := divided_plainLine fills_padStart length_padStart accommodates
    refine ⟨_, parts, ?_, divided.length_eq report.divided_rule, divided, fills, ?_⟩
    · rw [List.getElem?_map, atPosition]
      rfl
    · intro column _
      exact (cell_eq_missing_iff _ _).trans (value?_eq_none_iff column position)

/-! ## Line feeds -/

theorem unbroken_of_leads {part name : String} (leads : Leads part name)
    (unbroken : '\n' ∉ name.toList) : '\n' ∉ part.toList := by
  obtain ⟨after, blank, split⟩ := leads
  rw [split, List.mem_append, not_or]
  refine ⟨unbroken, fun member => ?_⟩
  cases blank _ member

theorem Unbroken.header (unbroken : report.Unbroken) :
    ∀ name ∈ report.headerCells, '\n' ∉ name.toList := by
  refine List.forall_mem_cons.mpr ⟨unbroken.axisLabel, ?_⟩
  intro name member
  obtain ⟨column, held, rfl⟩ := List.mem_map.mp member
  have endpoint := unbroken.endpoints column held
  simp [toString, endpoint, unbroken.unit]

/-- No line of a table has a line feed in it. -/
theorem Unbroken.lines (unbroken : report.Unbroken) :
    ∀ line ∈ [report.title, String.ofList (trimEnd report.namesLine.toList), report.ruleLine]
      ++ report.rows.map report.plainRow, '\n' ∉ line.toList := by
  have filled {shows : String → String → Prop} {pad : Nat → String → String}
      (each : ∀ width cell, shows (pad width cell) cell)
      (keeps : ∀ {part cell : String}, shows part cell → '\n' ∉ cell.toList → '\n' ∉ part.toList)
      {cells : List String} (accommodates : Accommodates report.widths cells)
      (held : ∀ cell ∈ cells, '\n' ∉ cell.toList) :
      '\n' ∉ (plainLine " | " (List.zipWith pad report.widths cells)).toList := by
    have wide := Nat.le_of_eq accommodates.length_eq.symm
    exact unbroken_joined (by decide) (unbroken_parts keeps (forall₂_zipWith each wide) held)
  have names : '\n' ∉ (String.ofList (trimEnd report.namesLine.toList)).toList := by
    rw [String.toList_ofList]
    intro member
    exact filled leads_padEnd unbroken_of_leads report.accommodates_header unbroken.header
      (Chart.mem_of_mem_dropWhileEnd member)
  have rule : '\n' ∉ report.ruleLine.toList := by
    apply unbroken_joined (by decide)
    intro part member
    obtain ⟨width, -, rfl⟩ := List.mem_map.mp member
    rw [LoadSweep.dashes, String.toList_ofList]
    intro dash
    cases (List.mem_replicate.mp dash).2
  intro line member
  rcases List.mem_append.mp member with head | body
  · simp only [List.mem_cons, List.not_mem_nil, or_false] at head
    rcases head with rfl | rfl | rfl
    · exact unbroken.title
    · exact names
    · exact rule
  · obtain ⟨row, held, rfl⟩ := List.mem_map.mp body
    exact filled fills_padStart unbroken_of_fills (report.accommodates_rows row held)
      (unbroken_of_mem_rows unbroken.categories held)

/-- **Plain tables are rectangular.**  The lines of a table, each of them ended by a line feed, are
the title, the names without the blanks behind them, the rule and a row for each category, and all
but the title are divided at the same offsets. -/
theorem plain_tables_are_rectangular {report : Report} (unbroken : report.Unbroken) :
    ∃ header rule body,
      lines report.plainTable.toList =
        [report.title.toList, trimEnd header, rule] ++ body ++ [[]] ∧
      report.Rectangular header rule body := by
  refine ⟨_, _, _, ?_, report.rectangular⟩
  rw [plainTable_lines, lines_join unbroken.lines, List.map_append, List.map_map]
  simp only [List.map_cons, List.map_nil, String.toList_ofList, Function.comp_def]

/-- A report with names that have more bytes than characters, and with columns that are too short
or have a gap. -/
def accentedReport : Report where
  sweep := "get"
  title := "Débit"
  axisLabel := "größe"
  metric := .throughput
  unit := "req/s"
  categories := ["64 ä", "4096"]
  columns := [⟨"naïve", [none, some 2]⟩, ⟨"β", [some 1.5]⟩]

theorem accented_table_is_rectangular :
    accentedReport.Unbroken ∧ ∃ header rule body,
      lines accentedReport.plainTable.toList =
        ["Débit".toList, trimEnd header, rule] ++ body ++ [[]] ∧
      accentedReport.Rectangular header rule body :=
  have unbroken : accentedReport.Unbroken :=
    ⟨by decide, by decide, by decide, by decide, by decide⟩
  ⟨unbroken, plain_tables_are_rectangular unbroken⟩

end Report

end LoadSweep
