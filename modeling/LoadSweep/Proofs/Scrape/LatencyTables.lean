import LoadSweep.Proofs.Scrape.Matches
import LoadSweep.Proofs.Text.Words
import Mathlib.Data.List.Forall2

/-!
# The layout of a latency table

A heading is its words in any letter case, with any blanks in front of the unit (`IsHeading`).  What
follows the first heading is laid out as a table of columns if it has, among lines of blanks and
lines of a lone colon, a line with the names of the columns and below it a line with a numeral for
each of them (`Tabulates`).  Nothing else is a table: columns are read exactly of a text that has
one (`latencyColumns?_eq_some_iff`), with the names in lower case.
-/

namespace LoadSweep

namespace Text

set_option autoImplicit false

/-- Blanks have no letter case. -/
theorem toLower_of_isBlank {c : Char} (blank : isBlank c = true) : c.toLower = c := by
  have letter : ¬ (c.val ≥ 'A'.val ∧ c.val ≤ 'Z'.val) := by
    rintro ⟨low, high⟩
    have least : 65 ≤ c.toNat := UInt32.le_iff_toNat_le.mp low
    have most : c.toNat ≤ 90 := UInt32.le_iff_toNat_le.mp high
    simp only [isBlank, Bool.or_eq_true, Bool.and_eq_true, decide_eq_true_eq, beq_iff_eq] at blank
    omega
  exact dif_neg letter

end Text

namespace Scrape

open Text Number

set_option autoImplicit false

/-! ## Headings -/

/-- A text spells lower-case words if letter case is ignored. -/
def Spells (words spelt : List Char) : Prop :=
  List.Forall₂ (fun letter c => isLetter letter c = true) words spelt

/-- A heading of the table. -/
def IsHeading (heading : List Char) : Prop :=
  ∃ title blanks unit, Spells "latency summary".toList title ∧ (∀ c ∈ blanks, isBlank c = true) ∧
    Spells "(msec)".toList unit ∧ heading = title ++ (blanks ++ unit)

/-- What follows words is the text without them. -/
theorem stripFolded?_eq_some_iff {words text rest : List Char} :
    stripFolded? words text = some rest ↔ ∃ spelt, Spells words spelt ∧ text = spelt ++ rest := by
  constructor
  · intro stripped
    induction words generalizing text with
    | nil =>
      cases stripped
      exact ⟨[], .nil, rfl⟩
    | cons letter words ih =>
      cases text with
      | nil => cases stripped
      | cons c text =>
        rw [stripFolded?] at stripped
        split at stripped
        · rename_i same
          obtain ⟨spelt, spells, rfl⟩ := ih stripped
          exact ⟨c :: spelt, .cons same spells, rfl⟩
        · cases stripped
  · rintro ⟨spelt, spells, rfl⟩
    induction spells with
    | nil => rfl
    | cons same _ ih =>
      rw [List.cons_append, stripFolded?, if_pos same]
      exact ih

/-- A character that is its own lower case spells only itself, unless it is the long s. -/
theorem eq_of_isLetter {letter c : Char} (spells : isLetter letter c = true)
    (lower : c.toLower = c) (short : c.toNat ≠ 0x17F) : c = letter := by
  rw [isLetter, lower, Bool.or_eq_true, Bool.and_eq_true] at spells
  rcases spells with same | ⟨-, long⟩
  · exact eq_of_beq same
  · exact absurd (eq_of_beq long) short

/-- So does a blank. -/
theorem eq_of_isLetter_of_isBlank {letter c : Char} (spells : isLetter letter c = true)
    (blank : isBlank c = true) : c = letter := by
  apply eq_of_isLetter spells (toLower_of_isBlank blank)
  intro long
  rw [isBlank, long] at blank
  cases blank

/-- What spells an `l` spells no other letter. -/
theorem isLetter_of_ne {letter c : Char} (spells : isLetter letter c = true)
    (other : letter ≠ 'l') : isLetter 'l' c = false := by
  rw [Bool.eq_false_iff]
  intro twice
  have lower : c.toLower = 'l' := by simpa [isLetter] using twice
  rw [isLetter, lower, Bool.or_eq_true, Bool.and_eq_true] at spells
  rcases spells with same | ⟨-, long⟩
  · exact other (eq_of_beq same).symm
  · have code : c = Char.ofNat 0x17F := by
      rw [← eq_of_beq long, Char.ofNat_toNat]
    rw [code] at lower
    revert lower
    decide

theorem headingAt?_eq_some_iff {text rest : List Char} :
    headingAt? text = some rest ↔ ∃ heading, IsHeading heading ∧ text = heading ++ rest := by
  rw [headingAt?, Option.bind_eq_some_iff]
  constructor
  · rintro ⟨behind, opened, closed⟩
    obtain ⟨title, titled, rfl⟩ := stripFolded?_eq_some_iff.mp opened
    obtain ⟨unit, units, left⟩ := stripFolded?_eq_some_iff.mp closed
    refine ⟨_, ⟨title, behind.takeWhile isBlank, unit, titled,
      fun c member => List.mem_takeWhile_imp member, units, rfl⟩, ?_⟩
    rw [List.append_assoc, List.append_assoc, ← left, List.takeWhile_append_dropWhile]
  · rintro ⟨_, ⟨title, blanks, unit, titled, blank, units, rfl⟩, rfl⟩
    refine ⟨blanks ++ (unit ++ rest), stripFolded?_eq_some_iff.mpr ⟨title, titled, ?_⟩, ?_⟩
    · simp only [List.append_assoc]
    · have stop : ∀ c ∈ (unit ++ rest).head?, isBlank c = false := by
        cases units with
        | @cons _ c _ unit bracket _ =>
          rintro _ ⟨⟩
          rw [Bool.eq_false_iff]
          intro first
          cases eq_of_isLetter_of_isBlank bracket first
          cases first
      rw [(span_until blank stop).2]
      exact stripFolded?_eq_some_iff.mpr ⟨unit, units, rfl⟩

theorem recognises_heading : Recognises headingAt? IsHeading := by
  intro text
  rw [Option.isSome_iff_exists]
  constructor
  · rintro ⟨rest, read⟩
    obtain ⟨heading, here, parts⟩ := headingAt?_eq_some_iff.mp read
    exact ⟨heading, rest, here, parts⟩
  · rintro ⟨heading, rest, here, parts⟩
    exact ⟨rest, headingAt?_eq_some_iff.mpr ⟨heading, here, parts⟩⟩

/-- Every character of a text spells some letter of the words. -/
theorem Spells.exists_letter {words spelt : List Char} (spells : Spells words spelt) {c : Char}
    (member : c ∈ spelt) : ∃ letter ∈ words, isLetter letter c = true := by
  induction spells with
  | nil => cases member
  | cons same _ ih =>
    rcases List.mem_cons.mp member with rfl | later
    · exact ⟨_, List.mem_cons_self, same⟩
    · obtain ⟨letter, within, spells⟩ := ih later
      exact ⟨letter, List.mem_cons_of_mem _ within, spells⟩

/-- Words without an `l` are spelt without one. -/
theorem Spells.without_l {words spelt : List Char} (spells : Spells words spelt)
    (others : 'l' ∉ words) {c : Char} (member : c ∈ spelt) : isLetter 'l' c = false := by
  obtain ⟨letter, within, same⟩ := spells.exists_letter member
  apply isLetter_of_ne same
  rintro rfl
  exact others within

/-- A character that spells only itself is spelt where it is in the words. -/
theorem Spells.not_mem {words spelt : List Char} (spells : Spells words spelt) {c : Char}
    (lower : c.toLower = c) (short : c.toNat ≠ 0x17F) (absent : c ∉ words) : c ∉ spelt := by
  intro member
  obtain ⟨letter, within, same⟩ := spells.exists_letter member
  cases eq_of_isLetter same lower short
  exact absent within

/-- A heading begins with its only `l`. -/
theorem IsHeading.head {heading : List Char} (here : IsHeading heading) :
    ∃ c tail, heading = c :: tail ∧ isLetter 'l' c = true ∧ ∀ d ∈ tail, isLetter 'l' d = false := by
  obtain ⟨title, blanks, unit, titled, blank, units, rfl⟩ := here
  have front : 'l' ∉ "atency summary".toList := by decide
  have back : 'l' ∉ "(msec)".toList := by decide
  cases titled with
  | @cons _ c _ tail first others =>
    refine ⟨c, tail ++ (blanks ++ unit), rfl, first, ?_⟩
    intro d member
    rcases List.mem_append.mp member with inTitle | later
    · exact Spells.without_l others front inTitle
    · rcases List.mem_append.mp later with inBlanks | inUnit
      · rw [Bool.eq_false_iff]
        intro spells
        have solid := blank d inBlanks
        rw [eq_of_isLetter_of_isBlank spells solid] at solid
        cases solid
      · exact units.without_l back inUnit

theorem unnested_heading : Unnested IsHeading :=
  unnested_of_head fun _ here => here.head

/-! ## Columns -/

/-- A column of a table: its name and the numeral under it. -/
structure Column where
  name : List Char
  numeral : List Char
  value : Float
  reads : readFloat? numeral = some value

/-- The name by which a column is looked up. -/
def Column.key (column : Column) : List Char :=
  lowerAscii column.name

/-- A column with a figure in ASCII digits under its name. -/
def Column.ofFigure (name : String) (figure : Figure) (ascii : figure.IsAscii) : Column :=
  ⟨name.toList, figure.text, figure.value, readFloat?_ascii ascii⟩

/-- The numerals of columns are read as their values. -/
theorem mapM_numerals (columns : List Column) :
    (columns.map Column.numeral).mapM readFloat? = some (columns.map Column.value) := by
  induction columns with
  | nil => rfl
  | cons column columns ih =>
    rw [List.map_cons, List.mapM_cons, column.reads, ih]
    rfl

/-- Names over as many numerals are columns. -/
theorem exists_columns {names numerals : List (List Char)} {values : List Float}
    (read : numerals.mapM readFloat? = some values) (same : names.length = values.length) :
    ∃ columns : List Column, columns.map Column.name = names ∧
      columns.map Column.numeral = numerals ∧ columns.map Column.value = values := by
  induction numerals generalizing names values with
  | nil =>
    cases read
    cases List.length_eq_zero_iff.mp same
    exact ⟨[], rfl, rfl, rfl⟩
  | cons numeral numerals ih =>
    rw [List.mapM_cons, Option.bind_eq_bind, Option.bind_eq_some_iff] at read
    obtain ⟨value, first, read⟩ := read
    obtain ⟨others, rest, written⟩ := Option.bind_eq_some_iff.mp read
    cases written
    obtain ⟨name, names, rfl⟩ := List.exists_cons_of_length_eq_add_one same
    obtain ⟨columns, rfl, rfl, rfl⟩ := ih rest (Nat.succ.inj same)
    exact ⟨⟨name, numeral, value, first⟩ :: columns, rfl, rfl, rfl⟩

/-- Two lines are columns if their words are the names and the numerals of some. -/
theorem columnsOf?_eq_some_iff {header values : List Char} {named : List (List Char × Float)} :
    columnsOf? header values = some named ↔
      ∃ columns : List Column, columns ≠ [] ∧ columns.map Column.name = words header ∧
        columns.map Column.numeral = words values ∧
        named = columns.map fun column => (column.key, column.value) := by
  have pairs : ∀ columns : List Column,
      ((columns.map Column.name).map lowerAscii).zip (columns.map Column.value) =
        columns.map fun column => (column.key, column.value) := by
    intro columns
    rw [List.map_map, List.zip_map']
    rfl
  rw [columnsOf?, Option.bind_eq_some_iff]
  constructor
  · rintro ⟨numbers, read, paired⟩
    dsimp only at paired
    split at paired
    · cases paired
    · rename_i fitting
      simp only [Bool.or_eq_true, List.isEmpty_iff, bne_iff_ne, ne_eq, not_or, not_not,
        List.map_eq_nil_iff, List.length_map] at fitting
      obtain ⟨some, same⟩ := fitting
      obtain ⟨columns, names, numerals, rfl⟩ := exists_columns read same
      rw [← names, pairs] at paired
      rw [← names, List.map_eq_nil_iff] at some
      exact ⟨columns, some, names, numerals, (Option.some.inj paired).symm⟩
  · rintro ⟨columns, some, names, numerals, rfl⟩
    refine ⟨columns.map Column.value, numerals ▸ mapM_numerals columns, ?_⟩
    dsimp only
    rw [← names, pairs, if_neg (by simp [some])]

/-! ## Lines -/

/-- A line is written as given words. -/
def LineOf (found : List (List Char)) (line : List Char) : Prop :=
  '\n' ∉ line ∧ Spaced found line

/-- A line that a table passes over: blanks, with a lone colon among them at most. -/
def Idle (line : List Char) : Prop :=
  LineOf [] line ∨ LineOf [[':']] line

/-- A text is at its end, or at the end of a line. -/
def Closes (after : List Char) : Prop :=
  ∀ c ∈ after.head?, c = '\n'

theorem closes_feed (rest : List Char) : Closes ('\n' :: rest) := by
  rintro _ ⟨⟩
  rfl

/-- Lines, each with its line feed. -/
def ended (lines : List (List Char)) : List Char :=
  lines.flatMap (· ++ ['\n'])

theorem ended_cons (line : List Char) (lines : List (List Char)) :
    ended (line :: lines) = line ++ '\n' :: ended lines := by
  rw [ended, List.flatMap_cons, List.append_assoc]
  rfl

/-- A line of blanks is trimmed to nothing, and a lone colon to itself. -/
theorem Idle.trim {line : List Char} (idle : Idle line) :
    trim line = [] ∨ trim line = [':'] := by
  rcases idle with ⟨-, spaced⟩ | ⟨-, spaced⟩
  · cases spaced with
    | gap blank =>
      have nothing : ∀ kind, ∀ c ∈ ([] : List Char), isBlank c = kind :=
        fun _ => List.forall_mem_nil _
      have trimmed := trim_padded blank (nothing false) (nothing true)
      rw [List.append_nil, List.append_nil] at trimmed
      exact .inl trimmed
  · cases spaced with
    | word blank _ solid _ others =>
      cases others with
      | gap behind =>
        rw [← List.append_assoc]
        exact .inr (trim_padded blank solid behind)

/-- Nothing else is. -/
theorem LineOf.idle {found : List (List Char)} {line : List Char} (written : LineOf found line)
    (trimmed : Text.trim line = [] ∨ Text.trim line = [':']) : found = [] ∨ found = [[':']] := by
  rw [← written.2.words_eq, ← words_trim]
  rcases trimmed with nothing | colon
  · rw [nothing]
    exact .inl rfl
  · rw [colon]
    exact .inr rfl

theorem tableLines_feed (text : List Char) : tableLines ('\n' :: text) = tableLines text := by
  rw [tableLines, lines_feed]
  rfl

/-- The first line counts unless it is trimmed to nothing or to a colon. -/
theorem tableLines_append {line after : List Char} (unbroken : '\n' ∉ line)
    (closes : Closes after) :
    tableLines (line ++ after) =
      (if !(trim line).isEmpty && trim line != [':'] then [trim line] else []) ++
        tableLines after := by
  cases after with
  | nil =>
    rw [List.append_nil, tableLines, lines_unbroken unbroken, List.map_singleton, List.filter_cons]
    split <;> rfl
  | cons c after =>
    cases closes c rfl
    rw [tableLines_feed, tableLines, lines_append_feed unbroken, List.map_cons, List.filter_cons]
    split <;> rfl

theorem Idle.tableLines {line after : List Char} (idle : Idle line) (closes : Closes after) :
    tableLines (line ++ after) = tableLines after := by
  have unbroken : '\n' ∉ line := idle.elim And.left And.left
  rw [tableLines_append unbroken closes]
  rcases idle.trim with trimmed | trimmed <;> rw [trimmed] <;> rfl

theorem LineOf.tableLines {found : List (List Char)} {line after : List Char}
    (written : LineOf found line) (some : found ≠ []) (noColon : found ≠ [[':']])
    (closes : Closes after) :
    tableLines (line ++ after) = Text.trim line :: tableLines after := by
  rw [tableLines_append written.1 closes, if_pos]
  · rfl
  · have busy : ¬ (Text.trim line = [] ∨ Text.trim line = [':']) := by
      intro trimmed
      exact (written.idle trimmed).elim some noColon
    simpa [not_or] using busy

/-- Lines that are passed over make no difference. -/
theorem tableLines_ended {skipped : List (List Char)} (idle : ∀ line ∈ skipped, Idle line)
    (text : List Char) : tableLines (ended skipped ++ text) = tableLines text := by
  induction skipped with
  | nil => rfl
  | cons line skipped ih =>
    obtain ⟨first, others⟩ := List.forall_mem_cons.mp idle
    rw [ended_cons, List.append_assoc, List.cons_append, first.tableLines (closes_feed _),
      tableLines_feed, ih others]

/-- The next line that counts stands behind lines that are passed over. -/
theorem exists_next {text trimmed : List Char} {others : List (List Char)}
    (read : tableLines text = trimmed :: others) :
    ∃ skipped line after, (∀ passed ∈ skipped, Idle passed) ∧ LineOf (words trimmed) line ∧
      words trimmed ≠ [[':']] ∧ Closes after ∧ text = ended skipped ++ (line ++ after) ∧
        tableLines after = others := by
  have first : ∀ line after : List Char, '\n' ∉ line → Closes after →
      tableLines (line ++ after) = trimmed :: others → ¬ Idle line →
        LineOf (words trimmed) line ∧ words trimmed ≠ [[':']] ∧ tableLines after = others := by
    intro line after unbroken closes read busy
    obtain ⟨found, spaced⟩ := exists_spaced line
    have written : LineOf found line := ⟨unbroken, spaced⟩
    have some : found ≠ [] := fun none => busy (.inl (none ▸ written))
    have noColon : found ≠ [[':']] := fun colon => busy (.inr (colon ▸ written))
    rw [written.tableLines some noColon closes] at read
    obtain ⟨rfl, behind⟩ := List.cons.inj read
    rw [words_trim, spaced.words_eq]
    exact ⟨written, noColon, behind⟩
  induction text using lineInduction with
  | last line unbroken =>
    have closes : Closes [] := nofun
    rw [← List.append_nil line] at read
    by_cases idle : Idle line
    · rw [idle.tableLines closes] at read
      cases read
    · obtain ⟨written, noColon, behind⟩ := first line [] unbroken closes read idle
      exact ⟨[], line, [], List.forall_mem_nil _, written, noColon, closes,
        (List.append_nil line).symm, behind⟩
  | feed line rest unbroken ih =>
    have closes := closes_feed rest
    by_cases idle : Idle line
    · rw [idle.tableLines closes, tableLines_feed] at read
      obtain ⟨skipped, next, after, passed, written, noColon, ends, rfl, behind⟩ := ih read
      refine ⟨line :: skipped, next, after, List.forall_mem_cons.mpr ⟨idle, passed⟩, written,
        noColon, ends, ?_, behind⟩
      rw [ended_cons, List.append_assoc, List.cons_append]
    · obtain ⟨written, noColon, behind⟩ := first line ('\n' :: rest) unbroken closes read idle
      exact ⟨[], line, '\n' :: rest, List.forall_mem_nil _, written, noColon, closes, rfl, behind⟩

/-! ## Tables -/

/-- A text is laid out as a table of columns, up to the end of the line of numerals. -/
inductive Tabulates (columns : List Column) : List Char → Prop where
  | lines {above between : List (List Char)} {names numerals : List Char}
      (some : columns ≠ []) (noColon : columns.map Column.name ≠ [[':']])
      (above_idle : ∀ line ∈ above, Idle line)
      (named : LineOf (columns.map Column.name) names)
      (between_idle : ∀ line ∈ between, Idle line)
      (numbered : LineOf (columns.map Column.numeral) numerals) :
      Tabulates columns (ended above ++ (names ++ '\n' :: (ended between ++ numerals)))

/-- A colon is no numeral. -/
theorem numerals_ne_colon (columns : List Column) : columns.map Column.numeral ≠ [[':']] := by
  intro colon
  have read := mapM_numerals columns
  rw [colon] at read
  cases read

/-- A table is read as its two lines. -/
theorem Tabulates.read {columns : List Column} {body after : List Char}
    (table : Tabulates columns body) (closes : Closes after) :
    ∃ header values others, tableLines (body ++ after) = header :: values :: others ∧
      columns.map Column.name = words header ∧ columns.map Column.numeral = words values := by
  cases table with
  | @lines above between names numerals some noColon aboveIdle named betweenIdle numbered =>
    have some : ∀ part : Column → List Char, columns.map part ≠ [] :=
      fun part => mt List.map_eq_nil_iff.mp some
    refine ⟨trim names, trim numerals, tableLines after, ?_, ?_, ?_⟩
    · simp only [List.append_assoc, List.cons_append]
      rw [tableLines_ended aboveIdle, named.tableLines (some _) noColon (closes_feed _),
        tableLines_feed, tableLines_ended betweenIdle,
        numbered.tableLines (some _) (numerals_ne_colon columns) closes]
    · rw [words_trim, named.2.words_eq]
    · rw [words_trim, numbered.2.words_eq]

/-- Two lines that are columns are a table. -/
theorem exists_tabulates {columns : List Column} {text header values : List Char}
    {others : List (List Char)} (read : tableLines text = header :: values :: others)
    (some : columns ≠ []) (names : columns.map Column.name = words header)
    (numerals : columns.map Column.numeral = words values) :
    ∃ body after, Tabulates columns body ∧ Closes after ∧ text = body ++ after := by
  obtain ⟨above, header', after, aboveIdle, named, noColon, closes, rfl, behind⟩ := exists_next read
  cases after with
  | nil => cases behind
  | cons c after =>
    cases closes c rfl
    rw [tableLines_feed] at behind
    obtain ⟨between, values', after, betweenIdle, numbered, -, ends, rfl, -⟩ := exists_next behind
    rw [← names] at named noColon
    rw [← numerals] at numbered
    refine ⟨_, after, .lines some noColon aboveIdle named betweenIdle numbered, ends, ?_⟩
    simp only [List.append_assoc, List.cons_append]

/-- A text has a table of columns below its first heading. -/
structure HasTable (text before heading body after : List Char) (columns : List Column) : Prop where
  parts : text = before ++ (heading ++ (body ++ after))
  heading : FirstMatch IsHeading before heading (body ++ after)
  table : Tabulates columns body
  closes : Closes after

/-- Columns are read exactly of a text that has a table of them. -/
theorem latencyColumns?_eq_some_iff {text : List Char} {named : List (List Char × Float)} :
    latencyColumns? text = some named ↔
      ∃ before heading body after columns, HasTable text before heading body after columns ∧
        named = columns.map fun column => (column.key, column.value) := by
  rw [latencyColumns?, Option.bind_eq_some_iff]
  constructor
  · rintro ⟨rest, found, read⟩
    obtain ⟨before, start, rfl, here, first⟩ := exists_first recognises_heading found
    obtain ⟨heading, isHeading, rfl⟩ := headingAt?_eq_some_iff.mp here
    split at read
    · rename_i header values others lines
      obtain ⟨columns, some, names, numerals, rfl⟩ := columnsOf?_eq_some_iff.mp read
      obtain ⟨body, after, table, closes, rfl⟩ := exists_tabulates lines some names numerals
      exact ⟨before, heading, body, after, columns, ⟨rfl, ⟨isHeading, first⟩, table, closes⟩, rfl⟩
    · cases read
  · rintro ⟨before, heading, body, after, columns, ⟨rfl, first, table, closes⟩, rfl⟩
    obtain ⟨header, values, others, lines, names, numerals⟩ := table.read closes
    have some : columns ≠ [] := by
      cases table with
      | lines some => exact some
    refine ⟨body ++ after, ?_, ?_⟩
    · rw [first.read recognises_heading]
      exact headingAt?_eq_some_iff.mpr ⟨heading, first.here, rfl⟩
    · rw [lines]
      exact columnsOf?_eq_some_iff.mpr ⟨columns, some, names, numerals, rfl⟩

theorem HasTable.latencyColumns? {text before heading body after : List Char}
    {columns : List Column} (table : HasTable text before heading body after columns) :
    latencyColumns? text = some (columns.map fun column => (column.key, column.value)) :=
  latencyColumns?_eq_some_iff.mpr ⟨before, heading, body, after, columns, table, rfl⟩

/-- Of a text without a table no columns are read. -/
theorem latencyColumns?_eq_none {text : List Char}
    (untabled : ∀ before heading body after columns,
      ¬ HasTable text before heading body after columns) : latencyColumns? text = none := by
  rw [Option.eq_none_iff_forall_ne_some]
  intro named read
  obtain ⟨before, heading, body, after, columns, table, -⟩ := latencyColumns?_eq_some_iff.mp read
  exact untabled before heading body after columns table

end Scrape

end LoadSweep
