import LoadSweep.Proofs.Recording.Sections
import LoadSweep.Proofs.Report.Agreement
import Mathlib.Algebra.GroupWithZero.Nat

/-!
# Counting the lines of the log

Titles, names and hosts are written into the log as they stand, so a line feed in one of them
breaks the line.  A section header has one line feed of its own, the line of a point and a marker
have none, and all other line feeds come from these texts (`feeds_sectionHeader`,
`feeds_pointLine`).

If no heading breaks a line, the lines of the log are those of its first text followed by those of
the sections: a header, one line for each row, a marker if the sweep was interrupted, and an empty
line.  A reader who goes by the first words of a line (`LineKind.of`) takes each of them for what it
is, whatever titles and names say, because these stand behind the first words.

The main statement is `log_breaks_where_headings_do`.
-/

namespace LoadSweep

open Text

set_option autoImplicit false

/-! ## Line feeds -/

/-- The number of line feeds in a text. -/
def feeds (text : String) : Nat :=
  text.toList.count '\n'

@[simp] theorem feeds_append (first second : String) :
    feeds (first ++ second) = feeds first + feeds second := by
  rw [feeds, String.toList_append, List.count_append]
  rfl

theorem feeds_eq_zero_iff {text : String} : feeds text = 0 ↔ '\n' ∉ text.toList :=
  List.count_eq_zero

theorem Numeric.feeds {text : String} (numeric : Numeric text) : feeds text = 0 :=
  feeds_eq_zero_iff.mpr (numeric.not_mem (by decide))

/-- A separator without a line feed adds none. -/
theorem feeds_joined {separator : String} (between : feeds separator = 0) (texts : List String) :
    feeds (joined separator texts) = (texts.map feeds).sum := by
  induction texts with
  | nil => rfl
  | cons text texts ih =>
    cases texts with
    | nil =>
      rw [joined, String.intercalate_singleton]
      rfl
    | cons next texts =>
      rw [joined, String.intercalate_cons_cons, feeds_append, feeds_append, between, Nat.add_zero,
        List.map_cons, List.sum_cons]
      exact congrArg (feeds text + ·) ih

/-- Lines that are ended one by one. -/
theorem feeds_lines (lines : List String) :
    feeds (String.join (lines.map (· ++ "\n"))) = (lines.map feeds).sum + lines.length := by
  have one : feeds "\n" = 1 := rfl
  induction lines with
  | nil => rfl
  | cons line lines ih =>
    rw [List.map_cons, String.join_cons, feeds_append, feeds_append, one, ih, List.map_cons,
      List.sum_cons, List.length_cons]
    omega

/-! ## Headings -/

/-- How often the texts of an endpoint break a line. -/
def Endpoint.breaks (endpoint : Endpoint) : Nat :=
  feeds endpoint.name + feeds endpoint.host

theorem Endpoint.feeds_assignment (endpoint : Endpoint) :
    feeds endpoint.assignment = endpoint.breaks := by
  have port : feeds (toString endpoint.port.toNat) = 0 := (numeric_toString _).feeds
  have split : endpoint.assignment =
      endpoint.name ++ "=" ++ (endpoint.host ++ ":" ++ toString endpoint.port.toNat) := by
    rw [assignment, address, ← String.toList_inj]
    simp [toString]
  have sign : feeds "=" = 0 := rfl
  have colon : feeds ":" = 0 := rfl
  rw [split, feeds_append, feeds_append, feeds_append, feeds_append, sign, colon, port]
  rfl

namespace Heading

/-- How often the texts of a heading break a line. -/
def breaks (heading : Heading) : Nat :=
  feeds heading.timestamp + feeds heading.sweep.title +
    (heading.endpoints.map Endpoint.breaks).sum

/-- The header of a section, without the empty line that sets it off. -/
def line (heading : Heading) : String :=
  "=== " ++ (heading.timestamp ++ " | " ++ heading.sweep.title ++ " | " ++
    joined " " (heading.endpoints.map Endpoint.assignment) ++ " ===")

theorem sectionHeader_eq (heading : Heading) :
    sectionHeader heading.timestamp heading.sweep.title heading.endpoints =
      "\n" ++ heading.line := by
  rw [sectionHeader, line, ← String.toList_inj]
  simp [toString]

theorem feeds_line (heading : Heading) : feeds heading.line = heading.breaks := by
  have opening : feeds "=== " = 0 := rfl
  have bar : feeds " | " = 0 := rfl
  have closing : feeds " ===" = 0 := rfl
  have each : (heading.endpoints.map Endpoint.assignment).map feeds =
      heading.endpoints.map Endpoint.breaks := by
    rw [List.map_map]
    exact List.map_congr_left fun endpoint _ => endpoint.feeds_assignment
  simp only [line, feeds_append, opening, bar, closing, feeds_joined (rfl : feeds " " = 0), each,
    breaks]
  omega

/-- A section header has one line feed more than the texts in it. -/
theorem feeds_sectionHeader (heading : Heading) :
    feeds (sectionHeader heading.timestamp heading.sweep.title heading.endpoints) =
      1 + heading.breaks := by
  rw [sectionHeader_eq, feeds_append, feeds_line]
  rfl

end Heading

/-! ## Points and interruptions -/

theorem Sample.feeds_shown (sample : Sample) (metric : Metric) :
    feeds (sample.shown metric) = 0 :=
  (numeric_cell _ _).feeds

theorem Sample.feeds_unitText (sample : Sample) (metric : Metric) :
    feeds (sample.unitText metric) = 0 := by
  rw [unitText]
  split
  · cases metric <;> rfl
  · rfl

/-- The figures of an endpoint break no line. -/
theorem feeds_endpointText (name : String) (sample : Sample) :
    feeds (endpointText name sample) = feeds name := by
  have bar : feeds " | " = 0 := rfl
  have throughput : feeds ": throughput=" = 0 := rfl
  have median : feeds " p50=" = 0 := rfl
  simp only [endpointText_eq, logEntry, feeds_append, bar, throughput, median, Sample.feeds_shown,
    Sample.feeds_unitText, Nat.add_zero, Nat.zero_add]

/-- The entries of a point have the line feeds of the names in them. -/
theorem feeds_entries {names : List String} {row : List Sample}
    (width : row.length = names.length) :
    feeds (String.join (List.zipWith endpointText names row)) = (names.map feeds).sum := by
  induction names generalizing row with
  | nil => cases List.length_eq_zero_iff.mp width; rfl
  | cons name names ih =>
    obtain ⟨sample, row, rfl⟩ := List.exists_cons_of_length_eq_add_one width
    rw [List.zipWith_cons_cons, String.join_cons, feeds_append, feeds_endpointText,
      ih (Nat.add_right_cancel width), List.map_cons, List.sum_cons]

/-- What the line of a point begins with. -/
def Axis.opening (axis : Axis) : String :=
  axis.label ++ ": "

theorem pointLine_eq (axis : Axis) (point : Point) (names : List String) (row : List Sample) :
    pointLine axis point names row =
      axis.opening ++ (point.category axis ++ String.join (List.zipWith endpointText names row)) :=
  String.append_assoc

/-- The line of a point has the line feeds of the names in it. -/
theorem feeds_pointLine (axis : Axis) (point : Point) {names : List String} {row : List Sample}
    (width : row.length = names.length) :
    feeds (pointLine axis point names row) = (names.map feeds).sum := by
  have opening : feeds axis.opening = 0 := by cases axis <;> rfl
  have category : feeds (point.category axis) = 0 := (point.numeric_category axis).feeds
  rw [pointLine_eq, feeds_append, feeds_append, opening, category, feeds_entries width]
  omega

theorem abortMarker_eq (completed declared : Nat) :
    abortMarker completed declared =
      "--- aborted after " ++ toString completed ++ " of " ++ toString declared ++ " points ---" :=
  rfl

/-- A marker breaks no line. -/
theorem feeds_abortMarker (completed declared : Nat) :
    feeds (abortMarker completed declared) = 0 := by
  have numeral (n : Nat) : feeds (toString n) = 0 := (numeric_toString n).feeds
  rw [abortMarker_eq, feeds_append, feeds_append, feeds_append, feeds_append, numeral, numeral]
  rfl

/-! ## What calls add -/

/-- The texts that a call writes into the log break this many lines of it, the ends of the lines
themselves included. -/
def Call.breaks (before : Notebook) : Call → Nat
  | .begin timestamp sweep endpoints => 2 + Heading.breaks ⟨timestamp, sweep, endpoints⟩
  | .commit => 1 + (before.current.elim [] fun series => series.endpoints.map feeds).sum
  | .abort => 1
  | _ => 0

/-- A call that goes through writes as many line feeds as its texts have, and those at the ends of
its lines. -/
theorem Reaction.feeds {before after : Notebook} {call : Call} {lines : List String}
    {result : Option Series} (reaction : Reaction before call lines (.ok result after)) :
    feeds (String.join (lines.map (· ++ "\n"))) = call.breaks before := by
  rw [feeds_lines]
  cases reaction with
  | begun timestamp sweep endpoints =>
    have header := Heading.feeds_sectionHeader ⟨timestamp, sweep, endpoints⟩
    simp only [List.map_singleton, List.sum_singleton, header, List.length_singleton, Call.breaks]
    omega
  | recorded => rfl
  | committed series point _ complete =>
    obtain ⟨current, -, width⟩ := complete
    simp only [List.map_singleton, List.sum_singleton, feeds_pointLine _ _ width,
      List.length_singleton, Call.breaks, current, Option.elim_some]
    omega
  | finished => rfl
  | aborted =>
    simp only [List.map_singleton, List.sum_singleton, feeds_abortMarker, List.length_singleton,
      Call.breaks]
  | renewed => rfl

/-! ## The lines of sections -/

namespace Section

/-- The lines of a section as they are printed, with the empty line behind them. -/
def printed (written : Section) : List (List Char) :=
  (written.heading.line :: (written.pointLines ++ written.marker)).map String.toList ++ [[]]

/-- The names of the endpoints are among the texts of a heading. -/
theorem feeds_names {heading : Heading} (whole : heading.breaks = 0) :
    ((heading.endpoints.map Endpoint.name).map feeds).sum = 0 := by
  rw [List.sum_eq_zero_iff_forall_eq_nat]
  rw [List.map_map]
  have endpoints : (heading.endpoints.map Endpoint.breaks).sum = 0 := by
    rw [Heading.breaks] at whole
    omega
  rw [List.sum_eq_zero_iff_forall_eq_nat] at endpoints
  intro count member
  obtain ⟨endpoint, among, rfl⟩ := List.mem_map.mp member
  have none := endpoints endpoint.breaks (List.mem_map_of_mem among)
  exact (Nat.add_eq_zero_iff.mp none).1

/-- If its heading breaks no line, a section is printed in whole lines. -/
theorem unbroken_line {written : Section} (fits : written.Fits)
    (whole : written.heading.breaks = 0) :
    ∀ line ∈ written.heading.line :: (written.pointLines ++ written.marker), '\n' ∉ line.toList := by
  have header : '\n' ∉ written.heading.line.toList := by
    rw [← feeds_eq_zero_iff, Heading.feeds_line, whole]
  refine List.forall_mem_cons.mpr ⟨header, List.forall_mem_append.mpr ⟨?_, ?_⟩⟩
  · intro line member
    obtain ⟨position, inside, rfl⟩ := List.getElem_of_mem member
    have bounds := inside
    rw [pointLines, List.length_zipWith] at bounds
    have width := fits.aligned.width written.series.rows[position] (List.getElem_mem _)
    rw [fits.endpoints] at width
    simp only [pointLines, List.getElem_zipWith]
    rw [← feeds_eq_zero_iff, feeds_pointLine _ _ width, feeds_names whole]
  · rw [marker]
    split
    · rw [List.forall_mem_singleton, ← feeds_eq_zero_iff]
      exact feeds_abortMarker _ _
    · exact List.forall_mem_nil _

theorem text_eq (written : Section) :
    written.text = "\n" ++ String.join
      ((written.heading.line :: (written.pointLines ++ written.marker)).map (· ++ "\n")) := by
  rw [text, lines, Heading.sectionHeader_eq, List.map_cons, String.join_cons, List.map_cons,
    String.join_cons, String.append_assoc, String.append_assoc, String.append_assoc]

/-- Behind any text a section adds its lines. -/
theorem lines_append_text (before : String) {written : Section} (fits : written.Fits)
    (whole : written.heading.breaks = 0) :
    Text.lines (before ++ written.text).toList = Text.lines before.toList ++ written.printed := by
  have split : (before ++ written.text).toList = before.toList ++ '\n' :: (String.join
      ((written.heading.line :: (written.pointLines ++ written.marker)).map (· ++ "\n"))).toList := by
    rw [text_eq, String.toList_append, String.toList_append]
    rfl
  rw [split, Text.lines, pieces_append_cut rfl]
  exact congrArg (Text.lines before.toList ++ ·) (lines_join (unbroken_line fits whole))

theorem lines_append_texts {sections : List Section} (fits : ∀ written ∈ sections, written.Fits)
    (whole : ∀ written ∈ sections, written.heading.breaks = 0) (before : String) :
    Text.lines (before ++ String.join (sections.map text)).toList =
      Text.lines before.toList ++ sections.flatMap printed := by
  induction sections generalizing before with
  | nil => simp
  | cons written sections ih =>
    obtain ⟨here, others⟩ := List.forall_mem_cons.mp fits
    obtain ⟨unbroken, rest⟩ := List.forall_mem_cons.mp whole
    rw [List.map_cons, String.join_cons, ← String.append_assoc, ih others rest,
      lines_append_text before here unbroken, List.flatMap_cons, List.append_assoc]

end Section

/-! ## Reading a log by the first words of its lines -/

/-- What a line of a log is. -/
inductive LineKind where
  | header
  | point
  | marker
  | other
  deriving DecidableEq

/-- Whether a line begins with given words. -/
def opensWith (opening : String) (line : List Char) : Bool :=
  opening.toList.isPrefixOf line

/-- What a reader takes a line for by its first words. -/
def LineKind.of (line : List Char) : LineKind :=
  if opensWith "=== " line then .header
  else if opensWith "--- aborted after " line then .marker
  else if Axis.all.any fun axis => opensWith axis.opening line then .point
  else .other

theorem opensWith_append (opening rest : String) :
    opensWith opening (opening ++ rest).toList = true := by
  rw [opensWith, List.isPrefixOf_iff_prefix, String.toList_append]
  exact List.prefix_append _ _

namespace LineKind

theorem of_header (heading : Heading) : of heading.line.toList = .header := by
  rw [of, Heading.line, opensWith_append, if_pos rfl]

theorem of_abortMarker (completed declared : Nat) :
    of (abortMarker completed declared).toList = .marker := by
  have marked : abortMarker completed declared = "--- aborted after " ++
      (toString completed ++ (" of " ++ (toString declared ++ " points ---"))) := by
    rw [abortMarker_eq]
    simp only [String.append_assoc]
  have other : opensWith "=== " (abortMarker completed declared).toList = false := by
    rw [marked, String.toList_append]
    rfl
  rw [of, other, marked, opensWith_append]
  rfl

theorem of_pointLine (axis : Axis) (point : Point) (names : List String) (row : List Sample) :
    of (pointLine axis point names row).toList = .point := by
  have own : (Axis.all.any fun axis' =>
      opensWith axis'.opening (pointLine axis point names row).toList) = true := by
    refine List.any_eq_true.mpr ⟨axis, by cases axis <;> decide, ?_⟩
    rw [pointLine_eq, opensWith_append]
  have others : opensWith "=== " (pointLine axis point names row).toList = false ∧
      opensWith "--- aborted after " (pointLine axis point names row).toList = false := by
    rw [pointLine_eq, String.toList_append]
    cases axis <;> exact ⟨rfl, rfl⟩
  rw [of, others.1, others.2, own]
  rfl

end LineKind

namespace Section

variable {written : Section}

theorem length_pointLines (fits : written.Fits) :
    written.pointLines.length = written.series.rows.length := by
  have room : written.series.rows.length ≤ written.series.sweep.points.length :=
    fits.aligned.points
  rw [fits.sweep] at room
  rw [pointLines, List.length_zipWith]
  omega

/-- Behind the header the lines of the rows come in order. -/
theorem getElem?_printed {position : Nat} {point : Point} {row : List Sample}
    (declared : written.heading.sweep.points[position]? = some point)
    (committed : written.series.rows[position]? = some row) :
    written.printed[position + 1]? = some (pointLine written.heading.sweep.axis point
      (written.heading.endpoints.map Endpoint.name) row).toList := by
  have line : written.pointLines[position]? = some (pointLine written.heading.sweep.axis point
      (written.heading.endpoints.map Endpoint.name) row) := by
    rw [pointLines, List.getElem?_zipWith, declared, committed]
  have inside : position < written.pointLines.length := (List.getElem?_eq_some_iff.mp line).1
  have among : ((written.pointLines ++ written.marker).map String.toList)[position]? =
      some (pointLine written.heading.sweep.axis point
        (written.heading.endpoints.map Endpoint.name) row).toList := by
    rw [List.getElem?_map, List.getElem?_append_left inside, line]
    rfl
  have length : position < ((written.pointLines ++ written.marker).map String.toList).length :=
    (List.getElem?_eq_some_iff.mp among).1
  rw [printed, List.map_cons, List.cons_append, List.getElem?_cons_succ,
    List.getElem?_append_left length, among]

/-- A section is read as one header, one point for each row, and a marker if it was interrupted. -/
theorem kinds_printed (fits : written.Fits) :
    written.printed.map LineKind.of =
      .header :: (List.replicate written.series.rows.length .point ++
        (if written.aborted then [.marker] else []) ++ [.other]) := by
  have points : (written.pointLines.map String.toList).map LineKind.of =
      List.replicate written.series.rows.length .point := by
    rw [List.eq_replicate_iff, List.length_map, List.length_map, length_pointLines fits]
    refine ⟨rfl, fun kind member => ?_⟩
    obtain ⟨line, among, rfl⟩ := List.mem_map.mp member
    obtain ⟨shown, held, rfl⟩ := List.mem_map.mp among
    obtain ⟨position, inside, rfl⟩ := List.getElem_of_mem held
    simp only [pointLines, List.getElem_zipWith]
    exact LineKind.of_pointLine _ _ _ _
  have marker : (written.marker.map String.toList).map LineKind.of =
      if written.aborted then [.marker] else [] := by
    rw [Section.marker]
    split
    · rw [List.map_singleton, List.map_singleton, LineKind.of_abortMarker]
    · rfl
  rw [printed, List.map_append, List.map_cons, List.map_cons, LineKind.of_header, List.map_append,
    List.map_append, points, marker]
  rfl

end Section

/-! ## The lines of a log -/

/-- The sweep in progress has the names of a heading that was begun. -/
theorem Mirrors.names_of_busy {initial : String} {notebook : Notebook} {book : Logbook}
    (mirrors : Mirrors initial notebook book) {series : Series}
    (current : notebook.current = some series) :
    ∃ heading ∈ book.begun, series.endpoints = heading.endpoints.map Endpoint.name := by
  obtain ⟨heading, -, fits, told⟩ := mirrors.heading_of_busy current
  refine ⟨heading, ?_, fits.endpoints⟩
  rw [← told.begun]
  simp

/-- **The log breaks where its headings do.** After any calls on notebooks of one path, in a tree
with room, a beginning adds two line feeds, a committed point one and an interruption one, and apart
from these as many as titles, names and hosts hold.  If those of all sweeps that were begun hold
none, each committed point adds exactly one, the lines of the log are those of its first text and of
its sections, the line of each row stands as far behind the header as the row in its series, and
going by first words shows the headers, points and markers that there are. -/
theorem log_breaks_where_headings_do (logPath : String) (files : FileTree)
    (room : files.room = none) (calls : List Call) :
    let chronicle := (Chronicle.fresh logPath files).run calls
    let notebook := chronicle.notebook
    (∀ call result after, Call.action call notebook = .ok result after →
        feeds after.logText = feeds notebook.logText + call.breaks notebook) ∧
      ((∀ heading ∈ chronicle.book.begun, heading.breaks = 0) →
        (∀ result after, Call.action .commit notebook = .ok result after →
          feeds after.logText = feeds notebook.logText + 1) ∧
        lines notebook.logText.toList =
          lines (Notebook.fresh logPath files).logText.toList ++
            chronicle.sections.flatMap Section.printed ∧
        ∀ written ∈ chronicle.sections,
          (∀ position point row, written.heading.sweep.points[position]? = some point →
            written.series.rows[position]? = some row →
              written.printed[position + 1]? = some (pointLine written.heading.sweep.axis point
                (written.heading.endpoints.map Endpoint.name) row).toList) ∧
          written.printed.map LineKind.of =
            .header :: (List.replicate written.series.rows.length .point ++
              (if written.aborted then [.marker] else []) ++ [.other])) := by
  intro chronicle notebook
  have kept : Chronicle.Kept (Notebook.fresh logPath files).logText chronicle :=
    (Chronicle.kept_fresh logPath room).run calls
  have adds : ∀ call result after, Call.action call notebook = .ok result after →
      feeds after.logText = feeds notebook.logText + call.breaks notebook := by
    intro call result after went
    obtain ⟨added, reacts⟩ := reaction notebook call
    have same : call.action.run notebook = .ok result after := went
    rw [same] at reacts
    have text : after.logText = _ := reacts.text kept.sound kept.reliable
    rw [text, feeds_append, reacts.feeds]
  refine ⟨adds, fun whole => ⟨?_, ?_, ?_⟩⟩
  · intro result after went
    rw [adds .commit result after went, Call.breaks]
    cases current : notebook.current with
    | none => rfl
    | some series =>
      obtain ⟨heading, begun, names⟩ := kept.mirrors.names_of_busy current
      rw [Option.elim_some, names, Section.feeds_names (whole heading begun)]
  · obtain ⟨fits, begun, text⟩ := kept.mirrors.told
    have each : ∀ written ∈ chronicle.sections, written.heading.breaks = 0 := by
      intro written member
      apply whole
      rw [← begun]
      exact List.mem_map_of_mem member
    have logText : notebook.logText = _ := text
    rw [logText]
    exact Section.lines_append_texts fits each _
  · intro written member
    exact ⟨fun _ _ _ declared committed => Section.getElem?_printed declared committed,
      Section.kinds_printed (kept.mirrors.told.fits written member)⟩

/-- An interrupted sweep whose texts break no line is read back from the log. -/
theorem log_of_interruption_is_read :
    let chronicle := (Chronicle.fresh "log.txt" .empty).run interruption
    lines chronicle.notebook.logText.toList =
        lines (Notebook.fresh "log.txt" .empty).logText.toList ++
          chronicle.sections.flatMap Section.printed ∧
      ∃ result after,
        Call.action (.begin "12:05" default []) chronicle.notebook = .ok result after ∧
          feeds after.logText = feeds chronicle.notebook.logText + 2 := by
  intro chronicle
  obtain ⟨adds, readable⟩ := log_breaks_where_headings_do "log.txt" .empty rfl interruption
  have whole : ∀ heading ∈ chronicle.book.begun, heading.breaks = 0 := by decide +kernel
  have succeeds : Call.Result.succeeded
      (Call.action (.begin "12:05" default []) chronicle.notebook) = true := by
    decide +kernel
  refine ⟨(readable whole).2.1, ?_⟩
  cases went : Call.action (.begin "12:05" default []) chronicle.notebook with
  | error fault after =>
    rw [went] at succeeds
    cases succeeds
  | ok result after => exact ⟨result, after, rfl, adds _ _ _ went⟩

/-- Settings in which a title and a name hold line feeds, with the first words of a point and of a
marker behind them. -/
def brokenSettings : Settings where
  endpoints := [⟨"redis\n--- aborted after 0 of 1 points ---", Endpoint.loopback, 6378⟩]
  sweeps :=
    [{ name := "get", title := "GET sweep\nClient Sessions: 8", operation := .get, axis := .clients
       values := [1], clients := 1, pipeline := 1, requests := .fixed 10 }]

/-- The settings are valid.  A beginning adds four line feeds and a committed point two, and the log
of the one point, which was not interrupted, is read as two points and two markers. -/
theorem valid_settings_forge_lines :
    brokenSettings.validate = .ok () ∧ ∃ sweep endpoint,
      brokenSettings.resolveSweeps [] = .ok [sweep] ∧ brokenSettings.endpoints = [endpoint] ∧
      let begun := (Chronicle.fresh "log.txt" .empty).run [.begin "12:00" sweep [endpoint]]
      let committed := begun.run [.record 0 endpoint .empty, .commit]
      feeds (Notebook.fresh "log.txt" .empty).logText = 0 ∧
      feeds begun.notebook.logText = 4 ∧ feeds committed.notebook.logText = 6 ∧
      committed.sections.map (fun written => (written.series.rows.length, written.aborted)) =
        [(1, false)] ∧
      (lines committed.notebook.logText.toList).map LineKind.of =
        [.other, .header, .point, .marker, .point, .marker, .other] :=
  ⟨by decide, _, _, rfl, rfl, by decide +kernel⟩

end LoadSweep
