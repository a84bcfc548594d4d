import LoadSweep.Proofs.Recording.Calls

/-!
# The sections of the log

The log has one section for each sweep that was begun: its header, one line for each row of its
series, and a marker if the sweep was interrupted.  A logbook is kept by someone who sees the calls
and what they yield: the headings of all sweeps that were begun, the sections of those that have
ended, and the heading of the one in progress.  A chronicle is a notebook with its logbook.

When a point is committed its line is written before its row is added, so the two agree only because
the row cannot be refused any more (`Notebook.push_of_completes`).  With that, every reaction of a
reliable notebook does to the text of the log what it does to the sections (`Mirrors.react`), and
the log is its first text followed by the sections (`log_is_sections`).
-/

namespace LoadSweep

set_option autoImplicit false

open Call (Result)

/-- What a section of the log is about. -/
structure Heading where
  timestamp : String
  sweep : Sweep
  endpoints : List Endpoint

/-- A section of the log: a sweep that was begun, what it has yielded, and whether it was
interrupted. -/
structure Section where
  heading : Heading
  series : Series
  aborted : Bool

namespace Section

/-- The line that an interrupted sweep leaves at the end of its section. -/
def marker (written : Section) : List String :=
  if written.aborted then
    [abortMarker written.series.rows.length written.heading.sweep.points.length]
  else []

/-- The line of each row. -/
def pointLines (written : Section) : List String :=
  List.zipWith
    (fun point row => pointLine written.heading.sweep.axis point
      (written.heading.endpoints.map Endpoint.name) row)
    written.heading.sweep.points written.series.rows

/-- The lines of a section. -/
def lines (written : Section) : List String :=
  sectionHeader written.heading.timestamp written.heading.sweep.title written.heading.endpoints ::
    (written.pointLines ++ written.marker)

/-- The text of a section: every line ends with a line break. -/
def text (written : Section) : String :=
  String.join (written.lines.map (· ++ "\n"))

/-- The series of a section is that of its heading: no row is without a point or too short. -/
structure Fits (written : Section) : Prop where
  sweep : written.series.sweep = written.heading.sweep
  endpoints : written.series.endpoints = written.heading.endpoints.map Endpoint.name
  aligned : written.series.Aligned

end Section

/-- What is known of a log from the calls alone. -/
structure Logbook where
  /-- The headings of all sweeps that were begun. -/
  begun : List Heading
  ended : List Section
  /-- The heading of the sweep in progress. -/
  opened : Option Heading

namespace Logbook

/-- A logbook without entries. -/
def empty : Logbook := ⟨[], [], none⟩

/-- The logbook once the sweep in progress has ended with a series. -/
def close (book : Logbook) (series : Option Series) (aborted : Bool) : Logbook :=
  match book.opened, series with
  | some heading, some series =>
    { book with ended := book.ended ++ [⟨heading, series, aborted⟩], opened := none }
  | _, _ => { book with opened := none }

/-- The sections of the log, of which the last may be still in progress. -/
def sections (book : Logbook) (current : Option Series) : List Section :=
  (book.close current false).ended

/-- The logbook after a call. -/
def follow (book : Logbook) (before : Notebook) : Call → Result → Logbook
  | .begin timestamp sweep endpoints, .ok .. =>
    { book with
      begun := book.begun ++ [⟨timestamp, sweep, endpoints⟩]
      opened := some ⟨timestamp, sweep, endpoints⟩ }
  | .finish, .ok series _ => book.close series false
  | .abort, .ok series _ => book.close series true
  | .renew, _ => book.close before.current false
  | _, _ => book

end Logbook

/-- A notebook and the logbook kept beside it. -/
structure Chronicle where
  notebook : Notebook
  book : Logbook

namespace Chronicle

/-- A chronicle with a new notebook. -/
def fresh (logPath : String) (files : FileTree) : Chronicle :=
  ⟨.fresh logPath files, .empty⟩

/-- A chronicle after a call. -/
def take (chronicle : Chronicle) (call : Call) : Chronicle :=
  let result := call.action.run chronicle.notebook
  ⟨Result.notebook result, chronicle.book.follow chronicle.notebook call result⟩

/-- A chronicle after calls in order. -/
def run (chronicle : Chronicle) (calls : List Call) : Chronicle :=
  calls.foldl take chronicle

/-- The sections of the log. -/
def sections (chronicle : Chronicle) : List Section :=
  chronicle.book.sections chronicle.notebook.current

end Chronicle

/-! ## Texts of sections -/

namespace Section

/-- A section starts as its header alone. -/
theorem text_start (heading : Heading) (names : List String) :
    text ⟨heading, .start heading.sweep names, false⟩ =
      sectionHeader heading.timestamp heading.sweep.title heading.endpoints ++ "\n" := by
  simp [text, lines, pointLines, marker, Series.start]

/-- A row adds its line. -/
theorem text_push {heading : Heading} {series : Series} (fits : Fits ⟨heading, series, false⟩)
    {point : Point} (declared : series.sweep.points[series.length]? = some point)
    (row : List Sample) :
    text ⟨heading, { series with rows := series.rows ++ [row] }, false⟩ =
      text ⟨heading, series, false⟩ ++
        (pointLine series.sweep.axis point series.endpoints row ++ "\n") := by
  have sweep : series.sweep = heading.sweep := fits.sweep
  have endpoints : series.endpoints = heading.endpoints.map Endpoint.name := fits.endpoints
  rw [sweep] at declared
  have line : pointLines ⟨heading, { series with rows := series.rows ++ [row] }, false⟩ =
      pointLines ⟨heading, series, false⟩ ++
        [pointLine heading.sweep.axis point (heading.endpoints.map Endpoint.name) row] :=
    Series.zipWith_append_singleton _ declared row
  have same : pointLine series.sweep.axis point series.endpoints row =
      pointLine heading.sweep.axis point (heading.endpoints.map Endpoint.name) row := by
    rw [sweep, endpoints]
  rw [same]
  simp [text, lines, marker, line, String.append_assoc]

/-- An interruption adds the marker. -/
theorem text_abort (heading : Heading) (series : Series) :
    text ⟨heading, series, true⟩ = text ⟨heading, series, false⟩ ++
      (abortMarker series.length heading.sweep.length ++ "\n") := by
  simp [text, lines, pointLines, marker, Series.length, Sweep.length, String.append_assoc]

end Section

/-! ## Logbooks -/

namespace Logbook

theorem close_idle {book : Logbook} (idle : book.opened = none) (series : Option Series)
    (aborted : Bool) : book.close series aborted = book := by
  obtain ⟨begun, ended, opened⟩ := book
  cases idle
  rfl

theorem close_busy {book : Logbook} {heading : Heading} (busy : book.opened = some heading)
    (series : Series) (aborted : Bool) :
    book.close (some series) aborted =
      ⟨book.begun, book.ended ++ [⟨heading, series, aborted⟩], none⟩ := by
  simp only [close, busy]

theorem sections_idle {book : Logbook} (idle : book.opened = none) (current : Option Series) :
    book.sections current = book.ended := by
  rw [sections, close_idle idle]

theorem sections_busy {book : Logbook} {heading : Heading} (busy : book.opened = some heading)
    (series : Series) :
    book.sections (some series) = book.ended ++ [⟨heading, series, false⟩] := by
  rw [sections, close_busy busy]

/-- Only a call that goes through, or a new notebook, enters a logbook. -/
theorem follow_failed (book : Logbook) (before after : Notebook) {call : Call}
    (ordinary : call ≠ .renew) (fault : Fault) :
    book.follow before call (.error fault after) = book := by
  cases call with
  | renew => exact absurd rfl ordinary
  | _ => rfl

end Logbook

/-- Sections, one for each heading, make up a text after an initial one. -/
structure Tells (initial : String) (sections : List Section) (begun : List Heading)
    (text : String) : Prop where
  fits : ∀ written ∈ sections, written.Fits
  begun : sections.map Section.heading = begun
  text : text = initial ++ String.join (sections.map Section.text)

namespace Tells

variable {initial text : String} {sections : List Section} {begun : List Heading}

/-- A new section adds its text. -/
theorem append (told : Tells initial sections begun text) {written : Section}
    (fits : written.Fits) :
    Tells initial (sections ++ [written]) (begun ++ [written.heading]) (text ++ written.text) where
  fits := List.forall_mem_append.mpr ⟨told.fits, List.forall_mem_singleton.mpr fits⟩
  begun := by rw [List.map_append, told.begun, List.map_singleton]
  text := by
    rw [told.text, List.map_append, String.join_append, List.map_singleton, String.append_assoc]
    simp

/-- A last section that grows adds the same to the whole. -/
theorem grow {last next : Section} (told : Tells initial (sections ++ [last]) begun text)
    (fits : next.Fits) (heading : next.heading = last.heading) {added : String}
    (grown : next.text = last.text ++ added) :
    Tells initial (sections ++ [next]) begun (text ++ added) where
  fits := by
    have others := (List.forall_mem_append.mp told.fits).1
    exact List.forall_mem_append.mpr ⟨others, List.forall_mem_singleton.mpr fits⟩
  begun := by
    rw [← told.begun, List.map_append, List.map_append, List.map_singleton, List.map_singleton,
      heading]
  text := by
    rw [told.text]
    simp [grown, String.append_assoc]

end Tells

/-! ## The log mirrors the series -/

/-- The heading of the sweep in progress fits its series. -/
inductive Opens : Option Heading → Option Series → Prop where
  | idle : Opens none none
  | busy (heading : Heading) (series : Series) (fits : Section.Fits ⟨heading, series, false⟩) :
      Opens (some heading) (some series)

/-- The log of a notebook is an initial text followed by the sections of a logbook. -/
structure Mirrors (initial : String) (notebook : Notebook) (book : Logbook) : Prop where
  opens : Opens book.opened notebook.current
  told : Tells initial (book.sections notebook.current) book.begun notebook.logText

namespace Mirrors

variable {initial : String} {before : Notebook} {book : Logbook}

/-- Only the sweep in progress and the text matter. -/
theorem congr (mirrors : Mirrors initial before book) {after : Notebook}
    (current : after.current = before.current) (text : after.logText = before.logText) :
    Mirrors initial after book := by
  refine ⟨?_, ?_⟩
  · rw [current]
    exact mirrors.opens
  · rw [current, text]
    exact mirrors.told

theorem heading_of_busy (mirrors : Mirrors initial before book) {series : Series}
    (current : before.current = some series) :
    ∃ heading, book.opened = some heading ∧ Section.Fits ⟨heading, series, false⟩ ∧
      Tells initial (book.ended ++ [⟨heading, series, false⟩]) book.begun before.logText := by
  obtain ⟨opens, told⟩ := mirrors
  rw [current] at opens told
  generalize state : book.opened = opened at opens
  cases opens with
  | busy heading _ fits =>
    rw [Logbook.sections_busy state] at told
    exact ⟨heading, rfl, fits, told⟩

theorem opened_of_idle (mirrors : Mirrors initial before book) (idle : before.current = none) :
    book.opened = none ∧ Tells initial book.ended book.begun before.logText := by
  obtain ⟨opens, told⟩ := mirrors
  rw [idle] at opens told
  generalize state : book.opened = opened at opens
  cases opens with
  | idle =>
    rw [Logbook.sections_idle state] at told
    exact ⟨rfl, told⟩

theorem of_busy {after : Notebook} {heading : Heading} {series : Series}
    (opened : book.opened = some heading) (current : after.current = some series)
    (fits : Section.Fits ⟨heading, series, false⟩)
    (told : Tells initial (book.ended ++ [⟨heading, series, false⟩]) book.begun after.logText) :
    Mirrors initial after book := by
  refine ⟨?_, ?_⟩
  · rw [opened, current]
    exact .busy heading series fits
  · rw [current, Logbook.sections_busy opened]
    exact told

theorem of_idle {after : Notebook} (opened : book.opened = none) (current : after.current = none)
    (told : Tells initial book.ended book.begun after.logText) : Mirrors initial after book := by
  refine ⟨?_, ?_⟩
  · rw [opened, current]
    exact .idle
  · rw [Logbook.sections_idle opened]
    exact told

/-- The sweep in progress ends, with a marker or without. -/
theorem close (mirrors : Mirrors initial before book) {series : Series}
    (current : before.current = some series) {after : Notebook} (ended : after.current = none)
    {aborted : Bool} {added : String} (text : after.logText = before.logText ++ added)
    (grown : ∀ heading, Section.Fits ⟨heading, series, false⟩ →
      Section.text ⟨heading, series, aborted⟩ = Section.text ⟨heading, series, false⟩ ++ added) :
    Mirrors initial after (book.close (some series) aborted) := by
  obtain ⟨heading, opened, fits, told⟩ := mirrors.heading_of_busy current
  rw [Logbook.close_busy opened]
  refine of_idle rfl ended ?_
  rw [text]
  have last : Section.Fits ⟨heading, series, aborted⟩ :=
    ⟨fits.sweep, fits.endpoints, fits.aligned⟩
  exact told.grow last rfl (grown heading fits)

/-- A reaction does to the text of the log what it does to the sections. -/
theorem react (mirrors : Mirrors initial before book) {call : Call} {lines : List String}
    {result : Result} (reaction : Reaction before call lines result) (sound : before.Sound)
    (reliable : before.Reliable) :
    Mirrors initial result.notebook (book.follow before call result) := by
  have text := reaction.text sound reliable
  have aligned := (reaction.sound sound).aligned
  cases reaction with
  | refused call fault ordinary =>
    rw [Logbook.follow_failed _ _ _ ordinary.2]
    exact mirrors
  | unheaded => exact mirrors.congr rfl (by simpa using text)
  | begun timestamp sweep endpoints files idle =>
    obtain ⟨-, told⟩ := mirrors.opened_of_idle idle
    have fits : Section.Fits
        ⟨⟨timestamp, sweep, endpoints⟩, .start sweep (endpoints.map Endpoint.name), false⟩ :=
      ⟨rfl, rfl, Series.aligned_start ..⟩
    have more := told.append fits
    rw [Section.text_start ⟨timestamp, sweep, endpoints⟩] at more
    refine of_busy rfl rfl fits ?_
    rw [text]
    simpa [Logbook.follow] using more
  | recorded => exact mirrors.congr rfl (by simpa using text)
  | unwritten _ _ _ _ _ complete lost => exact absurd lost (sound.not_lost reliable complete.1)
  | committed series point files complete =>
    -- The line and the row belong to the same point: the first without a row.
    obtain ⟨current, declared, -⟩ := complete
    obtain ⟨heading, opened, fits, told⟩ := mirrors.heading_of_busy current
    have next : Section.Fits
        ⟨heading, { series with rows := series.rows ++ [before.pending] }, false⟩ :=
      ⟨fits.sweep, fits.endpoints, aligned _ rfl⟩
    have more := told.grow next rfl (Section.text_push fits declared before.pending)
    refine of_busy opened rfl next ?_
    rw [text]
    simpa [Logbook.follow] using more
  | finished series current => exact mirrors.close current rfl text fun _ _ => by simp
  | unmarked _ _ _ _ current lost => exact absurd lost (sound.not_lost reliable current)
  | aborted series files current =>
    refine mirrors.close current rfl text fun heading fits => ?_
    have sweep : series.sweep = heading.sweep := fits.sweep
    rw [Section.text_abort, sweep]
    simp
  | nothingToAbort => exact mirrors.congr rfl (by simpa using text)
  | renewed =>
    -- A sweep that is left behind by a new notebook keeps its section, without a marker.
    change Mirrors initial before.renew (book.close before.current false)
    cases current : before.current with
    | none =>
      obtain ⟨opened, told⟩ := mirrors.opened_of_idle current
      rw [Logbook.close_idle opened]
      exact of_idle opened rfl told
    | some series => exact mirrors.close current rfl text fun _ _ => by simp

end Mirrors

namespace Chronicle

/-- What holds of a chronicle after every call. -/
structure Kept (initial : String) (chronicle : Chronicle) : Prop where
  sound : chronicle.notebook.Sound
  reliable : chronicle.notebook.Reliable
  mirrors : Mirrors initial chronicle.notebook chronicle.book

theorem kept_fresh (logPath : String) {files : FileTree} (room : files.room = none) :
    Kept (Notebook.fresh logPath files).logText (fresh logPath files) where
  sound := Notebook.sound_fresh logPath files
  reliable := ⟨room, nofun⟩
  mirrors := .of_idle rfl rfl ⟨nofun, rfl, by simp [fresh, Logbook.empty]⟩

theorem Kept.take {initial : String} {chronicle : Chronicle} (kept : Kept initial chronicle)
    (call : Call) : Kept initial (chronicle.take call) := by
  obtain ⟨sound, reliable, mirrors⟩ := kept
  obtain ⟨lines, reacts⟩ := reaction chronicle.notebook call
  exact ⟨reacts.sound sound, (reacts.extends sound reliable).reliable reliable,
    mirrors.react reacts sound reliable⟩

theorem Kept.run {initial : String} {chronicle : Chronicle} (kept : Kept initial chronicle)
    (calls : List Call) : Kept initial (chronicle.run calls) := by
  induction calls generalizing chronicle with
  | nil => exact kept
  | cons call calls ih => exact ih (kept.take call)

/-- A call that fails leaves the text of the log alone. -/
theorem Kept.failed {initial : String} {chronicle : Chronicle} (kept : Kept initial chronicle)
    {call : Call} {fault : Fault} {after : Notebook}
    (failed : call.action.run chronicle.notebook = .error fault after) :
    after.logText = chronicle.notebook.logText := by
  obtain ⟨lines, reacts⟩ := reaction chronicle.notebook call
  rw [failed] at reacts
  have text : after.logText = _ := reacts.text kept.sound kept.reliable
  rw [text, reacts.lines_of_failed]
  simp

/-- What is in the log stays there. -/
theorem Kept.grows {initial : String} {chronicle : Chronicle} (kept : Kept initial chronicle)
    (calls : List Call) :
    ∃ added, (chronicle.run calls).notebook.logText = chronicle.notebook.logText ++ added := by
  induction calls generalizing chronicle with
  | nil => exact ⟨"", String.append_empty.symm⟩
  | cons call calls ih =>
    obtain ⟨lines, reacts⟩ := reaction chronicle.notebook call
    have first : (chronicle.take call).notebook.logText = _ :=
      reacts.text kept.sound kept.reliable
    obtain ⟨later, grown⟩ := ih (kept.take call)
    refine ⟨String.join (lines.map (· ++ "\n")) ++ later, ?_⟩
    rw [← String.append_assoc, ← first]
    exact grown

end Chronicle

/-- **The log is its first text and one section for each sweep that was begun.** After any calls on
notebooks of one path, in a tree with room: the sections come in the order in which the sweeps were
begun, and each has the lines of exactly the rows that its series holds.  A call that fails writes
nothing, and no call changes what is already in the log. -/
theorem log_is_sections (logPath : String) (files : FileTree) (room : files.room = none)
    (calls : List Call) :
    let chronicle := (Chronicle.fresh logPath files).run calls
    chronicle.notebook.logText =
        (Notebook.fresh logPath files).logText ++
          String.join (chronicle.sections.map Section.text) ∧
      chronicle.sections.map Section.heading = chronicle.book.begun ∧
      (∀ written ∈ chronicle.sections, written.Fits) ∧
      (∀ call fault after, Call.action call chronicle.notebook = .error fault after →
        after.logText = chronicle.notebook.logText) ∧
      ∀ more, ∃ added,
        (chronicle.run more).notebook.logText = chronicle.notebook.logText ++ added := by
  intro chronicle
  have kept : Chronicle.Kept (Notebook.fresh logPath files).logText chronicle :=
    (Chronicle.kept_fresh logPath room).run calls
  obtain ⟨fits, begun, text⟩ := kept.mirrors.told
  exact ⟨text, begun, fits, fun call fault after failed => kept.failed failed, kept.grows⟩

/-- One of two points is committed, after a call out of order, and the sweep is interrupted. -/
def interruption : List Call :=
  let endpoint : Endpoint := ⟨"redis", "127.0.0.1", 6378⟩
  let sweep : Sweep := ⟨"get", "GET sweep", .get, .clients, [⟨1, 1, 10⟩, ⟨8, 1, 10⟩]⟩
  [.begin "12:00" sweep [endpoint], .record 0 endpoint .empty, .finish, .commit, .abort]

/-- In a new tree the log of an interruption has a header, the line of one point and a marker. -/
theorem log_of_interruption :
    FileTree.empty.room = none ∧
      ((Chronicle.fresh "log.txt" .empty).run interruption).notebook.logText =
        "\n=== 12:00 | GET sweep | redis=127.0.0.1:6378 ===\n"
          ++ "Client Sessions: 1 | redis: throughput=n/a p50=n/a\n"
          ++ "--- aborted after 1 of 2 points ---\n" :=
  ⟨rfl, (log_is_sections "log.txt" .empty rfl interruption).1.trans (by decide +kernel)⟩

end LoadSweep
