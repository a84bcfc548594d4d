import LoadSweep.Proofs.Json.Scalars
import LoadSweep.Proofs.Report.Agreement
import LoadSweep.Proofs.Report.ComparisonLists
import LoadSweep.Proofs.Series.Comparisons
import LoadSweep.Report.Console
import Mathlib.Algebra.GroupWithZero.Nat

/-!
# Comparisons on the console

The console tells a comparison by a summary and a line for each point.  A name of an endpoint may be
anything, a line for a point and its feed included; so the counts of a summary are read behind the
heading that is known (`readCounts?_consoleText`), and the lines of the points are the last ones
(`readLines?_consoleText`).

A page and the console render the same comparisons on their own, and what is read of one agrees with
what is read of the other (`page_and_console_tell_alike`).
-/

namespace LoadSweep

open Text Markup

set_option autoImplicit false

/-! ## Reading lines of points -/

/-- A line for a point as it is read: the mark in brackets, the label before the colon, and the text
behind it. -/
structure PointLine where
  mark : String
  category : String
  change : String
  deriving Repr, DecidableEq

namespace PointLine

/-- Reads a line for a point. -/
def read? : List Char → Option PointLine
  | ' ' :: ' ' :: '[' :: mark :: ']' :: ' ' :: text =>
    (splitFirst? (· == ':') text).map fun (label, change) =>
      ⟨String.singleton mark, String.ofList (trim label), String.ofList (trim change)⟩
  | _ => none

/-- What the line for a compared point says. -/
def ofPoint (point : PointComparison) : PointLine :=
  ⟨point.verdict.mark, point.category, point.consoleChange⟩

end PointLine

/-- The lines for the points at the end of a text. -/
def readLines? (count : Nat) (text : String) : Option (List PointLine) :=
  (lastLines count text).mapM PointLine.read?

/-- The console formats a change on its own, as a page does. -/
theorem PointComparison.consoleChange_eq (point : PointComparison) :
    point.consoleChange = Page.changeText point.change :=
  rfl

theorem PointComparison.numeric_consoleChange (point : PointComparison) :
    Numeric point.consoleChange := by
  rw [consoleChange_eq]
  exact Page.numeric_changeText point.change

/-- The line for a compared point, without its line feed. -/
def PointComparison.line (point : PointComparison) : String :=
  s!"  [{point.verdict.mark}] {padStart 6 point.category}: {point.consoleChange}"

theorem PointComparison.consoleLine_eq (point : PointComparison) :
    point.consoleLine = point.line ++ "\n" :=
  rfl

/-- The marks of verdicts. -/
def verdictMarks : List Char :=
  ['+', '-', '=', '?']

theorem Verdict.mark_eq_singleton (verdict : Verdict) :
    ∃ mark ∈ verdictMarks, verdict.mark = String.singleton mark := by
  cases verdict with
  | better => exact ⟨'+', by simp [verdictMarks], rfl⟩
  | worse => exact ⟨'-', by simp [verdictMarks], rfl⟩
  | equal => exact ⟨'=', by simp [verdictMarks], rfl⟩
  | missing => exact ⟨'?', by simp [verdictMarks], rfl⟩

theorem PointComparison.toList_line (point : PointComparison) :
    ∃ mark ∈ verdictMarks, point.verdict.mark = String.singleton mark ∧
      point.line.toList = ' ' :: ' ' :: '[' :: mark :: ']' :: ' ' ::
        ((padStart 6 point.category).toList ++ ':' :: ' ' :: point.consoleChange.toList) := by
  obtain ⟨mark, known, single⟩ := point.verdict.mark_eq_singleton
  refine ⟨mark, known, single, ?_⟩
  rw [line, single]
  simp [toString]

section Lines

variable {point : PointComparison} (numeric : Numeric point.category)

include numeric

theorem PointComparison.unbroken_line : '\n' ∉ point.line.toList := by
  obtain ⟨mark, known, -, characters⟩ := point.toList_line
  have other : mark ≠ '\n' := by
    rintro rfl
    simp [verdictMarks] at known
  have label : '\n' ∉ (padStart 6 point.category).toList :=
    (fills_padStart 6 point.category).not_mem (by decide) (numeric.not_mem (by decide))
  have change : '\n' ∉ point.consoleChange.toList :=
    point.numeric_consoleChange.not_mem (by decide)
  rw [characters]
  simp [label, change, Ne.symm other]

/-- A line for a point is read back if the label is numeric. -/
theorem PointLine.read?_line : read? point.line.toList = some (ofPoint point) := by
  obtain ⟨mark, -, single, characters⟩ := point.toList_line
  have fills := fills_padStart 6 point.category
  have nothing : ∀ c ∈ ([] : List Char), c = ' ' := List.forall_mem_nil _
  have label : trim (padStart 6 point.category).toList = point.category.toList := by
    have padded := fills.trim_eq numeric nothing nothing
    rwa [List.nil_append, List.append_nil] at padded
  have change : trim (' ' :: point.consoleChange.toList) =
      point.consoleChange.toList := by
    have whole : Fills point.consoleChange point.consoleChange := ⟨[], nothing, rfl⟩
    have padded : trim ([' '] ++ point.consoleChange.toList ++ []) = _ :=
      whole.trim_eq point.numeric_consoleChange (List.forall_mem_singleton.mpr rfl) nothing
    rwa [List.append_nil] at padded
  have uncut : ':' ∉ (padStart 6 point.category).toList :=
    fills.not_mem (by decide) (numeric.not_mem (by decide))
  rw [characters, read?, splitFirst?_at_iff.mpr ⟨rfl, uncut⟩, Option.map_some]
  dsimp only
  rw [label, change, String.ofList_toList, String.ofList_toList, ← single]
  rfl

end Lines

/-- The lines of the points are read back, whatever is in the summary. -/
theorem readLines?_consoleText {compared : Comparison}
    (numeric : ∀ point ∈ compared.points, Numeric point.category) :
    readLines? compared.points.length compared.consoleText =
      some (compared.points.map PointLine.ofPoint) := by
  have unbroken : ∀ line ∈ compared.points.map PointComparison.line, '\n' ∉ line.toList := by
    intro line member
    obtain ⟨point, held, rfl⟩ := List.mem_map.mp member
    exact PointComparison.unbroken_line (numeric point held)
  have written : compared.consoleText = compared.summary ++ "\n" ++
      String.join ((compared.points.map PointComparison.line).map (· ++ "\n")) := by
    rw [Comparison.consoleText, List.map_map,
      List.map_congr_left fun point _ => point.consoleLine_eq]
    rfl
  have last := lastLines_append unbroken written
  rw [List.length_map, List.map_map] at last
  rw [readLines?, last, List.mapM_map]
  exact mapM_of_reads fun point held => PointLine.read?_line (numeric point held)

/-! ## Reading summaries -/

/-- A number with a given text behind it, and what follows that. -/
def readCount? (behind : String) (text : List Char) : Option (Nat × List Char) :=
  (readNatural? (text.takeWhile Char.isDigit)).bind fun count =>
    (stripOpening? behind.toList (text.dropWhile Char.isDigit)).map fun rest => (count, rest)

/-- The numbers of better and of worse points behind the heading of a summary. -/
def readCounts? (heading : String) (text : List Char) : Option (Nat × Nat) :=
  (stripOpening? (heading ++ ": ").toList text).bind fun counts =>
    (readCount? " better, " counts).bind fun (wins, others) =>
      (readCount? " worse" others).map fun (losses, _) => (wins, losses)

theorem readCount?_written (count : Nat) {behind : String} {first : Char} {others : List Char}
    (begins : behind.toList = first :: others) (apart : first.isDigit = false)
    (rest : List Char) :
    readCount? behind ((toString count).toList ++ (behind.toList ++ rest)) =
      some (count, rest) := by
  have digits : ∀ c ∈ (toString count).toList, c.isDigit = true := by
    rw [toList_toString]
    exact fun _ => isDigit_of_toDigits
  have ends : ∀ c ∈ (behind.toList ++ rest).head?, c.isDigit = false := by
    rw [begins]
    rintro c ⟨⟩
    exact apart
  obtain ⟨taken, left⟩ := span_until digits ends
  rw [readCount?, taken, left, toList_toString, readNatural?_toDigits, stripOpening?_append]
  rfl

/-- What a summary says of the mean, if there is one. -/
def Comparison.meanText (compared : Comparison) : String :=
  match compared.meanChange with
  | some mean => s!", mean change {Number.fixedSigned .always 1 mean}%"
  | none => ""

/-- A summary begins with its heading and the counts. -/
theorem Comparison.summary_eq (compared : Comparison) :
    compared.summary = Page.heading compared ++ ": " ++ toString compared.wins ++ " better, "
      ++ toString compared.losses ++ " worse" ++ compared.meanText := by
  have parts : compared.summary =
      s!"{compared.candidate} vs {compared.baseline} ({compared.metric.label}): "
        ++ s!"{compared.wins} better, {compared.losses} worse" ++ compared.meanText := rfl
  rw [parts, ← String.toList_inj]
  simp [Page.heading, toString]

/-- **The counts of a summary are read behind its heading**, whatever the names in it contain. -/
theorem readCounts?_consoleText (compared : Comparison) :
    readCounts? (Page.heading compared) compared.consoleText.toList =
      some (compared.wins, compared.losses) := by
  have characters : compared.consoleText.toList =
      (Page.heading compared ++ ": ").toList ++ ((toString compared.wins).toList
        ++ (" better, ".toList ++ ((toString compared.losses).toList ++ (" worse".toList
          ++ (compared.meanText ++ "\n"
            ++ String.join (compared.points.map PointComparison.consoleLine)).toList)))) := by
    rw [Comparison.consoleText, compared.summary_eq]
    simp only [String.toList_append, List.append_assoc]
  rw [readCounts?, characters, stripOpening?_append, Option.bind_some,
    readCount?_written compared.wins rfl (by decide), Option.bind_some]
  dsimp only
  rw [readCount?_written compared.losses rfl (by decide), Option.map_some]

/-! ## Comparisons of a series -/

namespace Series

variable {series : Series}

/-- The comparisons of a series have the labels of the completed points, in order. -/
theorem Aligned.labels_of_comparisons (aligned : series.Aligned) {metric : Metric}
    {comparisons : List Comparison} (found : series.comparisons? metric = some comparisons) :
    ∀ compared ∈ comparisons, compared.points.map PointComparison.category =
      series.sweep.categories.take series.length := by
  cases endpoints : series.endpoints with
  | nil =>
    rw [comparisons?, metric?_of_projectable aligned.projectable, endpoints] at found
    cases found
    exact List.forall_mem_nil _
  | cons baseline candidates =>
    rw [comparisons?_of_endpoints aligned.projectable metric endpoints] at found
    cases found
    intro compared member
    obtain ⟨⟨name, position⟩, -, rfl⟩ := List.mem_map.mp member
    exact aligned.labels_comparisonAt metric baseline name position

theorem numeric_labels (series : Series) {points : List PointComparison}
    (labels : points.map PointComparison.category = series.sweep.categories.take series.length) :
    ∀ point ∈ points, Numeric point.category := by
  intro point member
  refine series.numeric_categories_reportOf .throughput point.category ?_
  have among := List.mem_map_of_mem (f := PointComparison.category) member
  rwa [labels] at among

end Series

/-! ## Pages and the console -/

/-- An item of a page and a line of the console tell the same of a point. -/
structure PointLine.Matches (axis : Axis) (line : PointLine) (item : Page.Item) : Prop where
  label : item.label = s!"{axis.label} {line.category}: "
  change : item.change = some line.change
  better : item.styled = some "better" ↔ line.mark = "+"
  worse : item.styled = some "worse" ↔ line.mark = "-"
  neither : item.styled = some "" ↔ line.mark = "=" ∨ line.mark = "?"

theorem PointLine.matches_ofPoint (axis : Axis) (point : PointComparison) :
    (ofPoint point).Matches axis (.ofPoint axis point) where
  label := rfl
  change := congrArg some point.consoleChange_eq.symm
  better := by
    simp only [ofPoint, Page.Item.ofPoint]
    cases point.verdict <;> decide
  worse := by
    simp only [ofPoint, Page.Item.ofPoint]
    cases point.verdict <;> decide
  neither := by
    simp only [ofPoint, Page.Item.ofPoint]
    cases point.verdict <;> decide

/-- A list of a page tells what the console tells of a comparison: the counts stand behind the same
heading, there is an item and a line for each completed point, in order, and these agree. -/
structure Comparison.ToldBy (series : Series) (list : Page.ItemList) (compared : Comparison) :
    Prop where
  counts : readCounts? list.heading compared.consoleText.toList =
    some (compared.wins, compared.losses)
  length : list.items.length = series.length
  lines : ∃ lines, readLines? series.length compared.consoleText = some lines ∧
    lines = compared.points.map PointLine.ofPoint ∧
    lines.map PointLine.category = series.sweep.categories.take series.length ∧
    List.Forall₂ (fun item line => line.Matches series.sweep.axis item) list.items lines

theorem Comparison.toldBy_ofComparison {series : Series} (aligned : series.Aligned)
    {compared : Comparison} (labels : compared.points.map PointComparison.category =
      series.sweep.categories.take series.length) :
    compared.ToldBy series (.ofComparison series.sweep.axis compared) := by
  have count : compared.points.length = series.length := by
    rw [← List.length_map PointComparison.category, labels, aligned.length_labels]
  refine
    { counts := readCounts?_consoleText compared
      length := (List.length_map ..).trans count
      lines := ⟨compared.points.map PointLine.ofPoint, ?read, rfl, ?labels, ?alike⟩ }
  case read => rw [← count, readLines?_consoleText (series.numeric_labels labels)]
  case labels =>
    rw [List.map_map]
    exact labels
  case alike =>
    rw [Page.ItemList.ofComparison, List.forall₂_map_left_iff, List.forall₂_map_right_iff,
      List.forall₂_same]
    exact fun point _ => PointLine.matches_ofPoint series.sweep.axis point

namespace Page

theorem styleClass_eq_better_iff (verdict : Verdict) :
    styleClass verdict = "better" ↔ verdict = .better := by
  cases verdict <;> decide

theorem styleClass_eq_worse_iff (verdict : Verdict) :
    styleClass verdict = "worse" ↔ verdict = .worse := by
  cases verdict <;> decide

/-- Items have the class of one verdict as often as comparisons count it. -/
theorem styledItems_ofComparison (axis : Axis) {verdict : Verdict} {cls : String}
    (shown : ∀ other, styleClass other = cls ↔ other = verdict) (comparisons : List Comparison) :
    styledItems cls (comparisons.map (ItemList.ofComparison axis)) =
      (comparisons.map fun compared => compared.count verdict).sum := by
  have counted (compared : Comparison) :
      ((ItemList.ofComparison axis compared).items.countP fun item => item.styled = some cls) =
        compared.count verdict := by
    rw [ItemList.ofComparison, List.countP_map, Comparison.count, ← List.countP_eq_length_filter]
    refine List.countP_congr fun point _ => ?_
    simp [Item.ofPoint, shown]
  rw [styledItems, List.flatMap_map, List.countP_flatMap]
  exact congrArg List.sum (List.map_congr_left fun compared _ => counted compared)

end Page

/-- **A page and the console tell the same comparisons.** For an aligned series, whatever its
endpoints are called, the lists of a page tell one by one what the console tells of the comparisons
in throughput, and the classes of verdicts stand on the page as often as the summaries count
them. -/
theorem page_and_console_tell_alike {series : Series} (aligned : series.Aligned)
    (missing : MissingPolicy) {timestamp : String} (plain : Plain timestamp)
    (unquoted : Unquoted timestamp) :
    ∃ page comparisons, series.page? missing timestamp = some page ∧
      series.comparisons? .throughput = some comparisons ∧
      List.Forall₂ (Comparison.ToldBy series) (Page.lists page) comparisons ∧
      occurrences "class=\x22better\x22".toList page.toList =
        (comparisons.map Comparison.wins).sum ∧
      occurrences "class=\x22worse\x22".toList page.toList =
        (comparisons.map Comparison.losses).sum := by
  have projectable := aligned.projectable
  have found := Series.comparisons?_of_projectable projectable .throughput
  have marked := Page.page_marked series missing plain (Metric.charted.map series.reportOf)
    (series.metricOf .throughput).comparisons
  have shows := Page.showsLists_pageMarks series missing unquoted
    (Metric.charted.map series.reportOf) (series.metricOf .throughput).comparisons
  refine ⟨_, _, Series.page?_of_projectable projectable missing timestamp, found, ?_, ?_, ?_⟩
  · rw [Page.lists, marked.read, shows.listsOf_eq, List.forall₂_map_left_iff, List.forall₂_same]
    exact fun compared member =>
      Comparison.toldBy_ofComparison aligned (aligned.labels_of_comparisons found compared member)
  · have better := shows.occurrences_class marked (by decide : "better" ∈ Page.verdictClasses)
    rwa [Page.styledItems_ofComparison _ Page.styleClass_eq_better_iff] at better
  · have worse := shows.occurrences_class marked (by decide : "worse" ∈ Page.verdictClasses)
    rwa [Page.styledItems_ofComparison _ Page.styleClass_eq_worse_iff] at worse

/-- A series of two points whose names look like a span of a page and like a line of the console. -/
def misleadingSeries : Series :=
  { sweep :=
      { name := "get"
        title := "GET <b>"
        operation := .get
        axis := .clients
        points := [⟨1, 1, 1000⟩, ⟨2, 1, 1000⟩] }
    endpoints :=
      ["redis", "<span class=\x22better\x22>", "x: 7 better, 0 worse\n  [+]      1: +9.9%"]
    rows :=
      [[Sample.empty.withValue .throughput 100.0, Sample.empty.withValue .throughput 110.0, .empty],
        [Sample.empty.withValue .throughput 100.0, Sample.empty.withValue .throughput 80.0,
          Sample.empty.withValue .throughput 100.0]] }

/-- The names count for nothing: one point is better, and one is worse. -/
theorem misleadingNames_tell_alike :
    misleadingSeries.Aligned ∧ Plain "2026-01-02 03:04:05" ∧ Unquoted "2026-01-02 03:04:05" ∧
      ∃ page comparisons, misleadingSeries.page? .gap "2026-01-02 03:04:05" = some page ∧
        misleadingSeries.comparisons? .throughput = some comparisons ∧
        List.Forall₂ (Comparison.ToldBy misleadingSeries) (Page.lists page) comparisons ∧
        occurrences "class=\x22better\x22".toList page.toList = 1 ∧
        occurrences "class=\x22worse\x22".toList page.toList = 1 := by
  have aligned : misleadingSeries.Aligned := ⟨by decide, by decide⟩
  have plain : Plain "2026-01-02 03:04:05" := by decide
  have unquoted : Unquoted "2026-01-02 03:04:05" := by decide
  have counts : (misleadingSeries.comparisons? .throughput).map
      (List.map fun compared => (compared.wins, compared.losses)) = some [(1, 1), (0, 0)] := by
    decide +kernel
  obtain ⟨page, comparisons, shown, compared, alike, better, worse⟩ :=
    page_and_console_tell_alike aligned .gap plain unquoted
  rw [compared, Option.map_some, Option.some.injEq] at counts
  have wins : comparisons.map Comparison.wins = [1, 0] := by
    have read := congrArg (List.map Prod.fst) counts
    rwa [List.map_map] at read
  have losses : comparisons.map Comparison.losses = [1, 0] := by
    have read := congrArg (List.map Prod.snd) counts
    rwa [List.map_map] at read
  rw [wins] at better
  rw [losses] at worse
  exact ⟨aligned, plain, unquoted, page, comparisons, shown, compared, alike, better, worse⟩

end LoadSweep
