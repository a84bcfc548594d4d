import LoadSweep.Proofs.Scrape.LatencyTables

/-!
# More output keeps what is found

Output that goes on can only add matches.  The first match of a figure stays the first, since its
pattern is unnested: a match that begins earlier would end inside what is already there
(`Phrase.Reads.firstMatch?_append`).  A table stays as it is once the line of its numerals has
ended, under the same heading (`HasTable.append`).  Only a median that stands in the table alone can
give way, to one in running text, and the match of that one ends in what is added
(`Phrase.Reads.foundBehind`).

The main statement is `more_output_keeps_what_is_found`.
-/

namespace LoadSweep

open Text Scrape Number

set_option autoImplicit false

namespace Scrape

/-! ## Running text -/

namespace Phrase

variable {phrase : Phrase} {reader? : List Char → Option (List Char)} {text digits : List Char}

/-- What is read as the first match is the figure of a first match. -/
theorem Reads.exists_match (reads : phrase.Reads reader?)
    (found : firstMatch? reader? text = some digits) :
    ∃ before stretch rest figure, text = before ++ (stretch ++ rest) ∧
      FirstMatch phrase.pattern before stretch rest ∧ phrase.Covers figure stretch ∧
        figure.text = digits := by
  obtain ⟨before, start, rfl, read, first⟩ := exists_first reads.recognises found
  obtain ⟨figure, stands, spelt⟩ := (reads _ _).mp read
  obtain ⟨stretch, rest, covers, rfl⟩ := stands_iff.mp stands
  exact ⟨before, stretch, rest, figure, rfl, ⟨⟨figure, covers⟩, first⟩, covers, spelt⟩

/-- The first match stays the first when the text goes on. -/
theorem Reads.firstMatch?_append (reads : phrase.Reads reader?) (unnested : Unnested phrase.pattern)
    (found : firstMatch? reader? text = some digits) (more : List Char) :
    firstMatch? reader? (text ++ more) = some digits := by
  obtain ⟨before, stretch, rest, figure, rfl, first, covers, spelt⟩ := reads.exists_match found
  have stays := (first.replace unnested (rest ++ more)).read reads.recognises
  have stands : phrase.Stands figure (stretch ++ (rest ++ more)) :=
    stands_iff.mpr ⟨stretch, rest ++ more, covers, rfl⟩
  rw [List.append_assoc, List.append_assoc, stays]
  exact (reads _ _).mpr ⟨figure, stands, spelt⟩

/-- So the figure that is found stays. -/
theorem Reads.figure?_append (reads : phrase.Reads reader?) (unnested : Unnested phrase.pattern)
    {x : Float} (found : figure? reader? text = some x) (more : List Char) :
    figure? reader? (text ++ more) = some x := by
  obtain ⟨digits, matched, read⟩ := Option.bind_eq_some_iff.mp found
  rw [figure?, reads.firstMatch?_append unnested matched more]
  exact read

/-- A figure is found in a text whose first match ends behind a position. -/
def FoundBehind (phrase : Phrase) (position : Nat) (text : List Char) (x : Float) : Prop :=
  ∃ before stretch rest figure, text = before ++ (stretch ++ rest) ∧
    FirstMatch phrase.pattern before stretch rest ∧ phrase.Covers figure stretch ∧
      figure.IsAscii ∧ figure.value = x ∧ position < (before ++ stretch).length

/-- A figure that is found only when the text goes on ends in what is added. -/
theorem Reads.foundBehind (reads : phrase.Reads reader?) (unnested : Unnested phrase.pattern)
    (nothing : figure? reader? text = none) {more : List Char} {x : Float}
    (found : figure? reader? (text ++ more) = some x) :
    phrase.FoundBehind text.length (text ++ more) x := by
  obtain ⟨digits, matched, read⟩ := Option.bind_eq_some_iff.mp found
  -- A match in the text would stay the first, with digits that have no value.
  have unmatched : firstMatch? reader? text = none := by
    rw [Option.eq_none_iff_forall_ne_some]
    intro other here
    have stays := reads.firstMatch?_append unnested here more
    rw [matched] at stays
    cases stays
    rw [figure?, here, Option.bind_some, read] at nothing
    cases nothing
  obtain ⟨before, stretch, rest, figure, parts, first, covers, rfl⟩ := reads.exists_match matched
  have ascii : figure.IsAscii := by
    by_contra foreign
    rw [readFloat?_foreign foreign] at read
    cases read
  rw [readFloat?_ascii ascii] at read
  refine ⟨before, stretch, rest, figure, parts, first, covers, ascii, Option.some.inj read, ?_⟩
  by_contra within
  rw [Nat.not_lt] at within
  rw [← List.append_assoc] at parts
  obtain ⟨left, inside⟩ := List.prefix_of_prefix_length_le ⟨rest, parts.symm⟩ ⟨more, rfl⟩ within
  rw [List.append_assoc] at inside
  exact firstMatch?_none reads.recognises unmatched inside.symm ⟨stretch, left, first.here, rfl⟩

end Phrase

/-! ## Tables -/

/-- A table ends with the line of its numerals. -/
theorem Tabulates.exists_last {columns : List Column} {body : List Char}
    (table : Tabulates columns body) :
    ∃ front line, line ≠ [] ∧ '\n' ∉ line ∧ body = front ++ line := by
  cases table with
  | @lines above between names numerals some noColon aboveIdle named betweenIdle numbered =>
    obtain ⟨unbroken, spaced⟩ := numbered
    refine ⟨ended above ++ (names ++ '\n' :: ended between), numerals, ?_, unbroken, ?_⟩
    · rintro rfl
      have none : columns.map Column.numeral = [] := spaced.words_eq.symm
      exact some (List.map_eq_nil_iff.mp none)
    · simp only [List.append_assoc, List.cons_append]

/-- A table stays as it is when a text goes on behind a line feed. -/
theorem HasTable.append {text before heading body after : List Char} {columns : List Column}
    (table : HasTable text before heading body after columns) (ends : text.getLast? = some '\n')
    (more : List Char) : HasTable (text ++ more) before heading body (after ++ more) columns := by
  obtain ⟨parts, first, layout, closes⟩ := table
  refine ⟨?_, ?_, layout, ?_⟩
  · rw [parts]
    simp only [List.append_assoc]
  · exact first.replace unnested_heading _
  · -- Something follows the line of the numerals, since it does not end with a line feed.
    cases after with
    | nil =>
      obtain ⟨front, line, some, unbroken, rfl⟩ := layout.exists_last
      rw [parts, List.append_nil, ← List.append_assoc, ← List.append_assoc,
        List.getLast?_append_of_ne_nil _ some] at ends
      exact absurd (List.mem_of_getLast? ends) unbroken
    | cons c after => exact closes

/-- So its columns are read again. -/
theorem latencyColumns?_append {text : List Char} {named : List (List Char × Float)}
    (read : latencyColumns? text = some named) (ends : text.getLast? = some '\n')
    (more : List Char) : latencyColumns? (text ++ more) = some named := by
  obtain ⟨before, heading, body, after, columns, table, rfl⟩ := latencyColumns?_eq_some_iff.mp read
  exact latencyColumns?_eq_some_iff.mpr ⟨_, _, _, _, _, table.append ends more, rfl⟩

/-- A value of a column stays. -/
theorem column?_append {text : List Char} {name : String} {x : Float}
    (found : column? (latencyColumns? text) name = some x) (ends : text.getLast? = some '\n')
    (more : List Char) : column? (latencyColumns? (text ++ more)) name = some x := by
  cases read : latencyColumns? text with
  | none =>
    rw [read] at found
    cases found
  | some named =>
    rw [latencyColumns?_append read ends more, ← read]
    exact found

/-! ## Metrics -/

section Metrics

variable {text : List Char} {x : Float}

/-- A metric other than the median stays when the text goes on behind a line feed. -/
theorem findMetric?_append {metric : Metric} (other : metric ≠ .latencyP50)
    (found : findMetric? text (latencyColumns? text) metric = some x)
    (ends : text.getLast? = some '\n') (more : List Char) :
    findMetric? (text ++ more) (latencyColumns? (text ++ more)) metric = some x := by
  cases metric with
  | throughput => exact Phrase.reads_throughput.figure?_append Phrase.unnested_throughput found more
  | latencyP50 => exact absurd rfl other
  | latencyAvg | latencyP95 | latencyP99 | latencyMax => exact column?_append found ends more

/-- A median in running text stays when the text goes on anywhere. -/
theorem findMetric?_median_append (found : figure? medianAt? text = some x) (more : List Char) :
    findMetric? (text ++ more) (latencyColumns? (text ++ more)) .latencyP50 = some x := by
  rw [findMetric?, Phrase.reads_median.figure?_append Phrase.unnested_median found, Option.some_or]

/-- A median of a table stays unless one is found in running text that ends in what is added. -/
theorem findMetric?_median_table_append (nothing : figure? medianAt? text = none)
    (found : column? (latencyColumns? text) "p50" = some x) (ends : text.getLast? = some '\n')
    (more : List Char) :
    findMetric? (text ++ more) (latencyColumns? (text ++ more)) .latencyP50 = some x ∨
      ∃ y, findMetric? (text ++ more) (latencyColumns? (text ++ more)) .latencyP50 = some y ∧
        medianPhrase.FoundBehind text.length (text ++ more) y := by
  rw [findMetric?]
  cases later : figure? medianAt? (text ++ more) with
  | none => exact .inl (column?_append found ends more)
  | some y =>
    exact .inr ⟨y, rfl, Phrase.reads_median.foundBehind Phrase.unnested_median nothing later⟩

end Metrics

end Scrape

/-- **More output keeps what is found.** The throughput and a median in running text that are found
in an output are found in every output that begins with it.  If the output ends with a line end,
everything that is found in it is; only a median that it has in its table alone gives way to one in
running text, if the match of that ends behind the output. -/
theorem more_output_keeps_what_is_found (output more : String) :
    let text := unifyLineEnds output.toList
    let whole := unifyLineEnds (output ++ more).toList
    let sample := Sample.ofOutput output
    let longer := Sample.ofOutput (output ++ more)
    (∀ x, sample.get .throughput = some x → longer.get .throughput = some x) ∧
      (∀ x, medianPhrase.Finds text (some x) →
        sample.get .latencyP50 = some x ∧ longer.get .latencyP50 = some x) ∧
      ∀ front, output = front ++ "\n" ∨ output = front ++ "\r" →
        ∀ metric x, sample.get metric = some x →
          longer.get metric = some x ∨
            metric = .latencyP50 ∧ medianPhrase.Finds text none ∧
              ∃ y, longer.get .latencyP50 = some y ∧
                medianPhrase.FoundBehind text.length whole y := by
  intro text whole sample longer
  have parts : whole = text ++ unifyLineEnds more.toList := by
    rw [← unifyLineEnds_append, ← String.toList_append]
  have isFound : ∀ metric, sample.get metric = findMetric? text (latencyColumns? text) metric :=
    Sample.get_ofOutput output
  have isFoundLater : ∀ metric,
      longer.get metric = findMetric? (text ++ unifyLineEnds more.toList)
        (latencyColumns? (text ++ unifyLineEnds more.toList)) metric := by
    intro metric
    rw [← parts]
    exact Sample.get_ofOutput (output ++ more) metric
  refine ⟨?_, ?_, ?_⟩
  · intro x found
    rw [isFound] at found
    rw [isFoundLater]
    exact Phrase.reads_throughput.figure?_append Phrase.unnested_throughput found _
  · intro x finds
    have found : figure? medianAt? text = some x :=
      ((Phrase.reads_median.finds text).value x).mpr ((finds.value x).mp rfl)
    rw [isFound, isFoundLater, findMetric?_median_append found, findMetric?, found]
    exact ⟨rfl, rfl⟩
  · intro front ending metric x found
    have ends : text.getLast? = some '\n' := by
      rcases ending with rfl | rfl <;> simp [text, unifyLineEnds]
    rw [isFound] at found
    rw [isFoundLater, isFoundLater, parts]
    by_cases median : metric = .latencyP50
    · subst median
      rw [findMetric?] at found
      cases here : figure? medianAt? text with
      | some y =>
        rw [here, Option.some_or] at found
        exact .inl (findMetric?_median_append (here.trans found) _)
      | none =>
        rw [here, Option.none_or] at found
        rcases findMetric?_median_table_append here found ends (unifyLineEnds more.toList) with
          kept | replaced
        · exact .inl kept
        · exact .inr ⟨rfl, here ▸ Phrase.reads_median.finds text, replaced⟩
    · exact .inl (findMetric?_append median found ends _)

/-- A throughput and a table are kept while the output goes on to complete a median, and so is a
median that the output ends with. -/
theorem continued_output_keeps_its_table :
    let output := "1 requests per second\nlatency summary (msec)\np50 avg\n0.5 1\np50=3\n"
    let longer := Sample.ofOutput (output ++ "msec")
    ((Sample.ofOutput output).get .throughput).isSome = true ∧
      longer.get .throughput = (Sample.ofOutput output).get .throughput ∧
      ((Sample.ofOutput output).get .latencyAvg).isSome = true ∧
      longer.get .latencyAvg = (Sample.ofOutput output).get .latencyAvg ∧
      (Sample.ofOutput ("p50=3msec" ++ "s")).get .latencyP50 = some (nearest 3 0) := by
  intro output longer
  obtain ⟨throughput, -, metrics⟩ := more_output_keeps_what_is_found output "msec"
  have some : ((Sample.ofOutput output).get .throughput).isSome = true := by decide +kernel
  have some' : ((Sample.ofOutput output).get .latencyAvg).isSome = true := by decide +kernel
  obtain ⟨x, found⟩ := Option.isSome_iff_exists.mp some
  obtain ⟨y, found'⟩ := Option.isSome_iff_exists.mp some'
  refine ⟨some, (throughput x found).trans found.symm, some', ?_, ?_⟩
  · have ends : output = "1 requests per second\nlatency summary (msec)\np50 avg\n0.5 1\np50=3" ++
        "\n" := rfl
    rcases metrics _ (.inl ends) _ y found' with kept | ⟨other, -⟩
    · exact kept.trans found'.symm
    · cases other
  · obtain ⟨-, median, -⟩ := more_output_keeps_what_is_found "p50=3msec" "s"
    have finds := Phrase.reads_median.finds (unifyLineEnds "p50=3msec".toList)
    have three : figure? medianAt? (unifyLineEnds "p50=3msec".toList) =
        Option.some (nearest 3 0) := by
      refine (finds.value _).mpr ⟨.ofDigit '3' rfl, 0, ⟨?_, ?_⟩, ?_, rfl⟩
      · exact ⟨[], [], List.forall_mem_nil _, fun spaced => Bool.noConfusion spaced, by decide⟩
      · intro earlier before
        exact absurd before (Nat.not_lt_zero earlier)
      · decide
    exact (median _ (three ▸ finds)).2

end LoadSweep
