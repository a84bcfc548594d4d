import LoadSweep.Proofs.Scrape.LatencyTables
import Mathlib.Data.List.Nodup

/-!
# Latencies by column name

A latency of a table is the value under the first column with its name (`valueUnder?`), so a table
can be rearranged: columns may change places if no two have the same name, and further columns may
be added if their names are not looked up (`Rearranges`).  How the table is spaced has no part in
it, since a layout says nothing about its gaps (`Tabulates`).

The median is looked up in running text first.  A table is not part of that text: no match goes
over the heading, and none begins in a table without the opening of the phrase
(`median_beside_table`).

The main statement is `latency_table_is_read_whole`.
-/

namespace LoadSweep

open Text Scrape Number

set_option autoImplicit false

namespace Scrape

/-! ## Looking columns up -/

/-- The value under the first column with a name, whatever its letter case. -/
def valueUnder? (name : String) (columns : List Column) : Option Float :=
  (columns.find? fun column => column.key == name.toList).map Column.value

/-- The metrics that only a table has, with the names of their columns. -/
def tabulated : List (Metric × String) :=
  [(.latencyAvg, "avg"), (.latencyP95, "p95"), (.latencyP99, "p99"), (.latencyMax, "max")]

/-- The names that are looked up in a table. -/
def lookedUp : List String :=
  "p50" :: tabulated.map Prod.snd

theorem column?_columns (columns : List Column) (name : String) :
    column? (some (columns.map fun column => (column.key, column.value))) name =
      valueUnder? name columns := by
  change (columns.map fun column => (column.key, column.value)).lookup name.toList = _
  induction columns with
  | nil => rfl
  | cons column columns ih =>
    rw [List.map_cons, List.lookup_cons, valueUnder?, List.find?_cons, BEq.comm]
    cases column.key == name.toList with
    | true => rfl
    | false => exact ih

/-- If no two columns have the same name, their order has no part in what is under a name. -/
theorem valueUnder?_eq_some_iff {columns : List Column}
    (distinct : (columns.map Column.key).Nodup) {name : String} {value : Float} :
    valueUnder? name columns = some value ↔
      ∃ column ∈ columns, column.key = name.toList ∧ column.value = value := by
  rw [valueUnder?, Option.map_eq_some_iff]
  constructor
  · rintro ⟨column, found, rfl⟩
    have named : column.key = name.toList := by simpa using List.find?_some found
    exact ⟨column, List.mem_of_find?_eq_some found, named, rfl⟩
  · rintro ⟨column, member, named, rfl⟩
    have isFound : (columns.find? fun column => column.key == name.toList).isSome = true :=
      List.find?_isSome.mpr ⟨column, member, beq_iff_eq.mpr named⟩
    obtain ⟨first, found⟩ := Option.isSome_iff_exists.mp isFound
    have same : first.key = name.toList := by simpa using List.find?_some found
    have only : first = column :=
      List.inj_on_of_nodup_map distinct (List.mem_of_find?_eq_some found) member
        (same.trans named.symm)
    exact ⟨first, found, congrArg Column.value only⟩

/-- The second columns are the first ones rearranged: in another order if no two have the same
name, or with further columns that are not looked up. -/
inductive Rearranges : List Column → List Column → Prop where
  | refl (columns : List Column) : Rearranges columns columns
  | permuted {columns columns' : List Column} (perm : columns.Perm columns')
      (distinct : (columns.map Column.key).Nodup) : Rearranges columns columns'
  | widened (front back : List Column) (column : Column)
      (other : ∀ name ∈ lookedUp, column.key ≠ name.toList) :
      Rearranges (front ++ back) (front ++ column :: back)
  | trans {columns columns' columns'' : List Column} (first : Rearranges columns columns')
      (second : Rearranges columns' columns'') : Rearranges columns columns''

/-- Rearranging keeps the values that are looked up. -/
theorem Rearranges.valueUnder? {columns columns' : List Column}
    (rearranges : Rearranges columns columns') {name : String} (listed : name ∈ lookedUp) :
    valueUnder? name columns' = valueUnder? name columns := by
  induction rearranges with
  | refl => rfl
  | @permuted columns columns' perm distinct =>
    have distinct' : (columns'.map Column.key).Nodup := (perm.map Column.key).nodup_iff.mp distinct
    ext value
    simp only [valueUnder?_eq_some_iff distinct, valueUnder?_eq_some_iff distinct', perm.mem_iff]
  | widened front back column other =>
    have passed : (column.key == name.toList) = false := beq_false_of_ne (other name listed)
    simp only [Scrape.valueUnder?, List.find?_append, List.find?_cons, passed]
  | trans _ _ first second => exact second.trans first

/-! ## Medians beside a table -/

/-- A heading has no `p`. -/
theorem IsHeading.not_mem {heading : List Char} (here : IsHeading heading) : 'p' ∉ heading := by
  obtain ⟨title, blanks, unit, titled, blank, units, rfl⟩ := here
  have short : 'p'.toNat ≠ 0x17F := by decide
  have inTitle : 'p' ∉ title := titled.not_mem rfl short (by decide)
  have inUnit : 'p' ∉ unit := units.not_mem rfl short (by decide)
  have inBlanks : 'p' ∉ blanks := fun member => nomatch blank 'p' member
  simp only [List.mem_append, inTitle, inBlanks, inUnit, or_self, not_false_eq_true]

/-- The characters of a median match. -/
theorem mem_median {stretch : List Char} (covered : medianPhrase.pattern stretch) {c : Char}
    (member : c ∈ stretch) :
    isDecimalDigit c = true ∨ isBlank c = true ∨ c ∈ "p50=.msec".toList := by
  obtain ⟨figure, blanks, blank, -, rfl⟩ := covered
  have opening : medianPhrase.opening ⊆ "p50=.msec".toList := by decide
  have closing : medianPhrase.closing ⊆ "p50=.msec".toList := by decide
  simp only [List.mem_append] at member
  rcases member with inOpening | inFigure | inBlanks | inClosing
  · exact .inr (.inr (opening inOpening))
  · rcases Figure.mem_text inFigure with digit | rfl
    · exact .inl digit
    · exact .inr (.inr (by decide))
  · exact .inr (.inl (blank c inBlanks))
  · exact .inr (.inr (closing inClosing))

/-- A median match has no `l`. -/
theorem not_mem_median {stretch : List Char} (covered : medianPhrase.pattern stretch) {c : Char}
    (spells : isLetter 'l' c = true) : c ∉ stretch := by
  intro member
  rcases mem_median covered member with digit | blank | literal
  · have lower : c = 'l' := by
      rw [← toLower_of_isDecimalDigit digit]
      simpa [isLetter] using spells
    rw [lower] at digit
    cases digit
  · rw [eq_of_isLetter_of_isBlank spells blank] at blank
    cases blank
  · have others : "p50=.msec".toList.all fun d => !isLetter 'l' d := by decide
    simp only [List.all_eq_true, Bool.not_eq_true'] at others
    cases (others c literal).symm.trans spells

/-- What is read of a median does not go over an `l`. -/
theorem medianAt?_append {c : Char} (spells : isLetter 'l' c = true)
    (front rest rest' : List Char) :
    medianAt? (front ++ c :: rest) = medianAt? (front ++ c :: rest') := by
  have moved : ∀ {rest : List Char} (rest' : List Char) {figure : Figure},
      medianPhrase.Stands figure (front ++ c :: rest) →
        medianPhrase.Stands figure (front ++ c :: rest') := by
    intro rest rest' figure stands
    obtain ⟨stretch, tail, covers, written⟩ := Phrase.stands_iff.mp stands
    rcases List.append_eq_append_iff.mp written with ⟨more, longer, behind⟩ | ⟨left, shorter, -⟩
    · cases more with
      | nil =>
        rw [List.append_nil] at longer
        exact Phrase.stands_iff.mpr ⟨stretch, c :: rest', covers, by rw [longer]⟩
      | cons d more =>
        obtain ⟨rfl, -⟩ := List.cons.inj behind
        have within : c ∈ stretch := by simp [longer]
        exact absurd within (not_mem_median ⟨figure, covers⟩ spells)
    · refine Phrase.stands_iff.mpr ⟨stretch, left ++ c :: rest', covers, ?_⟩
      rw [shorter, List.append_assoc]
  ext digits
  simp only [Phrase.reads_median _ _]
  constructor
  · rintro ⟨figure, stands, spelt⟩
    exact ⟨figure, moved rest' stands, spelt⟩
  · rintro ⟨figure, stands, spelt⟩
    exact ⟨figure, moved rest stands, spelt⟩

/-- A median is read only where its opening is. -/
theorem medianAt?_of_not_prefix {text : List Char} (other : ¬ "p50=".toList <+: text) :
    medianAt? text = none := by
  rw [medianAt?, Option.bind_eq_none_iff]
  intro body opened
  rw [stripOpening?_eq_some_iff] at opened
  exact absurd ⟨body, opened.symm⟩ other

/-- A prefix without a line feed of a text that goes on with the next line is a prefix of the
text. -/
theorem prefix_of_closes {opening text after : List Char} (unbroken : '\n' ∉ opening)
    (closes : Closes after) (begins : opening <+: text ++ after) : opening <+: text := by
  obtain ⟨tail, written⟩ := begins
  rcases List.append_eq_append_iff.mp written with ⟨more, within, -⟩ | ⟨excess, longer, behind⟩
  · exact ⟨more, within.symm⟩
  · cases excess with
    | nil =>
      rw [List.append_nil] at longer
      exact ⟨[], by rw [List.append_nil, longer]⟩
    | cons c excess =>
      rw [behind] at closes
      cases closes c rfl
      exact absurd (by simp [longer]) unbroken

/-- A table that does not have the opening of a median is passed over, and so is its heading. -/
theorem firstMatch?_median_table {heading body after : List Char} (here : IsHeading heading)
    (unopened : ¬ "p50=".toList <:+: body) (closes : Closes after) :
    firstMatch? medianAt? (heading ++ (body ++ after)) = firstMatch? medianAt? after := by
  have unbroken : '\n' ∉ "p50=".toList := by decide
  have inHeading : ∀ suffix, suffix ≠ [] → suffix <:+ heading →
      medianAt? (suffix ++ (body ++ after)) = none := by
    intro suffix some within
    apply medianAt?_of_not_prefix
    rintro ⟨tail, written⟩
    cases suffix with
    | nil => exact some rfl
    | cons c suffix =>
      obtain ⟨rfl, -⟩ := List.cons.inj written
      exact here.not_mem (within.subset List.mem_cons_self)
  have inBody : ∀ suffix, suffix ≠ [] → suffix <:+ body → medianAt? (suffix ++ after) = none := by
    intro suffix _ within
    apply medianAt?_of_not_prefix
    intro begins
    exact unopened ((prefix_of_closes unbroken closes begins).isInfix.trans within.isInfix)
  rw [firstMatch?_append_of_silent inHeading, firstMatch?_append_of_silent inBody]

/-- What is found of a median in running text does not depend on a table beside it. -/
theorem median_beside_table {before heading body body' after : List Char}
    (here : IsHeading heading) (unopened : ¬ "p50=".toList <:+: body)
    (unopened' : ¬ "p50=".toList <:+: body') (closes : Closes after) :
    figure? medianAt? (before ++ (heading ++ (body ++ after))) =
      figure? medianAt? (before ++ (heading ++ (body' ++ after))) := by
  have found : firstMatch? medianAt? (before ++ (heading ++ (body ++ after))) =
      firstMatch? medianAt? (before ++ (heading ++ (body' ++ after))) := by
    apply firstMatch?_append_congr
    · intro suffix _ _
      obtain ⟨c, tail, rfl, head, -⟩ := here.head
      exact medianAt?_append head suffix _ _
    · rw [firstMatch?_median_table here unopened closes,
        firstMatch?_median_table here unopened' closes]
  rw [figure?, figure?, found]

/-! ## Metrics of a table -/

theorem findMetric?_tabulated {metric : Metric} {name : String}
    (listed : (metric, name) ∈ tabulated) (text : List Char)
    (columns : Option (List (List Char × Float))) :
    findMetric? text columns metric = column? columns name := by
  simp only [tabulated, List.mem_cons, Prod.mk.injEq, List.not_mem_nil, or_false] at listed
  rcases listed with ⟨rfl, rfl⟩ | ⟨rfl, rfl⟩ | ⟨rfl, rfl⟩ | ⟨rfl, rfl⟩ <;> rfl

/-- Every name of a tabulated metric is looked up. -/
theorem mem_lookedUp {metric : Metric} {name : String} (listed : (metric, name) ∈ tabulated) :
    name ∈ lookedUp :=
  List.mem_cons_of_mem "p50" (List.mem_map_of_mem listed)

section Tables

variable {before heading body after : List Char} {columns : List Column} {output : String}

/-- A tabulated metric of an output with a table is the value under its name. -/
theorem HasTable.get_tabulated
    (table : HasTable (unifyLineEnds output.toList) before heading body after columns)
    {metric : Metric} {name : String} (listed : (metric, name) ∈ tabulated) :
    (Sample.ofOutput output).get metric = valueUnder? name columns := by
  rw [Sample.get_ofOutput, findMetric?_tabulated listed, table.latencyColumns?, column?_columns]

/-- The median is the value under its name unless it is found in running text. -/
theorem HasTable.get_median
    (table : HasTable (unifyLineEnds output.toList) before heading body after columns) :
    (Sample.ofOutput output).get .latencyP50 =
      (figure? medianAt? (unifyLineEnds output.toList)).or (valueUnder? "p50" columns) := by
  rw [Sample.get_ofOutput, findMetric?, table.latencyColumns?, column?_columns]

/-- A table is still one when it is laid out anew. -/
theorem HasTable.relaid {text text' body' : List Char} {columns' : List Column}
    (table : HasTable text before heading body after columns)
    (parts : text' = before ++ (heading ++ (body' ++ after))) (relaid : Tabulates columns' body') :
    HasTable text' before heading body' after columns' where
  parts := parts
  heading := table.heading.replace unnested_heading _
  table := relaid
  closes := table.closes

end Tables

end Scrape

/-- **The latency table is read as a whole and by name.** If an output has a table below its first
heading, each tabulated metric is the value under the first column with its name, and so is the
median unless it is found in running text; without a table they are missing.  So a table that is
laid out anew with its columns rearranged yields the same metrics, the median included if no table
has the opening of its phrase. -/
theorem latency_table_is_read_whole (output : String) :
    let text := unifyLineEnds output.toList
    let sample := Sample.ofOutput output
    ∃ median, medianPhrase.Finds text median ∧
      ((∀ before heading body after columns,
          ¬ HasTable text before heading body after columns) →
        (∀ metric name, (metric, name) ∈ tabulated → sample.get metric = none) ∧
          sample.get .latencyP50 = median) ∧
      ∀ before heading body after columns, HasTable text before heading body after columns →
        (∀ metric name, (metric, name) ∈ tabulated →
          sample.get metric = valueUnder? name columns) ∧
        sample.get .latencyP50 = median.or (valueUnder? "p50" columns) ∧
        ∀ relaid body' columns', Rearranges columns columns' → Tabulates columns' body' →
          unifyLineEnds relaid.toList = before ++ (heading ++ (body' ++ after)) →
            (∀ metric name, (metric, name) ∈ tabulated →
              (Sample.ofOutput relaid).get metric = sample.get metric) ∧
            (¬ "p50=".toList <:+: body → ¬ "p50=".toList <:+: body' →
              (Sample.ofOutput relaid).get .latencyP50 = sample.get .latencyP50) := by
  intro text sample
  refine ⟨figure? medianAt? text, Phrase.reads_median.finds text, ?_, ?_⟩
  · intro untabled
    have nothing : latencyColumns? text = none := latencyColumns?_eq_none untabled
    constructor
    · intro metric name listed
      rw [Sample.get_ofOutput, nothing, findMetric?_tabulated listed]
      rfl
    · rw [Sample.get_ofOutput, nothing]
      exact Option.or_none
  · intro before heading body after columns table
    refine ⟨fun metric name listed => table.get_tabulated listed, table.get_median, ?_⟩
    intro relaid body' columns' rearranges layout parts
    have again := table.relaid parts layout
    constructor
    · intro metric name listed
      rw [again.get_tabulated listed, rearranges.valueUnder? (mem_lookedUp listed)]
      exact (table.get_tabulated listed).symm
    · intro unopened unopened'
      have inline : figure? medianAt? (unifyLineEnds relaid.toList) = figure? medianAt? text := by
        rw [parts, table.parts]
        exact median_beside_table table.heading.here unopened' unopened table.closes
      rw [again.get_median, inline, rearranges.valueUnder? List.mem_cons_self]
      exact table.get_median.symm

/-- Exchanged columns with another between them and with other gaps; and an output without a
table. -/
theorem rearranged_table_is_read_alike :
    let output := "Latency Summary\t(MSEC):\n\n P50 avg\n:\n 5 1\nmore"
    let relaid := "Latency Summary\t(MSEC)\r  avg\t p90 P50 \r\n\n 1 2 5\nmore"
    (Sample.ofOutput output).get .latencyAvg = some (nearest 1 0) ∧
      (Sample.ofOutput relaid).get .latencyAvg = (Sample.ofOutput output).get .latencyAvg ∧
      (Sample.ofOutput relaid).get .latencyP50 = (Sample.ofOutput output).get .latencyP50 ∧
      (Sample.ofOutput "").get .latencyAvg = none := by
  intro output relaid
  let five := Column.ofFigure "P50" (.ofDigit '5' rfl) (by decide)
  let one := Column.ofFigure "avg" (.ofDigit '1' rfl) (by decide)
  let two := Column.ofFigure "p90" (.ofDigit '2' rfl) (by decide)
  have empty : Idle [] := .inl ⟨by decide, words_eq_iff.mp rfl⟩
  have colon : Idle [':'] := .inr ⟨by decide, words_eq_iff.mp rfl⟩
  have layout : Tabulates [five, one] (ended [[':'], []] ++ (" P50 avg".toList ++
      '\n' :: (ended [[':']] ++ " 5 1".toList))) :=
    .lines nofun (by decide) (List.forall_mem_cons.mpr ⟨colon, List.forall_mem_singleton.mpr empty⟩)
      ⟨by decide, words_eq_iff.mp rfl⟩ (List.forall_mem_singleton.mpr colon)
      ⟨by decide, words_eq_iff.mp rfl⟩
  have layout' : Tabulates [one, two, five] (ended [[]] ++ ("  avg\t p90 P50 ".toList ++
      '\n' :: (ended [[], []] ++ " 1 2 5".toList))) :=
    .lines nofun (by decide) (List.forall_mem_singleton.mpr empty)
      ⟨by decide, words_eq_iff.mp rfl⟩
      (List.forall_mem_cons.mpr ⟨empty, List.forall_mem_singleton.mpr empty⟩)
      ⟨by decide, words_eq_iff.mp rfl⟩
  have heading : IsHeading "Latency Summary\t(MSEC)".toList :=
    ⟨"Latency Summary".toList, ['\t'], "(MSEC)".toList, by unfold Spells; decide,
      List.forall_mem_singleton.mpr rfl, by unfold Spells; decide, rfl⟩
  have table : HasTable (unifyLineEnds output.toList) [] "Latency Summary\t(MSEC)".toList _
      "\nmore".toList [five, one] :=
    ⟨by decide, ⟨heading, fun back some within => absurd (List.suffix_nil.mp within) some⟩, layout,
      closes_feed _⟩
  have rearranges : Rearranges [five, one] [one, two, five] :=
    .trans (.permuted (List.Perm.swap one five []) (by decide))
      (.widened [one] [five] two (by decide))
  have listed : (Metric.latencyAvg, "avg") ∈ tabulated := by decide
  obtain ⟨_, -, -, tabled⟩ := latency_table_is_read_whole output
  obtain ⟨metrics, -, again⟩ := tabled _ _ _ _ _ table
  obtain ⟨same, median⟩ := again relaid _ _ rearranges layout' (by decide)
  refine ⟨metrics _ _ listed, same _ _ listed, median (by decide +kernel) (by decide +kernel), ?_⟩
  obtain ⟨_, -, untabled, -⟩ := latency_table_is_read_whole ""
  refine (untabled ?_).1 _ _ listed
  intro before heading body after columns table
  have read := latencyColumns?_eq_some_iff.mpr ⟨before, heading, body, after, columns, table, rfl⟩
  cases read

end LoadSweep
