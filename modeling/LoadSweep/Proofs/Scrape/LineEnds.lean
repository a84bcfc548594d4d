import LoadSweep.Proofs.Scrape.LatencyTables

/-!
# Line ends make no difference

A text is spread when some of its line feeds are repeated (`Spread`).  A reader cannot tell a text
from a spread one: no opening that it strips holds a line feed, no numeral does, blanks are passed
over however many they are, and a table has no empty lines.  So the readers of both figures yield
the same, and what follows a heading is spread at most (`Spread.throughputAt?`, `Spread.medianAt?`,
`Spread.headingAt?`); the search for the first match keeps that (`Spread.firstMatch?`), since no
match begins with a line feed.

A carriage return is a line feed to begin with, and a line feed that becomes two line ends is
spread.  The main statement is `line_ends_make_no_difference`.
-/

namespace LoadSweep

open Text Scrape

set_option autoImplicit false

/-! ## Spread texts -/

/-- The second text is the first with some of its line feeds repeated. -/
inductive Spread : List Char → List Char → Prop where
  | nil : Spread [] []
  | cons (c : Char) {text wide : List Char} (rest : Spread text wide) :
      Spread (c :: text) (c :: wide)
  | again {text wide : List Char} (rest : Spread ('\n' :: text) wide) :
      Spread ('\n' :: text) ('\n' :: wide)

namespace Spread

theorem refl (text : List Char) : Spread text text := by
  induction text with
  | nil => exact .nil
  | cons c text ih => exact .cons c ih

theorem append_left (before : List Char) {text wide : List Char} (spread : Spread text wide) :
    Spread (before ++ text) (before ++ wide) := by
  induction before with
  | nil => exact spread
  | cons c before ih => exact .cons c ih

variable {text wide : List Char}

/-! ## What a reader passes over -/

/-- What is taken up to a line feed is the same. -/
theorem takeWhile {test : Char → Bool} (stops : test '\n' = false) (spread : Spread text wide) :
    text.takeWhile test = wide.takeWhile test := by
  induction spread with
  | nil => rfl
  | cons c _ ih => rw [List.takeWhile_cons, List.takeWhile_cons, ih]
  | again => rw [List.takeWhile_cons, List.takeWhile_cons, stops, if_neg nofun, if_neg nofun]

/-- What is left by a test is spread, whether line feeds pass it or not. -/
theorem dropWhile (test : Char → Bool) (spread : Spread text wide) :
    Spread (text.dropWhile test) (wide.dropWhile test) := by
  induction spread with
  | nil => exact .nil
  | cons c rest ih =>
    rw [List.dropWhile_cons, List.dropWhile_cons]
    split
    · exact ih
    · exact .cons c rest
  | @again text wide rest ih =>
    cases passes : test '\n' with
    | true =>
      rw [List.dropWhile_cons_of_pos (l := wide) passes]
      exact ih
    | false =>
      rw [List.dropWhile_cons_of_neg (by simp [passes]),
        List.dropWhile_cons_of_neg (by simp [passes])]
      exact .again rest

/-- An opening without a line feed is stripped from both texts or from neither. -/
theorem stripOpening? {opening : List Char} (unbroken : '\n' ∉ opening)
    (spread : Spread text wide) :
    Option.Rel Spread (stripOpening? opening text) (stripOpening? opening wide) := by
  induction opening generalizing text wide with
  | nil => exact .some spread
  | cons o opening ih =>
    obtain ⟨other, rest⟩ := not_or.mp (mt List.mem_cons.mpr unbroken)
    cases spread with
    | nil => exact .none
    | cons c spread =>
      rw [Text.stripOpening?, Text.stripOpening?]
      split
      · exact ih rest spread
      · exact .none
    | again spread =>
      have unequal : (o == '\n') = false := beq_false_of_ne (Ne.symm other)
      rw [Text.stripOpening?, Text.stripOpening?, unequal]
      exact .none

/-- So are words without a line feed, since a line feed spells no letter. -/
theorem stripFolded? {words : List Char} (unbroken : '\n' ∉ words) (spread : Spread text wide) :
    Option.Rel Spread (stripFolded? words text) (stripFolded? words wide) := by
  induction words generalizing text wide with
  | nil => exact .some spread
  | cons letter words ih =>
    obtain ⟨distinct, rest⟩ := not_or.mp (mt List.mem_cons.mpr unbroken)
    have other : isLetter letter '\n' = false :=
      Bool.eq_false_iff.mpr fun spells => distinct (eq_of_isLetter_of_isBlank spells rfl)
    cases spread with
    | nil => exact .none
    | cons c spread =>
      rw [Scrape.stripFolded?, Scrape.stripFolded?]
      split
      · exact ih rest spread
      · exact .none
    | again spread =>
      rw [Scrape.stripFolded?, Scrape.stripFolded?, other]
      exact .none

end Spread

/-- Related results stay related if what is done with them is. -/
theorem rel_bind {α α' β β' : Type} {r : α → α' → Prop} {s : β → β' → Prop} {found : Option α}
    {found' : Option α'} (related : Option.Rel r found found') {next : α → Option β}
    {next' : α' → Option β'} (onward : ∀ x x', r x x' → Option.Rel s (next x) (next' x')) :
    Option.Rel s (found.bind next) (found'.bind next') := by
  cases related with
  | none => exact .none
  | some related => exact onward _ _ related

/-- A result that is only seen to be there is the same. -/
theorem rel_map_const {α α' β : Type} {r : α → α' → Prop} {found : Option α} {found' : Option α'}
    (related : Option.Rel r found found') (value : β) :
    Option.Rel Eq (found.map fun _ => value) (found'.map fun _ => value) := by
  cases related with
  | none => exact .none
  | some => exact .some rfl

theorem rel_of_eq {α : Type} {found found' : Option α} (same : found = found') :
    Option.Rel Eq found found' := by
  cases same
  cases found with
  | none => exact .none
  | some => exact .some rfl

theorem eq_of_rel {α : Type} {found found' : Option α} (related : Option.Rel Eq found found') :
    found = found' := by
  cases related with
  | none => rfl
  | some same => rw [same]

namespace Spread

variable {text wide : List Char}

/-! ## Readers -/

/-- The same numeral is read, and what follows is spread. -/
theorem numeral? (spread : Spread text wide) :
    Option.Rel (fun read read' => read.1 = read'.1 ∧ Spread read.2 read'.2)
      (numeral? text) (numeral? wide) := by
  have stops : isDecimalDigit '\n' = false := isDecimalDigit_of_isBlank rfl
  have whole := spread.takeWhile stops
  have behind := spread.dropWhile isDecimalDigit
  simp only [Scrape.numeral?]
  rw [whole]
  split
  · exact .none
  · generalize text.dropWhile isDecimalDigit = rest at behind
    generalize wide.dropWhile isDecimalDigit = rest' at behind
    cases behind with
    | nil => exact .some ⟨rfl, .nil⟩
    | again behind => exact .some ⟨rfl, .again behind⟩
    | cons c behind =>
      by_cases point : c = '.'
      · subst point
        simp only [behind.takeWhile stops]
        split
        · exact .some ⟨rfl, .cons _ behind⟩
        · exact .some ⟨rfl, behind.dropWhile _⟩
      · split
        · rename_i starts
          exact absurd (List.cons.inj starts).1 point
        · split
          · rename_i starts
            exact absurd (List.cons.inj starts).1 point
          · exact .some ⟨rfl, .cons c behind⟩

theorem throughputAt? (spread : Spread text wide) :
    Option.Rel Eq (throughputAt? text) (throughputAt? wide) := by
  refine rel_bind spread.numeral? ?_
  rintro ⟨digits, rest⟩ ⟨_, rest'⟩ ⟨rfl, behind⟩
  have unbroken : '\n' ∉ "requests per second".toList := by decide
  have closed := (behind.dropWhile isBlank).stripOpening? unbroken
  cases behind with
  | nil => exact .none
  | cons c behind =>
    dsimp only
    cases blank : isBlank c with
    | false => exact .none
    | true =>
      rw [List.dropWhile_cons_of_pos blank, List.dropWhile_cons_of_pos blank] at closed
      exact rel_map_const closed digits
  | again behind => exact rel_map_const closed digits

theorem medianAt? (spread : Spread text wide) :
    Option.Rel Eq (medianAt? text) (medianAt? wide) := by
  have opening : '\n' ∉ "p50=".toList := by decide
  have closing : '\n' ∉ "msec".toList := by decide
  refine rel_bind (spread.stripOpening? opening) ?_
  intro body body' within
  refine rel_bind within.numeral? ?_
  rintro ⟨digits, rest⟩ ⟨_, rest'⟩ ⟨rfl, behind⟩
  exact rel_map_const ((behind.dropWhile isBlank).stripOpening? closing) digits

theorem headingAt? (spread : Spread text wide) :
    Option.Rel Spread (headingAt? text) (headingAt? wide) := by
  have title : '\n' ∉ "latency summary".toList := by decide
  have unit : '\n' ∉ "(msec)".toList := by decide
  refine rel_bind (spread.stripFolded? title) ?_
  intro rest rest' behind
  exact (behind.dropWhile isBlank).stripFolded? unit

/-- A match that does not begin with a line feed is found in both texts or in neither. -/
theorem firstMatch? {α : Type} {r : α → α → Prop} {reader? : List Char → Option α}
    (reads : ∀ text wide, Spread text wide → Option.Rel r (reader? text) (reader? wide))
    (silent : ∀ rest, reader? ('\n' :: rest) = none) (spread : Spread text wide) :
    Option.Rel r (firstMatch? reader? text) (firstMatch? reader? wide) := by
  induction spread with
  | nil => exact reads _ _ .nil
  | cons c rest ih =>
    have here := reads _ _ (.cons c rest)
    rw [Scrape.firstMatch?, Scrape.firstMatch?]
    generalize reader? (c :: _) = found at here ⊢
    generalize reader? (c :: _) = found' at here ⊢
    cases here with
    | none => exact ih
    | some related => exact .some related
  | @again text wide rest ih =>
    have onward : Scrape.firstMatch? reader? ('\n' :: wide) = Scrape.firstMatch? reader? wide := by
      rw [Scrape.firstMatch?, silent]
    rw [onward]
    exact ih

/-! ## Lines -/

/-- The lines among given ones that a table can consist of. -/
abbrev sifted (found : List (List Char)) : List (List Char) :=
  (found.map trim).filter fun line => !line.isEmpty && line != [':']

/-- The first line is the same, and so are those behind it that a table can consist of. -/
theorem lines (spread : Spread text wide) :
    ∃ first rest rest', lines text = first :: rest ∧ lines wide = first :: rest' ∧
      sifted rest = sifted rest' := by
  induction spread with
  | nil => exact ⟨[], [], [], rfl, rfl, rfl⟩
  | cons c _ ih =>
    obtain ⟨first, rest, rest', cut, cut', same⟩ := ih
    by_cases feed : c = '\n'
    · subst feed
      rw [lines_feed, lines_feed, cut, cut']
      refine ⟨[], _, _, rfl, rfl, ?_⟩
      simp only [sifted, List.map_cons, List.filter_cons] at same ⊢
      rw [same]
    · rw [lines_cons feed cut, lines_cons feed cut']
      exact ⟨c :: first, rest, rest', rfl, rfl, same⟩
  | again _ ih =>
    obtain ⟨first, rest, rest', cut, cut', same⟩ := ih
    rw [lines_feed] at cut
    obtain ⟨rfl, rfl⟩ := List.cons.inj cut
    rw [lines_feed, lines_feed, cut']
    exact ⟨[], _, _, rfl, rfl, same⟩

theorem tableLines (spread : Spread text wide) : tableLines text = tableLines wide := by
  obtain ⟨first, rest, rest', cut, cut', same⟩ := spread.lines
  change sifted (Text.lines text) = sifted (Text.lines wide)
  rw [cut, cut']
  simp only [sifted, List.map_cons, List.filter_cons] at same ⊢
  rw [same]

theorem latencyColumns? (spread : Spread text wide) :
    latencyColumns? text = latencyColumns? wide := by
  have headings := spread.firstMatch? (fun _ _ spread => spread.headingAt?) fun rest => rfl
  apply eq_of_rel
  refine rel_bind headings ?_
  intro rest rest' behind
  exact rel_of_eq (by rw [behind.tableLines])

/-! ## Samples -/

/-- A figure that does not begin with a line feed has the same value. -/
theorem figure? {reader? : List Char → Option (List Char)}
    (reads : ∀ text wide, Spread text wide → Option.Rel Eq (reader? text) (reader? wide))
    (silent : ∀ rest, reader? ('\n' :: rest) = none) (spread : Spread text wide) :
    figure? reader? text = figure? reader? wide := by
  rw [Scrape.figure?, Scrape.figure?, eq_of_rel (spread.firstMatch? reads silent)]

/-- Outputs that are spread once their line ends are line feeds yield the same sample. -/
theorem ofOutput {output spreadOutput : String}
    (spread : Spread (unifyLineEnds output.toList) (unifyLineEnds spreadOutput.toList)) :
    Sample.ofOutput spreadOutput = Sample.ofOutput output := by
  have throughput := spread.figure? (fun _ _ spread => spread.throughputAt?) fun _ => by
    rw [Scrape.throughputAt?, Scrape.numeral?, List.takeWhile_cons,
      isDecimalDigit_of_isBlank rfl]
    rfl
  have median := spread.figure? (fun _ _ spread => spread.medianAt?) fun _ => rfl
  have metrics : findMetric? (unifyLineEnds spreadOutput.toList) =
      findMetric? (unifyLineEnds output.toList) := by
    funext columns metric
    cases metric <;> simp only [findMetric?, throughput, median]
  rw [Sample.ofOutput, Sample.ofOutput, scrape, scrape, metrics, spread.latencyColumns?]

end Spread

/-! ## Conventions -/

/-- A text in which every line feed is replaced by another line end. -/
def withLineEnds (ending text : String) : String :=
  String.ofList (text.toList.flatMap fun c => if c = '\n' then ending.toList else [c])

/-- A line feed that becomes a pair of line ends is spread. -/
theorem spread_withLineEnds (text : List Char) :
    Spread (unifyLineEnds text) (unifyLineEnds
      (text.flatMap fun c => if c = '\n' then "\r\n".toList else [c])) := by
  induction text with
  | nil => exact .nil
  | cons c text ih =>
    rw [List.flatMap_cons, unifyLineEnds_append]
    by_cases feed : c = '\n'
    · subst feed
      exact .again (.cons '\n' ih)
    · rw [if_neg feed]
      exact .cons _ ih

/-- A carriage return in place of a line feed is not even seen. -/
theorem unifyLineEnds_withLineEnds (text : List Char) :
    unifyLineEnds (text.flatMap fun c => if c = '\n' then "\r".toList else [c]) =
      unifyLineEnds text := by
  induction text with
  | nil => rfl
  | cons c text ih =>
    rw [List.flatMap_cons, unifyLineEnds_append, ih]
    by_cases feed : c = '\n'
    · subst feed
      rfl
    · rw [if_neg feed]
      rfl

/-- **Line ends make no difference.** An output yields the same sample when its line feeds are
replaced by carriage returns, or each by a carriage return and a line feed; and when a line end
anywhere in it, of any of the three kinds, is doubled. -/
theorem line_ends_make_no_difference (output : String) :
    Sample.ofOutput (withLineEnds "\r" output) = Sample.ofOutput output ∧
      Sample.ofOutput (withLineEnds "\r\n" output) = Sample.ofOutput output ∧
      ∀ before ending after : String, ending ∈ ["\n", "\r", "\r\n"] →
        output = before ++ ending ++ after →
          Sample.ofOutput (before ++ ending ++ ending ++ after) = Sample.ofOutput output := by
  refine ⟨?_, ?_, ?_⟩
  · apply Spread.ofOutput
    rw [withLineEnds, String.toList_ofList, unifyLineEnds_withLineEnds]
    exact .refl _
  · apply Spread.ofOutput
    rw [withLineEnds, String.toList_ofList]
    exact spread_withLineEnds output.toList
  · intro before ending after kind split
    apply Spread.ofOutput
    rw [split]
    simp only [String.toList_append, unifyLineEnds_append, List.append_assoc]
    apply Spread.append_left
    rcases (by simpa using kind : ending = "\n" ∨ ending = "\r" ∨ ending = "\r\n") with
      rfl | rfl | rfl
    · exact .again (.refl _)
    · exact .again (.refl _)
    · exact .again (.again (.refl _))

/-- A heading that is broken over two lines is still a heading when the break is doubled. -/
theorem broken_heading_is_found :
    let output := "Latency summary" ++ "\r\n" ++ "(msec):\n avg\n 0.5\n"
    ((Sample.ofOutput output).get .latencyAvg).isSome = true ∧
      Sample.ofOutput ("Latency summary" ++ "\r\n" ++ "\r\n" ++ "(msec):\n avg\n 0.5\n") =
        Sample.ofOutput output := by
  intro output
  refine ⟨by decide +kernel, ?_⟩
  have kind : "\r\n" ∈ ["\n", "\r", "\r\n"] := by simp
  exact (line_ends_make_no_difference output).2.2 _ _ _ kind rfl

end LoadSweep
