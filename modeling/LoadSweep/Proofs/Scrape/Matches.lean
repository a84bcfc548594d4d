import LoadSweep.Proofs.Scrape.Figures
import Mathlib.Data.List.Basic

/-!
# Where matches begin and end

A pattern is given by the stretches of text that match it, and a reader recognises a pattern if it
succeeds exactly where a match begins (`Recognises`).  The first match of a text is one before which
no other begins (`FirstMatch`), and it is the one that is read (`FirstMatch.read`, `exists_first`).

A pattern is unnested when no match that begins inside another ends before it (`Unnested`).  Then
what stands behind the first match has no part in its being the first (`FirstMatch.replace`): a
match that begins earlier would end with it at the latest.  The patterns of both figures are
unnested.  A median match has a single `p`, where it begins (`unnested_of_head`), and a throughput
match has a single `q`, with the same letters behind it in every match.
-/

namespace LoadSweep.Scrape

open Text

set_option autoImplicit false

/-- A match begins a text. -/
def Begins (pattern : List Char → Prop) (text : List Char) : Prop :=
  ∃ stretch rest, pattern stretch ∧ text = stretch ++ rest

/-- A reader succeeds exactly where a match begins. -/
def Recognises {α : Type} (reader? : List Char → Option α) (pattern : List Char → Prop) : Prop :=
  ∀ text, (reader? text).isSome = true ↔ Begins pattern text

/-- No match that begins inside another ends before it. -/
def Unnested (pattern : List Char → Prop) : Prop :=
  ∀ front inner back, pattern inner → pattern (front ++ (inner ++ back)) → front = [] ∨ back = []

/-- A match stands between two texts, and no match begins before it. -/
structure FirstMatch (pattern : List Char → Prop) (before stretch rest : List Char) : Prop where
  here : pattern stretch
  first : ∀ back, back ≠ [] → back <:+ before → ¬ Begins pattern (back ++ (stretch ++ rest))

section Patterns

variable {pattern : List Char → Prop} {before stretch rest : List Char}

theorem Begins.append {text : List Char} (begins : Begins pattern text) (more : List Char) :
    Begins pattern (text ++ more) := by
  obtain ⟨stretch, rest, here, rfl⟩ := begins
  exact ⟨stretch, rest ++ more, here, List.append_assoc ..⟩

/-- Matches do not nest if each begins with a character of a kind that it has nowhere else. -/
theorem unnested_of_head {kind : Char → Bool}
    (heads : ∀ stretch, pattern stretch →
      ∃ c tail, stretch = c :: tail ∧ kind c = true ∧ ∀ d ∈ tail, kind d = false) :
    Unnested pattern := by
  intro front inner back within around
  obtain ⟨c, tail, rfl, head, -⟩ := heads inner within
  obtain ⟨d, others, written, -, plain⟩ := heads _ around
  cases front with
  | nil => exact .inl rfl
  | cons e front =>
    rw [List.cons_append] at written
    obtain ⟨-, rfl⟩ := List.cons.inj written
    have member : c ∈ front ++ (c :: tail ++ back) := by simp
    cases head.symm.trans (plain c member)

/-- A match that begins before another ends with it at the latest. -/
theorem Unnested.begins (unnested : Unnested pattern) (here : pattern stretch) {back : List Char}
    (some : back ≠ []) (begins : Begins pattern (back ++ (stretch ++ rest))) :
    Begins pattern (back ++ stretch) := by
  obtain ⟨other, tail, earlier, written⟩ := begins
  rw [← List.append_assoc] at written
  rcases List.append_eq_append_iff.mp written with ⟨more, longer, -⟩ | ⟨left, shorter, -⟩
  · rw [longer, List.append_assoc] at earlier
    rcases unnested back stretch more here earlier with none | none
    · exact absurd none some
    · rw [none, List.append_nil] at longer earlier
      exact ⟨back ++ stretch, [], earlier, (List.append_nil _).symm⟩
  · exact ⟨other, left, earlier, shorter⟩

/-- What stands behind the first match has no part in its being the first. -/
theorem FirstMatch.replace (unnested : Unnested pattern)
    (found : FirstMatch pattern before stretch rest) (rest' : List Char) :
    FirstMatch pattern before stretch rest' where
  here := found.here
  first := by
    intro back some suffix begins
    have within := (unnested.begins found.here some begins).append rest
    rw [List.append_assoc] at within
    exact found.first back some suffix within

/-! ## Reading -/

variable {α : Type} {reader? : List Char → Option α}

theorem firstMatch?_of_isSome {text : List Char} (reads : (reader? text).isSome = true) :
    firstMatch? reader? text = reader? text := by
  obtain ⟨result, read⟩ := Option.isSome_iff_exists.mp reads
  cases text with
  | nil => rfl
  | cons c text => rw [firstMatch?, read]

theorem firstMatch?_of_none {c : Char} {text : List Char} (silent : reader? (c :: text) = none) :
    firstMatch? reader? (c :: text) = firstMatch? reader? text := by
  rw [firstMatch?, silent]

/-- Positions at which nothing reads are passed over. -/
theorem firstMatch?_append_of_silent {front back : List Char}
    (silent : ∀ suffix, suffix ≠ [] → suffix <:+ front → reader? (suffix ++ back) = none) :
    firstMatch? reader? (front ++ back) = firstMatch? reader? back := by
  induction front with
  | nil => rfl
  | cons c front ih =>
    have here := silent (c :: front) (List.cons_ne_nil c front) (List.suffix_refl _)
    rw [List.cons_append] at here ⊢
    rw [firstMatch?_of_none here]
    apply ih
    intro suffix some within
    exact silent suffix some (within.trans (List.suffix_cons c front))

/-- What is read is the same if it is the same at every position. -/
theorem firstMatch?_append_congr {front back back' : List Char}
    (same : ∀ suffix, suffix ≠ [] → suffix <:+ front →
      reader? (suffix ++ back) = reader? (suffix ++ back'))
    (behind : firstMatch? reader? back = firstMatch? reader? back') :
    firstMatch? reader? (front ++ back) = firstMatch? reader? (front ++ back') := by
  induction front with
  | nil => exact behind
  | cons c front ih =>
    have here := same (c :: front) (List.cons_ne_nil c front) (List.suffix_refl _)
    have rest : firstMatch? reader? (front ++ back) = firstMatch? reader? (front ++ back') := by
      apply ih
      intro suffix some within
      exact same suffix some (within.trans (List.suffix_cons c front))
    rw [List.cons_append, List.cons_append] at here ⊢
    rw [firstMatch?, firstMatch?, here, rest]

/-- A reader reads the first match of its pattern. -/
theorem FirstMatch.read (recognises : Recognises reader? pattern)
    (found : FirstMatch pattern before stretch rest) :
    firstMatch? reader? (before ++ (stretch ++ rest)) = reader? (stretch ++ rest) := by
  rw [firstMatch?_append_of_silent]
  · exact firstMatch?_of_isSome ((recognises _).mpr ⟨stretch, rest, found.here, rfl⟩)
  · intro suffix some within
    rw [← Option.not_isSome_iff_eq_none, recognises]
    exact found.first suffix some within

/-- What is read is read where no match begins earlier. -/
theorem exists_first (recognises : Recognises reader? pattern) {text : List Char} {result : α}
    (found : firstMatch? reader? text = some result) :
    ∃ before rest, text = before ++ rest ∧ reader? rest = some result ∧
      ∀ back, back ≠ [] → back <:+ before → ¬ Begins pattern (back ++ rest) := by
  have start : ∀ {rest : List Char}, ∀ back, back ≠ [] → back <:+ [] →
      ¬ Begins pattern (back ++ rest) :=
    fun back some suffix => absurd (List.suffix_nil.mp suffix) some
  induction text with
  | nil => exact ⟨[], [], rfl, found, start⟩
  | cons c text ih =>
    cases here : reader? (c :: text) with
    | some other =>
      rw [firstMatch?_of_isSome (by rw [here]; rfl)] at found
      exact ⟨[], c :: text, rfl, found, start⟩
    | none =>
      rw [firstMatch?_of_none here] at found
      obtain ⟨before, rest, rfl, read, first⟩ := ih found
      refine ⟨c :: before, rest, rfl, read, ?_⟩
      intro back some suffix begins
      rcases List.suffix_cons_iff.mp suffix with rfl | shorter
      · have reads := (recognises _).mpr begins
        rw [List.cons_append, here] at reads
        cases reads
      · exact first back some shorter begins

/-- Nothing is read exactly if no match begins anywhere. -/
theorem firstMatch?_none (recognises : Recognises reader? pattern) {text : List Char}
    (nothing : firstMatch? reader? text = none) {before rest : List Char}
    (parts : text = before ++ rest) : ¬ Begins pattern rest := by
  have silent := (firstMatch?_eq_none_iff reader? text).mp nothing before.length
  rw [parts, List.drop_left] at silent
  rw [← recognises, silent]
  exact nofun

end Patterns

/-! ## Figures -/

/-- The characters of a figure are digits, and a point. -/
theorem Figure.mem_text {figure : Figure} {c : Char} (member : c ∈ figure.text) :
    isDecimalDigit c = true ∨ c = '.' := by
  by_cases plain : figure.fraction = []
  · rw [Figure.text_of_nil plain] at member
    exact .inl (figure.wholeDigits c member)
  · rw [Figure.text_of_ne_nil plain, List.mem_append, List.mem_cons] at member
    rcases member with whole | point | fraction
    · exact .inl (figure.wholeDigits c whole)
    · exact .inr point
    · exact .inl (figure.fractionDigits c fraction)

namespace Phrase

/-- A phrase with a figure covers a stretch of text. -/
def Covers (phrase : Phrase) (figure : Figure) (stretch : List Char) : Prop :=
  ∃ blanks, (∀ c ∈ blanks, isBlank c = true) ∧ (phrase.spaced = true → blanks ≠ []) ∧
    stretch = phrase.opening ++ (figure.text ++ (blanks ++ phrase.closing))

/-- The pattern of a phrase: the stretches that it covers with any figure. -/
def pattern (phrase : Phrase) (stretch : List Char) : Prop :=
  ∃ figure, phrase.Covers figure stretch

/-- A phrase stands where a stretch that it covers begins. -/
theorem stands_iff {phrase : Phrase} {figure : Figure} {text : List Char} :
    phrase.Stands figure text ↔
      ∃ stretch rest, phrase.Covers figure stretch ∧ text = stretch ++ rest := by
  constructor
  · rintro ⟨blanks, rest, blank, spaced, rfl⟩
    exact ⟨_, rest, ⟨blanks, blank, spaced, rfl⟩, by simp only [List.append_assoc]⟩
  · rintro ⟨_, rest, ⟨blanks, blank, spaced, rfl⟩, rfl⟩
    exact ⟨blanks, rest, blank, spaced, by simp only [List.append_assoc]⟩

theorem Reads.recognises {phrase : Phrase} {reader? : List Char → Option (List Char)}
    (reads : phrase.Reads reader?) : Recognises reader? phrase.pattern := by
  intro text
  rw [Option.isSome_iff_exists]
  constructor
  · rintro ⟨digits, read⟩
    obtain ⟨figure, stands, -⟩ := (reads text digits).mp read
    obtain ⟨stretch, rest, covers, parts⟩ := stands_iff.mp stands
    exact ⟨stretch, rest, ⟨figure, covers⟩, parts⟩
  · rintro ⟨stretch, rest, ⟨figure, covers⟩, parts⟩
    exact ⟨_, (reads text _).mpr ⟨figure, stands_iff.mpr ⟨stretch, rest, covers, parts⟩, rfl⟩⟩

/-- Neither a figure nor blanks hold a character that is neither digit, point nor blank. -/
theorem not_mem_figure_blanks {figure : Figure} {blanks : List Char}
    (blank : ∀ c ∈ blanks, isBlank c = true) {c : Char} (notDigit : isDecimalDigit c = false)
    (notPoint : c ≠ '.') (notBlank : isBlank c = false) : c ∉ figure.text ++ blanks := by
  intro member
  rcases List.mem_append.mp member with inFigure | inBlanks
  · rcases Figure.mem_text inFigure with digit | point
    · cases notDigit.symm.trans digit
    · exact notPoint point
  · cases notBlank.symm.trans (blank c inBlanks)

theorem unnested_throughput : Unnested throughputPhrase.pattern := by
  -- The part of a match up to its only `q` may differ from match to match, what follows may not.
  have parts : ∀ stretch, throughputPhrase.pattern stretch →
      ∃ front, 'q' ∉ front ∧ stretch = front ++ 'q' :: "uests per second".toList := by
    rintro stretch ⟨figure, blanks, blank, -, rfl⟩
    refine ⟨figure.text ++ blanks ++ "re".toList, ?_, ?_⟩
    · intro member
      rcases List.mem_append.mp member with inside | closing
      · exact not_mem_figure_blanks blank (by decide) (by decide) (by decide) inside
      · revert closing
        decide
    · simp [throughputPhrase]
  intro front inner back within around
  obtain ⟨start, -, rfl⟩ := parts inner within
  obtain ⟨whole, single, written⟩ := parts _ around
  have unique : 'q' ∉ "uests per second".toList := by decide
  rw [List.append_assoc, List.cons_append, ← List.append_assoc] at written
  obtain ⟨-, -, same⟩ := (List.append_cons_inj_of_notMem single unique).mp written.symm
  exact .inr (List.self_eq_append_right.mp same)

/-- A median match begins with its only `p`. -/
theorem head_median {stretch : List Char} (covered : medianPhrase.pattern stretch) :
    ∃ c tail, stretch = c :: tail ∧ (c == 'p') = true ∧ ∀ d ∈ tail, (d == 'p') = false := by
  obtain ⟨figure, blanks, blank, -, rfl⟩ := covered
  refine ⟨'p', "50=".toList ++ (figure.text ++ blanks ++ "msec".toList), ?_, rfl, ?_⟩
  · simp [medianPhrase]
  · intro d member
    rw [beq_eq_false_iff_ne]
    rintro rfl
    rcases List.mem_append.mp member with opening | rest
    · revert opening
      decide
    · rcases List.mem_append.mp rest with inside | closing
      · exact not_mem_figure_blanks blank (by decide) (by decide) (by decide) inside
      · revert closing
        decide

theorem unnested_median : Unnested medianPhrase.pattern :=
  unnested_of_head fun _ covered => head_median covered

end Phrase

end LoadSweep.Scrape
