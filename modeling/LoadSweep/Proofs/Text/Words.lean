import LoadSweep.Proofs.Text.Cuts
import Mathlib.Data.List.TakeWhile

/-!
# Words and lines

The words of a text are what stands between its blanks: a text has given words exactly if it is
written as these words with blanks around them and at least one between neighbours (`Spaced`,
`words_eq_iff`).  So the number of blanks says nothing, and neither do blanks at the ends
(`words_trim`).

A line feed ends a line, and the lines behind it are those of the rest (`lines_append_feed`).
-/

namespace LoadSweep.Text

set_option autoImplicit false

/-! ## Words -/

/-- Words written with blanks around them, at least one between neighbours. -/
inductive Spaced : List (List Char) → List Char → Prop where
  | gap {gap : List Char} (blank : ∀ c ∈ gap, isBlank c = true) : Spaced [] gap
  | word {gap word rest : List Char} {words : List (List Char)}
      (blank : ∀ c ∈ gap, isBlank c = true) (some : word ≠ [])
      (solid : ∀ c ∈ word, isBlank c = false) (apart : ∀ c ∈ rest.head?, isBlank c = true)
      (others : Spaced words rest) : Spaced (word :: words) (gap ++ (word ++ rest))

theorem words_blank {c : Char} (blank : isBlank c = true) (text : List Char) :
    words (c :: text) = words text := by
  rw [words, pieces_cons_of_cut blank]
  rfl

theorem words_gap {gap : List Char} (blank : ∀ c ∈ gap, isBlank c = true) (text : List Char) :
    words (gap ++ text) = words text := by
  induction gap with
  | nil => rfl
  | cons c gap ih =>
    obtain ⟨here, rest⟩ := List.forall_mem_cons.mp blank
    rw [List.cons_append, words_blank here, ih rest]

theorem words_append_blank {c : Char} (blank : isBlank c = true) (before after : List Char) :
    words (before ++ c :: after) = words before ++ words after := by
  rw [words, pieces_append_cut blank, List.filter_append]
  rfl

theorem words_solid {word : List Char} (some : word ≠ []) (solid : ∀ c ∈ word, isBlank c = false) :
    words word = [word] := by
  rw [words, pieces_uncut solid]
  simp [some]

/-- A first word ends at the first blank behind it. -/
theorem words_word {word rest : List Char} (some : word ≠ [])
    (solid : ∀ c ∈ word, isBlank c = false) (apart : ∀ c ∈ rest.head?, isBlank c = true) :
    words (word ++ rest) = word :: words rest := by
  cases rest with
  | nil =>
    rw [List.append_nil, words_solid some solid]
    rfl
  | cons c rest =>
    have blank : isBlank c = true := apart c rfl
    rw [words_append_blank blank, words_solid some solid, words_blank blank]
    rfl

/-- The words of a text are read off the way in which it is written. -/
theorem Spaced.words_eq {found : List (List Char)} {text : List Char} (spaced : Spaced found text) :
    words text = found := by
  induction spaced with
  | gap blank =>
    have none := words_gap blank []
    rwa [List.append_nil] at none
  | word blank some solid apart _ ih => rw [words_gap blank, words_word some solid apart, ih]

/-- A blank in front widens the first gap. -/
theorem Spaced.cons_blank {found : List (List Char)} {text : List Char} (spaced : Spaced found text)
    {c : Char} (blank : isBlank c = true) : Spaced found (c :: text) := by
  cases spaced with
  | gap blanks => exact .gap (List.forall_mem_cons.mpr ⟨blank, blanks⟩)
  | word blanks some solid apart others =>
    rw [← List.cons_append]
    exact .word (List.forall_mem_cons.mpr ⟨blank, blanks⟩) some solid apart others

/-- A character that is no blank is a word of its own in front of a gap. -/
theorem Spaced.cons_apart {found : List (List Char)} {text : List Char} (spaced : Spaced found text)
    {c : Char} (solid : isBlank c = false) (apart : ∀ d ∈ text.head?, isBlank d = true) :
    Spaced ([c] :: found) (c :: text) := by
  have alone : ∀ d ∈ [c], isBlank d = false := List.forall_mem_singleton.mpr solid
  have written : Spaced ([c] :: found) ([] ++ ([c] ++ text)) :=
    .word (List.forall_mem_nil _) (List.cons_ne_nil c []) alone apart spaced
  exact written

/-- Without a gap it belongs to the first word. -/
theorem Spaced.cons_solid {found : List (List Char)} {text : List Char} (spaced : Spaced found text)
    {c : Char} (solid : isBlank c = false) : ∃ more, Spaced more (c :: text) := by
  cases id spaced with
  | gap blanks =>
    exact ⟨_, spaced.cons_apart solid fun d first => blanks d (List.mem_of_head? first)⟩
  | @word gap word rest words blanks some letters apart others =>
    cases gap with
    | nil =>
      have longer : Spaced ((c :: word) :: words) ([] ++ ((c :: word) ++ rest)) :=
        .word (List.forall_mem_nil _) (List.cons_ne_nil c word)
          (List.forall_mem_cons.mpr ⟨solid, letters⟩) apart others
      exact ⟨_, longer⟩
    | cons d gap =>
      refine ⟨_, spaced.cons_apart solid ?_⟩
      rintro _ ⟨⟩
      exact blanks d List.mem_cons_self

/-- Every text is words with blanks around them. -/
theorem exists_spaced (text : List Char) : ∃ found, Spaced found text := by
  induction text with
  | nil => exact ⟨[], .gap (List.forall_mem_nil _)⟩
  | cons c text ih =>
    obtain ⟨found, spaced⟩ := ih
    cases kind : isBlank c with
    | true => exact ⟨found, spaced.cons_blank kind⟩
    | false => exact spaced.cons_solid kind

/-- A text has given words exactly if it is written as these words. -/
theorem words_eq_iff {found : List (List Char)} {text : List Char} :
    words text = found ↔ Spaced found text := by
  constructor
  · rintro rfl
    obtain ⟨found, spaced⟩ := exists_spaced text
    rwa [spaced.words_eq]
  · exact Spaced.words_eq

/-! ## Blanks at the ends -/

/-- Blanks around a text without blanks are trimmed away. -/
theorem trim_padded {before text after : List Char} (leading : ∀ c ∈ before, isBlank c = true)
    (solid : ∀ c ∈ text, isBlank c = false) (trailing : ∀ c ∈ after, isBlank c = true) :
    trim (before ++ text ++ after) = text := by
  have start : (text ++ after).dropWhile isBlank = if text = [] then [] else text ++ after := by
    cases text with
    | nil => exact (span_whole trailing).2
    | cons c text => simp [solid c List.mem_cons_self]
  have ending : dropWhileEnd isBlank (text ++ after) = text := by
    have stop : ∀ c ∈ text.reverse.head?, isBlank c = false := by
      intro c last
      exact solid c (List.mem_reverse.mp (List.mem_of_head? last))
    have blank : ∀ c ∈ after.reverse, isBlank c = true :=
      fun c member => trailing c (List.mem_reverse.mp member)
    rw [dropWhileEnd, List.reverse_append, (span_until blank stop).2, List.reverse_reverse]
  rw [trim, trimEnd, List.append_assoc, List.dropWhile_append_of_pos leading, start]
  by_cases empty : text = []
  · rw [if_pos empty, empty]
    rfl
  · rw [if_neg empty, ending]

/-- A text is what is left of it by trimming, with blanks around. -/
theorem exists_trimmed (text : List Char) :
    ∃ before after, (∀ c ∈ before, isBlank c = true) ∧ (∀ c ∈ after, isBlank c = true) ∧
      text = before ++ (trim text ++ after) := by
  have front : text.takeWhile isBlank ++ text.dropWhile isBlank = text :=
    List.takeWhile_append_dropWhile
  have back : ∀ rest : List Char,
      dropWhileEnd isBlank rest ++ (rest.reverse.takeWhile isBlank).reverse = rest := by
    intro rest
    rw [dropWhileEnd, ← List.reverse_append, List.takeWhile_append_dropWhile, List.reverse_reverse]
  refine ⟨text.takeWhile isBlank, ((text.dropWhile isBlank).reverse.takeWhile isBlank).reverse,
    fun c member => List.mem_takeWhile_imp member,
    fun c member => List.mem_takeWhile_imp (List.mem_reverse.mp member), ?_⟩
  rw [trim, trimEnd, back, front]

theorem mem_of_mem_trim {text : List Char} {c : Char} (member : c ∈ trim text) : c ∈ text := by
  obtain ⟨before, after, -, -, parts⟩ := exists_trimmed text
  rw [parts]
  exact List.mem_append_right before (List.mem_append_left after member)

/-- No digit is a blank. -/
theorem not_blank_of_isDigit {c : Char} (digit : c.isDigit = true) : isBlank c = false := by
  have range : 48 ≤ c.toNat ∧ c.toNat ≤ 57 := Char.isDigit_iff_toNat.mp digit
  simp only [isBlank, Bool.or_eq_false_iff, Bool.and_eq_false_iff, decide_eq_false_iff_not,
    beq_eq_false_iff_ne]
  omega

/-- A text has no blank at either end. -/
structure Tight (text : List Char) : Prop where
  first : ∀ c ∈ text.head?, isBlank c = false
  last : ∀ c ∈ text.getLast?, isBlank c = false

theorem tight_of_solid {text : List Char} (solid : ∀ c ∈ text, isBlank c = false) : Tight text :=
  ⟨fun c first => solid c (List.mem_of_head? first),
    fun c last => solid c (List.mem_of_getLast? last)⟩

theorem head?_dropWhile {test : Char → Bool} {text : List Char} :
    ∀ c ∈ (text.dropWhile test).head?, test c = false := by
  intro c first
  have stops := List.head?_dropWhile_not test text
  rwa [first] at stops

/-- Trimming leaves no blank at either end. -/
theorem tight_trim (text : List Char) : Tight (trim text) where
  first := by
    intro c first
    refine head?_dropWhile c (?_ : c ∈ (text.dropWhile isBlank).head?)
    obtain ⟨after, parts⟩ : trim text <+: text.dropWhile isBlank := by
      rw [← List.reverse_suffix, trim, trimEnd, dropWhileEnd, List.reverse_reverse]
      exact List.dropWhile_suffix isBlank
    rw [← parts, List.head?_append, Option.mem_def.mp first]
    rfl
  last := by
    rw [trim, trimEnd, dropWhileEnd, List.getLast?_reverse]
    exact head?_dropWhile

/-- There is nothing to trim of a text without a blank at either end. -/
theorem trim_of_tight {text : List Char} (tight : Tight text) : trim text = text := by
  have whole {text : List Char} (stops : ∀ c ∈ text.head?, isBlank c = false) :
      text.dropWhile isBlank = text :=
    (span_until (List.forall_mem_nil _) stops).2
  rw [trim, whole tight.first, trimEnd, dropWhileEnd, whole, List.reverse_reverse]
  rw [List.head?_reverse]
  exact tight.last

theorem words_append_gap {gap : List Char} (blank : ∀ c ∈ gap, isBlank c = true)
    (text : List Char) : words (text ++ gap) = words text := by
  cases gap with
  | nil => rw [List.append_nil]
  | cons c gap =>
    obtain ⟨here, rest⟩ := List.forall_mem_cons.mp blank
    have none := words_gap rest []
    rw [List.append_nil] at none
    rw [words_append_blank here, none]
    exact List.append_nil _

/-- Trimming keeps the words. -/
theorem words_trim (text : List Char) : words (trim text) = words text := by
  obtain ⟨before, after, front, back, parts⟩ := exists_trimmed text
  calc words (trim text)
      = words (before ++ (trim text ++ after)) := by rw [words_gap front, words_append_gap back]
    _ = words text := by rw [← parts]

/-! ## Lines -/

theorem lines_feed (text : List Char) : lines ('\n' :: text) = [] :: lines text :=
  pieces_cons_of_cut rfl text

/-- Any other character belongs to the first line. -/
theorem lines_cons {c : Char} (other : c ≠ '\n') {text first : List Char} {rest : List (List Char)}
    (found : lines text = first :: rest) : lines (c :: text) = (c :: first) :: rest := by
  refine pieces_cons_of_uncut ?_ found
  exact beq_false_of_ne other

/-- A text without a line feed is one line. -/
theorem lines_unbroken {line : List Char} (unbroken : '\n' ∉ line) : lines line = [line] := by
  refine pieces_uncut ?_
  rintro c member
  rw [beq_eq_false_iff_ne]
  rintro rfl
  exact unbroken member

/-- A line feed ends a line. -/
theorem lines_append_feed {line : List Char} (unbroken : '\n' ∉ line) (rest : List Char) :
    lines (line ++ '\n' :: rest) = line :: lines rest := by
  rw [lines, pieces_append_cut rfl]
  exact congrArg (· ++ lines rest) (lines_unbroken unbroken)

/-- Texts line by line: what holds of every last line, and of a line and the rest if it holds of the
rest, holds of every text. -/
@[elab_as_elim]
theorem lineInduction {motive : List Char → Prop}
    (last : ∀ line, '\n' ∉ line → motive line)
    (feed : ∀ line rest, '\n' ∉ line → motive rest → motive (line ++ '\n' :: rest))
    (text : List Char) : motive text := by
  -- A line grows by one character at a time until it is ended.
  have grown : ∀ line, '\n' ∉ line → motive (line ++ text) := by
    induction text with
    | nil =>
      intro line unbroken
      rw [List.append_nil]
      exact last line unbroken
    | cons c text ih =>
      intro line unbroken
      by_cases ends : c = '\n'
      · subst ends
        exact feed line text unbroken (ih [] List.not_mem_nil)
      · have longer : '\n' ∉ line ++ [c] := by simp [unbroken, Ne.symm ends]
        rw [List.append_cons]
        exact ih (line ++ [c]) longer
  exact grown [] List.not_mem_nil

end LoadSweep.Text
