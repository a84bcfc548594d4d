import LoadSweep.Proofs.Text.Cuts
import LoadSweep.Scrape
import Mathlib.Data.List.TakeWhile
import Mathlib.Tactic.IntervalCases

/-!
# Figures in running text

A figure is printed as digits, with an optional point and more digits, and a phrase says what stands
around it: an opening, blanks and a closing.  Whether a phrase stands at a position is a matter of
the text alone (`Phrase.Stands`), and only one figure can stand there (`Phrase.Stands.unique`).

The readers try one position after the other and read a numeral greedily.  They find the figure of
the first position at which the phrase stands (`Phrase.Reads.firstMatch?_iff`).  Decimal digits of
every script make a figure, but only ASCII digits have a value (`readFloat?_ascii`,
`readFloat?_foreign`).

The main statement is `figures_are_leftmost`.
-/

namespace LoadSweep

open Text Number

set_option autoImplicit false

/-! ## Digits and blanks -/

namespace Text

/-- A digit of another script lies beyond ASCII. -/
theorem isDecimalDigit_cases {c : Char} (digit : isDecimalDigit c = true) :
    c.isDigit = true ∨ 128 ≤ c.toNat := by
  rw [isDecimalDigit] at digit
  split at digit
  · exact .inl digit
  · exact .inr (by omega)

theorem isDigit_of_isDecimalDigit {c : Char} (digit : isDecimalDigit c = true)
    (ascii : c.toNat < 128) : c.isDigit = true := by
  rcases isDecimalDigit_cases digit with here | beyond
  · exact here
  · omega

theorem lt_of_isDigit {c : Char} (digit : c.isDigit = true) : c.toNat < 128 := by
  obtain ⟨-, high⟩ := Char.isDigit_iff_toNat.mp digit
  have nine : '9'.toNat = 57 := rfl
  omega

/-- No script has a blank among its digits. -/
theorem isDecimalDigit_of_isBlank {c : Char} (blank : isBlank c = true) :
    isDecimalDigit c = false := by
  have separate : ∀ n : Nat, ((9 ≤ n ∧ n ≤ 13) ∨ n = 0x20 ∨ n = 0x85 ∨ n = 0xA0 ∨ n = 0x1680 ∨
      (0x2000 ≤ n ∧ n ≤ 0x200A) ∨ n = 0x2028 ∨ n = 0x2029 ∨ n = 0x202F ∨ n = 0x205F ∨
      n = 0x3000) → ¬ (48 ≤ n ∧ n ≤ 57) ∧
        (decimalZeros.any fun first => first ≤ n && n < first + 10) = false := by
    rintro n (⟨low, high⟩ | rfl | rfl | rfl | rfl | ⟨low, high⟩ | rfl | rfl | rfl | rfl | rfl)
    case inl => interval_cases n <;> decide
    case inr.inr.inr.inr.inr.inl => interval_cases n <;> decide
    all_goals decide
  simp only [isBlank, Bool.or_eq_true, Bool.and_eq_true, decide_eq_true_eq, beq_iff_eq,
    or_assoc] at blank
  obtain ⟨ascii, foreign⟩ := separate c.toNat blank
  rw [isDecimalDigit]
  split
  · exact Bool.eq_false_iff.mpr fun digit => ascii (Char.isDigit_iff_toNat.mp digit)
  · exact foreign

/-- Digits have no letter case. -/
theorem toLower_of_isDecimalDigit {c : Char} (digit : isDecimalDigit c = true) :
    c.toLower = c := by
  have letter : ¬ (c.val ≥ 'A'.val ∧ c.val ≤ 'Z'.val) := by
    rintro ⟨low, high⟩
    have least : 65 ≤ c.toNat := UInt32.le_iff_toNat_le.mp low
    have most : c.toNat ≤ 90 := UInt32.le_iff_toNat_le.mp high
    rcases isDecimalDigit_cases digit with here | beyond
    · obtain ⟨-, nine⟩ := Char.isDigit_iff_toNat.mp here
      have value : '9'.toNat = 57 := rfl
      omega
    · omega
  exact dif_neg letter

theorem ne_of_isDecimalDigit {c d : Char} (digit : isDecimalDigit c = true)
    (other : isDecimalDigit d = false) : c ≠ d := by
  rintro rfl
  cases digit.symm.trans other

end Text

namespace Scrape

/-! ## Figures -/

/-- A figure as it is printed, in decimal digits of any script. -/
structure Figure where
  whole : List Char
  /-- The digits after the point; without them there is no point. -/
  fraction : List Char
  some : whole ≠ []
  wholeDigits : ∀ c ∈ whole, isDecimalDigit c = true
  fractionDigits : ∀ c ∈ fraction, isDecimalDigit c = true

namespace Figure

/-- The figure of one digit. -/
def ofDigit (d : Char) (digit : isDecimalDigit d = true) : Figure where
  whole := [d]
  fraction := []
  some := List.cons_ne_nil d []
  wholeDigits := List.forall_mem_singleton.mpr digit
  fractionDigits := List.forall_mem_nil _

/-- The characters of a figure. -/
def text (figure : Figure) : List Char :=
  if figure.fraction.isEmpty then figure.whole else figure.whole ++ '.' :: figure.fraction

/-- Whether all digits of a figure are those of ASCII. -/
def IsAscii (figure : Figure) : Prop :=
  ∀ c ∈ figure.text, c.toNat < 128

instance (figure : Figure) : Decidable figure.IsAscii :=
  List.decidableBAll (fun c : Char => c.toNat < 128) figure.text

/-- The number that the digits of a figure spell. -/
def value (figure : Figure) : Float :=
  nearest (naturalOfDigits (figure.whole ++ figure.fraction)) (-(figure.fraction.length : Int))

theorem text_of_nil {figure : Figure} (plain : figure.fraction = []) :
    figure.text = figure.whole := by
  rw [text, plain]
  rfl

theorem text_of_ne_nil {figure : Figure} (parted : figure.fraction ≠ []) :
    figure.text = figure.whole ++ '.' :: figure.fraction := by
  rw [text, if_neg (by simpa using parted)]

/-- The digits before the point are those at the start of the characters. -/
theorem takeWhile_text (figure : Figure) :
    figure.text.takeWhile isDecimalDigit = figure.whole := by
  by_cases plain : figure.fraction = []
  · rw [text_of_nil plain]
    exact List.takeWhile_eq_self_iff.mpr figure.wholeDigits
  · rw [text_of_ne_nil plain]
    have point : ∀ c ∈ ('.' :: figure.fraction).head?, isDecimalDigit c = false := by
      rintro c ⟨⟩
      decide
    exact (span_until figure.wholeDigits point).1

/-- The characters of a figure say what figure it is. -/
theorem eq_of_text {figure other : Figure} (same : figure.text = other.text) : figure = other := by
  have whole : figure.whole = other.whole := by
    rw [← figure.takeWhile_text, ← other.takeWhile_text, same]
  have fraction : figure.fraction = other.fraction := by
    by_cases plain : figure.fraction = [] <;> by_cases otherPlain : other.fraction = []
    · rw [plain, otherPlain]
    · rw [text_of_nil plain, text_of_ne_nil otherPlain, whole] at same
      simp at same
    · rw [text_of_ne_nil plain, text_of_nil otherPlain, whole] at same
      simp at same
    · rw [text_of_ne_nil plain, text_of_ne_nil otherPlain, whole] at same
      simpa using same
  cases figure
  cases other
  cases whole
  cases fraction
  rfl

/-- A figure starts with a digit. -/
theorem text_eq_cons (figure : Figure) :
    ∃ c rest, figure.text = c :: rest ∧ isDecimalDigit c = true := by
  obtain ⟨c, others, whole⟩ := List.exists_cons_of_ne_nil figure.some
  have digit : isDecimalDigit c = true := figure.wholeDigits c (whole ▸ List.mem_cons_self)
  by_cases plain : figure.fraction = []
  · exact ⟨c, others, by rw [text_of_nil plain, whole], digit⟩
  · exact ⟨c, others ++ '.' :: figure.fraction, by rw [text_of_ne_nil plain, whole]; rfl, digit⟩

end Figure

/-! ## Reading a figure -/

/-- What can follow a figure: neither a digit nor a point. -/
def Stops (rest : List Char) : Prop :=
  ∀ c ∈ rest.head?, isDecimalDigit c = false ∧ c ≠ '.'

/-- A figure is read whole if what follows cannot belong to it. -/
theorem numeral?_figure (figure : Figure) {rest : List Char} (stops : Stops rest) :
    numeral? (figure.text ++ rest) = some (figure.text, rest) := by
  have notDigit : ∀ c ∈ rest.head?, isDecimalDigit c = false := fun c first => (stops c first).1
  have nonempty : figure.whole.isEmpty = false := by simpa using figure.some
  by_cases plain : figure.fraction = []
  · obtain ⟨taken, left⟩ := span_until figure.wholeDigits notDigit
    rw [Figure.text_of_nil plain, numeral?, taken, left, nonempty]
    cases rest with
    | nil => rfl
    | cons c rest =>
      have noPoint : c ≠ '.' := (stops c rfl).2
      simp [noPoint]
  · have point : ∀ c ∈ ('.' :: (figure.fraction ++ rest)).head?, isDecimalDigit c = false := by
      simp
      decide
    obtain ⟨taken, left⟩ := span_until figure.wholeDigits point
    obtain ⟨parted, after⟩ := span_until figure.fractionDigits notDigit
    have some : figure.fraction.isEmpty = false := by simpa using plain
    rw [Figure.text_of_ne_nil plain, List.append_assoc, List.cons_append, numeral?, taken, left,
      nonempty]
    simp [parted, after, some]

/-- What is read as a numeral is a figure. -/
theorem numeral?_inv {text digits rest : List Char}
    (read : numeral? text = some (digits, rest)) :
    ∃ figure : Figure, figure.text = digits ∧ text = digits ++ rest := by
  have taken : ∀ c ∈ text.takeWhile isDecimalDigit, isDecimalDigit c = true :=
    fun c member => List.mem_takeWhile_imp member
  have parts : text.takeWhile isDecimalDigit ++ text.dropWhile isDecimalDigit = text :=
    List.takeWhile_append_dropWhile
  simp only [numeral?] at read
  split at read
  · cases read
  · rename_i whole
    have some : text.takeWhile isDecimalDigit ≠ [] := by simpa using whole
    split at read
    · rename_i after point
      split at read
      · cases read
        exact ⟨⟨_, [], some, taken, nofun⟩, rfl, parts.symm⟩
      · rename_i fraction
        cases read
        refine ⟨⟨_, after.takeWhile isDecimalDigit, some, taken,
          fun c member => List.mem_takeWhile_imp member⟩, ?_, ?_⟩
        · exact Figure.text_of_ne_nil (by simpa using fraction)
        · rw [List.append_assoc, List.cons_append, List.takeWhile_append_dropWhile, ← point, parts]
    · cases read
      exact ⟨⟨_, [], some, taken, nofun⟩, rfl, parts.symm⟩

/-! ## The value of a figure -/

theorem ascii_of_readNatural? {text : List Char} {n : Nat} (read : readNatural? text = some n) :
    ∀ c ∈ text, c.toNat < 128 := by
  rw [readNatural?] at read
  split at read
  · cases read
  · rename_i wellformed
    simp only [Bool.or_eq_true, Bool.not_eq_true', not_or, Bool.not_eq_false,
      List.all_eq_true] at wellformed
    exact fun c member => lt_of_isDigit (wellformed.2 c member)

theorem ascii_of_readExponent? {text : List Char} {e : Int} (read : readExponent? text = some e) :
    ∀ c ∈ text, c.toNat < 128 := by
  cases text with
  | nil => nofun
  | cons letter rest =>
    simp only [readExponent?] at read
    split at read
    · rename_i isLetter
      obtain ⟨_, cast, -⟩ := Option.map_eq_some_iff.mp read
      obtain ⟨n, natural, -⟩ := Option.bind_eq_some_iff.mp cast
      have digits := ascii_of_readNatural? natural
      have first : letter.toNat < 128 := by
        rcases (by simpa using isLetter : letter = 'e' ∨ letter = 'E') with rfl | rfl <;> decide
      refine List.forall_mem_cons.mpr ⟨first, ?_⟩
      unfold splitSign at digits
      split at digits
      · exact List.forall_mem_cons.mpr ⟨by decide, digits⟩
      · exact List.forall_mem_cons.mpr ⟨by decide, digits⟩
      · exact digits
    · cases read

/-- Digits and what follows them are ASCII if what follows them is. -/
theorem ascii_of_dropWhile {text : List Char}
    (rest : ∀ c ∈ text.dropWhile Char.isDigit, c.toNat < 128) : ∀ c ∈ text, c.toNat < 128 := by
  rw [← List.takeWhile_append_dropWhile (p := Char.isDigit) (l := text)]
  exact List.forall_mem_append.mpr
    ⟨fun c member => lt_of_isDigit (List.mem_takeWhile_imp member), rest⟩

/-- A numeral with a value is ASCII throughout. -/
theorem ascii_of_readUnsigned? {negative : Bool} {text : List Char} {d : Decimal}
    (read : readUnsigned? negative text = some d) : ∀ c ∈ text, c.toNat < 128 := by
  simp only [readUnsigned?] at read
  split at read
  · cases read
  · obtain ⟨e, found, -⟩ := Option.map_eq_some_iff.mp read
    refine ascii_of_dropWhile ?_
    unfold splitFraction at found
    split at found
    · rename_i after point
      rw [point]
      exact List.forall_mem_cons.mpr
        ⟨by decide, ascii_of_dropWhile (ascii_of_readExponent? found)⟩
    · exact ascii_of_readExponent? found

/-- What starts with a digit has no sign and is no word. -/
theorem readFloat?_of_digit {c : Char} {rest : List Char} (digit : isDecimalDigit c = true) :
    readFloat? (c :: rest) = (readUnsigned? false (c :: rest)).map Decimal.toFloat := by
  have minus : c ≠ '-' := ne_of_isDecimalDigit digit (by decide)
  have plus : c ≠ '+' := ne_of_isDecimalDigit digit (by decide)
  have unsigned : splitSign (c :: rest) = (false, c :: rest) := by
    unfold splitSign
    split <;> simp_all
  have lower : lowerAscii (c :: rest) = c :: lowerAscii rest := by
    rw [lowerAscii, List.map_cons, toLower_of_isDecimalDigit digit]
    rfl
  have other : ∀ (word : String) (first : Char) (more : List Char), word.toList = first :: more →
      isDecimalDigit first = false → (String.ofList (lowerAscii (c :: rest)) == word) = false := by
    intro word first more spelt letter
    rw [beq_eq_false_iff_ne]
    rintro rfl
    rw [String.toList_ofList, lower] at spelt
    exact ne_of_isDecimalDigit digit letter (List.cons.inj spelt).1
  have wordless : readWord? (c :: rest) = none := by
    simp only [readWord?, other "inf" 'i' ['n', 'f'] (by simp) (by decide),
      other "infinity" 'i' "nfinity".toList (by simp) (by decide),
      other "nan" 'n' ['a', 'n'] (by simp) (by decide)]
    rfl
  simp only [readFloat?, unsigned, wordless]

/-- Digits of ASCII have the value that they spell. -/
theorem readFloat?_ascii {figure : Figure} (ascii : figure.IsAscii) :
    readFloat? figure.text = some figure.value := by
  have digits : ∀ part : List Char, (∀ c ∈ part, c ∈ figure.text) →
      (∀ c ∈ part, isDecimalDigit c = true) → ∀ c ∈ part, c.isDigit = true :=
    fun part within decimal c member =>
      isDigit_of_isDecimalDigit (decimal c member) (ascii c (within c member))
  have nonempty : figure.whole.isEmpty = false := by simpa using figure.some
  obtain ⟨c, rest, starts, digit⟩ := figure.text_eq_cons
  have unsigned : readUnsigned? false figure.text =
      some ⟨false, naturalOfDigits (figure.whole ++ figure.fraction),
        0 - (figure.fraction.length : Int)⟩ := by
    by_cases plain : figure.fraction = []
    · have text := Figure.text_of_nil plain
      have whole := digits figure.whole (fun c member => text ▸ member) figure.wholeDigits
      obtain ⟨taken, left⟩ := span_whole whole
      simp [readUnsigned?, text, taken, left, splitFraction, nonempty, readExponent?, plain]
    · have text := Figure.text_of_ne_nil plain
      have whole := digits figure.whole (fun c member => by simp [text, member])
        figure.wholeDigits
      have fraction := digits figure.fraction (fun c member => by simp [text, member])
        figure.fractionDigits
      have point : ∀ c ∈ ('.' :: figure.fraction).head?, c.isDigit = false := by
        rintro c ⟨⟩
        decide
      obtain ⟨taken, left⟩ := span_until whole point
      obtain ⟨parted, nothing⟩ := span_whole fraction
      simp [readUnsigned?, text, taken, left, splitFraction, nonempty, parted, nothing,
        readExponent?]
  rw [starts, readFloat?_of_digit digit, ← starts, unsigned, Option.map_some, Decimal.toFloat,
    withSign, if_neg nofun, Int.zero_sub]
  rfl

/-- Digits of other scripts have no value. -/
theorem readFloat?_foreign {figure : Figure} (foreign : ¬ figure.IsAscii) :
    readFloat? figure.text = none := by
  obtain ⟨c, rest, starts, digit⟩ := figure.text_eq_cons
  rw [starts, readFloat?_of_digit digit, Option.map_eq_none_iff, ← starts]
  cases read : readUnsigned? false figure.text with
  | none => rfl
  | some d => exact absurd (ascii_of_readUnsigned? read) foreign

/-! ## The first match -/

/-- The first match is that of the first position at which a reader succeeds. -/
theorem firstMatch?_eq_some_iff {α : Type} (reader? : List Char → Option α) (text : List Char)
    (result : α) :
    firstMatch? reader? text = some result ↔
      ∃ position, reader? (text.drop position) = some result ∧
        ∀ earlier < position, reader? (text.drop earlier) = none := by
  induction text with
  | nil =>
    simp only [firstMatch?, List.drop_nil]
    exact ⟨fun read => ⟨0, read, nofun⟩, fun ⟨_, read, _⟩ => read⟩
  | cons c rest ih =>
    rw [firstMatch?]
    cases here : reader? (c :: rest) with
    | some found =>
      constructor
      · rintro ⟨⟩
        exact ⟨0, here, nofun⟩
      · rintro ⟨position, read, first⟩
        cases position with
        | zero => exact here.symm.trans read
        | succ position => cases here.symm.trans (first 0 (Nat.succ_pos position))
    | none =>
      simp only [ih]
      constructor
      · rintro ⟨position, read, first⟩
        refine ⟨position + 1, read, fun earlier before => ?_⟩
        cases earlier with
        | zero => exact here
        | succ earlier => exact first earlier (Nat.lt_of_succ_lt_succ before)
      · rintro ⟨position, read, first⟩
        cases position with
        | zero => cases here.symm.trans read
        | succ position =>
          exact ⟨position, read, fun earlier before => first _ (Nat.succ_lt_succ before)⟩

theorem firstMatch?_eq_none_iff {α : Type} (reader? : List Char → Option α) (text : List Char) :
    firstMatch? reader? text = none ↔ ∀ position, reader? (text.drop position) = none := by
  induction text with
  | nil =>
    simp only [firstMatch?, List.drop_nil]
    exact ⟨fun nothing _ => nothing, fun nothing => nothing 0⟩
  | cons c rest ih =>
    rw [firstMatch?]
    cases here : reader? (c :: rest) with
    | some found => exact ⟨nofun, fun nothing => here.symm.trans (nothing 0)⟩
    | none =>
      simp only [ih]
      constructor
      · rintro nothing (_ | position)
        · exact here
        · exact nothing position
      · exact fun nothing position => nothing (position + 1)

/-! ## Phrases -/

/-- What stands around a figure.  Neither the end of the opening nor the start of the closing can
belong to a figure. -/
structure Phrase where
  opening : List Char
  /-- Whether a blank must stand between the figure and the closing. -/
  spaced : Bool
  closing : List Char
  openingStops : Stops opening.reverse
  closingStarts : ∃ c rest, closing = c :: rest ∧ isBlank c = false ∧
    isDecimalDigit c = false ∧ c ≠ '.'

/-- The phrase for the throughput: a figure, blanks and `requests per second`. -/
def throughputPhrase : Phrase where
  opening := []
  spaced := true
  closing := "requests per second".toList
  openingStops := nofun
  closingStarts := ⟨'r', "equests per second".toList, by simp, by decide, by decide, by decide⟩

/-- The phrase for the median latency: `p50=`, a figure, possibly blanks and `msec`. -/
def medianPhrase : Phrase where
  opening := "p50=".toList
  spaced := false
  closing := "msec".toList
  openingStops := by
    rintro c ⟨⟩
    decide
  closingStarts := ⟨'m', "sec".toList, by simp, by decide, by decide, by decide⟩

namespace Phrase

variable {phrase : Phrase} {reader? : List Char → Option (List Char)} {text : List Char}

/-- A phrase with a figure stands at the start of a text. -/
def Stands (phrase : Phrase) (figure : Figure) (text : List Char) : Prop :=
  ∃ blanks rest, (∀ c ∈ blanks, isBlank c = true) ∧ (phrase.spaced = true → blanks ≠ []) ∧
    text = phrase.opening ++ (figure.text ++ (blanks ++ (phrase.closing ++ rest)))

/-- A phrase stands at a position of a text, and at no earlier one. -/
structure Leftmost (phrase : Phrase) (figure : Figure) (position : Nat) (text : List Char) :
    Prop where
  here : phrase.Stands figure (text.drop position)
  first : ∀ earlier < position, ∀ other, ¬ phrase.Stands other (text.drop earlier)

/-- Blanks and a closing cannot belong to a figure. -/
theorem stops_behind (phrase : Phrase) {blanks : List Char}
    (blank : ∀ c ∈ blanks, isBlank c = true) (rest : List Char) :
    Stops (blanks ++ (phrase.closing ++ rest)) := by
  cases blanks with
  | nil =>
    obtain ⟨c, others, closing, -, notDigit, notPoint⟩ := phrase.closingStarts
    rw [closing]
    rintro _ ⟨⟩
    exact ⟨notDigit, notPoint⟩
  | cons c blanks =>
    rintro _ ⟨⟩
    have here : isBlank c = true := blank c List.mem_cons_self
    refine ⟨isDecimalDigit_of_isBlank here, ?_⟩
    rintro rfl
    cases here

/-- Blanks are skipped up to a closing. -/
theorem dropWhile_blanks (phrase : Phrase) {blanks : List Char}
    (blank : ∀ c ∈ blanks, isBlank c = true) (rest : List Char) :
    (blanks ++ (phrase.closing ++ rest)).dropWhile isBlank = phrase.closing ++ rest := by
  obtain ⟨c, others, closing, notBlank, -⟩ := phrase.closingStarts
  refine (span_until blank ?_).2
  rw [closing]
  rintro _ ⟨⟩
  exact notBlank

/-- A reader of a phrase yields the characters of the figure exactly where the phrase stands. -/
def Reads (phrase : Phrase) (reader? : List Char → Option (List Char)) : Prop :=
  ∀ text digits, reader? text = some digits ↔
    ∃ figure, phrase.Stands figure text ∧ figure.text = digits

theorem reads_throughput : throughputPhrase.Reads throughputAt? := by
  intro text digits
  constructor
  · intro read
    obtain ⟨⟨numeral, rest⟩, found, behind⟩ := Option.bind_eq_some_iff.mp read
    obtain ⟨figure, rfl, rfl⟩ := numeral?_inv found
    cases rest with
    | nil => cases behind
    | cons c more =>
      dsimp only at behind
      split at behind
      · rename_i blank
        obtain ⟨after, closed, rfl⟩ := Option.map_eq_some_iff.mp behind
        have left := stripOpening?_eq_some_iff.mp closed
        refine ⟨figure, ⟨c :: more.takeWhile isBlank, after, ?_, fun _ => nofun, ?_⟩, rfl⟩
        · exact List.forall_mem_cons.mpr ⟨blank, fun c member => List.mem_takeWhile_imp member⟩
        · rw [throughputPhrase, ← left, List.cons_append, List.takeWhile_append_dropWhile]
          rfl
      · cases behind
  · rintro ⟨figure, ⟨blanks, rest, blank, spaced, rfl⟩, rfl⟩
    have read := numeral?_figure figure (throughputPhrase.stops_behind blank rest)
    have skipped := throughputPhrase.dropWhile_blanks blank rest
    obtain ⟨c, others, rfl⟩ := List.exists_cons_of_ne_nil (spaced rfl)
    have here : isBlank c = true := blank c List.mem_cons_self
    rw [List.cons_append, List.dropWhile_cons_of_pos here] at skipped
    change throughputAt? (figure.text ++ (c :: others ++ (throughputPhrase.closing ++ rest))) = _
    rw [throughputAt?, read, Option.bind_some]
    simp only [List.cons_append, here, if_true, skipped]
    rw [throughputPhrase, stripOpening?_append, Option.map_some]

theorem reads_median : medianPhrase.Reads medianAt? := by
  intro text digits
  constructor
  · intro read
    obtain ⟨body, opened, inside⟩ := Option.bind_eq_some_iff.mp read
    obtain ⟨⟨numeral, rest⟩, found, behind⟩ := Option.bind_eq_some_iff.mp inside
    obtain ⟨figure, rfl, rfl⟩ := numeral?_inv found
    obtain ⟨after, closed, rfl⟩ := Option.map_eq_some_iff.mp behind
    have left := stripOpening?_eq_some_iff.mp closed
    refine ⟨figure, ⟨rest.takeWhile isBlank, after, ?_, nofun, ?_⟩, rfl⟩
    · exact fun c member => List.mem_takeWhile_imp member
    · rw [medianPhrase, ← left, List.takeWhile_append_dropWhile]
      exact stripOpening?_eq_some_iff.mp opened
  · rintro ⟨figure, ⟨blanks, rest, blank, -, rfl⟩, rfl⟩
    have read := numeral?_figure figure (medianPhrase.stops_behind blank rest)
    have skipped := medianPhrase.dropWhile_blanks blank rest
    change medianAt? ("p50=".toList ++ (figure.text ++ (blanks ++ (medianPhrase.closing ++ rest))))
      = _
    rw [medianAt?, stripOpening?_append, Option.bind_some, read, Option.bind_some]
    simp only [skipped]
    rw [medianPhrase, stripOpening?_append, Option.map_some]

/-- Only one figure can stand at a place. -/
theorem Stands.unique (reads : phrase.Reads reader?) {figure other : Figure}
    (stands : phrase.Stands figure text) (stands' : phrase.Stands other text) :
    figure = other := by
  have one := (reads text figure.text).mpr ⟨figure, stands, rfl⟩
  have two := (reads text other.text).mpr ⟨other, stands', rfl⟩
  exact Figure.eq_of_text (Option.some.inj (one.symm.trans two))

/-- The first match of a phrase is the figure of its leftmost place. -/
theorem Reads.firstMatch?_iff (reads : phrase.Reads reader?) (digits : List Char) :
    firstMatch? reader? text = some digits ↔
      ∃ figure position, phrase.Leftmost figure position text ∧ figure.text = digits := by
  have silent : ∀ position, reader? (text.drop position) = none ↔
      ∀ other, ¬ phrase.Stands other (text.drop position) := by
    intro position
    rw [Option.eq_none_iff_forall_ne_some]
    exact ⟨fun none other stands => none _ ((reads _ _).mpr ⟨other, stands, rfl⟩),
      fun none digits read => have ⟨other, stands, _⟩ := (reads _ _).mp read
        none other stands⟩
  simp only [firstMatch?_eq_some_iff, reads _ _, silent]
  constructor
  · rintro ⟨position, ⟨figure, stands, spelt⟩, first⟩
    exact ⟨figure, position, ⟨stands, first⟩, spelt⟩
  · rintro ⟨figure, position, ⟨stands, first⟩, spelt⟩
    exact ⟨position, ⟨figure, stands, spelt⟩, first⟩

/-- There is no first match exactly if the phrase stands nowhere. -/
theorem Reads.firstMatch?_none_iff (reads : phrase.Reads reader?) :
    firstMatch? reader? text = none ↔
      ∀ figure position, ¬ phrase.Stands figure (text.drop position) := by
  rw [firstMatch?_eq_none_iff]
  constructor
  · intro nothing figure position stands
    cases (nothing position).symm.trans ((reads _ _).mpr ⟨figure, stands, rfl⟩)
  · intro nowhere position
    cases read : reader? (text.drop position) with
    | none => rfl
    | some digits =>
      obtain ⟨figure, stands, -⟩ := (reads _ _).mp read
      exact absurd stands (nowhere figure position)

/-! ## Whole figures -/

end Phrase

/-- A figure is whole between two texts: no digit before it belongs to it, it is not the fraction of
a longer figure, and nothing after it belongs to it. -/
structure Figure.Whole (figure : Figure) (before after : List Char) : Prop where
  front : ∀ shorter c, before = shorter ++ [c] → isDecimalDigit c = false
  point : figure.fraction = [] → ∀ shorter c, before = shorter ++ [c, '.'] →
    isDecimalDigit c = false
  back : Stops after

namespace Phrase

variable {phrase : Phrase} {text : List Char}

/-- Without an opening, what stands at a place is behind no place of another figure. -/
theorem Leftmost.not_behind {figure : Figure} {position : Nat}
    (leftmost : phrase.Leftmost figure position text) (unopened : phrase.opening = [])
    {shorter front : List Char} (before : text.take position = shorter ++ front)
    (nonempty : front ≠ []) (longer : Figure) : longer.text ≠ front ++ figure.text := by
  intro spelt
  obtain ⟨blanks, rest, blank, spaced, stands⟩ := leftmost.here
  have earlier : shorter.length < position := by
    have length := congrArg List.length before
    have some := List.length_pos_iff.mpr nonempty
    rw [List.length_append] at length
    have most := List.length_take_le position text
    omega
  refine leftmost.first shorter.length earlier longer ⟨blanks, rest, blank, spaced, ?_⟩
  have parts : text = shorter ++ (front ++ text.drop position) := by
    rw [← List.append_assoc, ← before, List.take_append_drop]
  have behind : text.drop shorter.length = front ++ text.drop position := by
    rw [parts, List.drop_left, ← parts]
  rw [behind, stands, unopened, spelt, List.nil_append, List.nil_append, List.append_assoc]

/-- The figure of the leftmost place is whole. -/
theorem Leftmost.whole {figure : Figure} {position : Nat}
    (leftmost : phrase.Leftmost figure position text) :
    ∃ after, text.drop position = phrase.opening ++ (figure.text ++ after) ∧
      figure.Whole (text.take position ++ phrase.opening) after := by
  obtain ⟨blanks, rest, blank, spaced, stands⟩ := leftmost.here
  refine ⟨_, stands, ?_⟩
  rcases List.eq_nil_or_concat phrase.opening with unopened | ⟨opening, last, opened⟩
  · rw [unopened, List.append_nil]
    refine ⟨fun shorter c before => ?_, fun plain shorter c before => ?_,
      phrase.stops_behind blank rest⟩
    · -- The figure with one more digit in front would stand at an earlier place.
      refine Bool.eq_false_iff.mpr fun digit => ?_
      refine leftmost.not_behind unopened before nofun
        ⟨c :: figure.whole, figure.fraction, nofun,
          List.forall_mem_cons.mpr ⟨digit, figure.wholeDigits⟩, figure.fractionDigits⟩ ?_
      unfold Figure.text
      split <;> rfl
    · -- The digit with the figure as its fraction would stand at an earlier place.
      refine Bool.eq_false_iff.mpr fun digit => ?_
      refine leftmost.not_behind unopened before nofun
        ⟨[c], figure.whole, nofun, List.forall_mem_singleton.mpr digit, figure.wholeDigits⟩ ?_
      rw [Figure.text_of_ne_nil figure.some, Figure.text_of_nil plain]
      rfl
  · have stops : ∀ c ∈ [last].head?, isDecimalDigit c = false ∧ c ≠ '.' := by
      have ends := phrase.openingStops
      rw [opened, List.concat_eq_append, List.reverse_append] at ends
      exact ends
    obtain ⟨notDigit, notPoint⟩ := stops last rfl
    rw [opened, List.concat_eq_append, ← List.append_assoc]
    refine ⟨fun shorter c before => ?_, fun _ shorter c before => ?_,
      phrase.stops_behind blank rest⟩
    · obtain ⟨-, same⟩ := List.append_inj' before rfl
      cases same
      exact notDigit
    · have split : shorter ++ [c, '.'] = (shorter ++ [c]) ++ ['.'] := by simp
      rw [split] at before
      obtain ⟨-, same⟩ := List.append_inj' before rfl
      cases same
      exact absurd rfl notPoint

/-- What is found of a phrase in a text: the value of the figure of its leftmost place, unless there
is no place or the figure has digits that are not ASCII.  Only one figure stands at a place, and
that of the leftmost place is whole. -/
structure Finds (phrase : Phrase) (text : List Char) (found : Option Float) : Prop where
  value : ∀ x, found = some x ↔
    ∃ figure position, phrase.Leftmost figure position text ∧ figure.IsAscii ∧ figure.value = x
  missing : found = none ↔
    (∀ figure position, ¬ phrase.Stands figure (text.drop position)) ∨
      ∃ figure position, phrase.Leftmost figure position text ∧ ¬ figure.IsAscii
  unique : ∀ figure other position, phrase.Stands figure (text.drop position) →
    phrase.Stands other (text.drop position) → figure = other
  whole : ∀ figure position, phrase.Leftmost figure position text →
    ∃ after, text.drop position = phrase.opening ++ (figure.text ++ after) ∧
      figure.Whole (text.take position ++ phrase.opening) after

/-- A reader of a phrase finds it. -/
theorem Reads.finds {reader? : List Char → Option (List Char)} (reads : phrase.Reads reader?)
    (text : List Char) : phrase.Finds text (figure? reader? text) where
  value := by
    intro x
    rw [figure?, Option.bind_eq_some_iff]
    constructor
    · rintro ⟨digits, matched, read⟩
      obtain ⟨figure, position, leftmost, rfl⟩ := (reads.firstMatch?_iff digits).mp matched
      by_cases ascii : figure.IsAscii
      · cases (readFloat?_ascii ascii).symm.trans read
        exact ⟨figure, position, leftmost, ascii, rfl⟩
      · cases (readFloat?_foreign ascii).symm.trans read
    · rintro ⟨figure, position, leftmost, ascii, rfl⟩
      exact ⟨_, (reads.firstMatch?_iff _).mpr ⟨figure, position, leftmost, rfl⟩,
        readFloat?_ascii ascii⟩
  missing := by
    rw [figure?, ← reads.firstMatch?_none_iff]
    cases matched : firstMatch? reader? text with
    | none =>
      simp only [Option.bind_none, true_or]
    | some digits =>
      obtain ⟨figure, position, leftmost, rfl⟩ := (reads.firstMatch?_iff digits).mp matched
      rw [Option.bind_some]
      constructor
      · intro unread
        refine .inr ⟨figure, position, leftmost, fun ascii => ?_⟩
        cases (readFloat?_ascii ascii).symm.trans unread
      · rintro (nothing | ⟨other, place, first, foreign⟩)
        · cases nothing
        · have same := (reads.firstMatch?_iff _).mpr ⟨other, place, first, rfl⟩
          rw [← Option.some.inj (same.symm.trans matched)]
          exact readFloat?_foreign foreign
  unique := fun _ _ _ stands stands' => stands.unique reads stands'
  whole := fun _ _ leftmost => leftmost.whole

end Phrase

end Scrape

open Scrape

/-! ## Scraped figures -/

theorem unifyLineEnds_append (before after : List Char) :
    unifyLineEnds (before ++ after) = unifyLineEnds before ++ unifyLineEnds after :=
  List.map_append

/-- The sample of an output has for every metric what is found of it. -/
theorem Sample.get_ofOutput (output : String) (metric : Metric) :
    (ofOutput output).get metric =
      findMetric? (unifyLineEnds output.toList)
        (latencyColumns? (unifyLineEnds output.toList)) metric := by
  cases metric <;> simp [ofOutput, scrape, Metric.all, get_set]

end LoadSweep
