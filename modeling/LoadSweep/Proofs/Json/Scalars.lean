import LoadSweep.Json.Reader
import LoadSweep.Json.Writer
import LoadSweep.Proofs.Text.Cuts

/-!
# Texts and numerals are read as they were written

A text is written with escapes for quotes, backslashes and control characters.  Every character is
written as one unit, and its unit is read back whatever follows (`readUnits?_escapeChar`); no unit
is half of a surrogate pair, so the units are put together again one by one (`assemble?_units`).

A numeral is written digit by digit.  It is read back if it has digits where a reader expects them,
no leading zero, and nothing behind it that could belong to it (`readNumber?_written`).
-/

namespace LoadSweep

set_option autoImplicit false

open Text

namespace Json

/-! ## Texts -/

/-- The unit that a character is written as: a control character without an escape of its own is
named by its number. -/
def unitOf (c : Char) : TextUnit :=
  if c.toNat < 0x20 && !(['\x08', '\x0c', '\n', '\r', '\t'].contains c) then .code c.toNat
  else .literal c

/-- The two hexadecimal digits of a control character are read back. -/
theorem hexNumber?_control :
    ∀ n < 32, hexNumber? ['0', '0', hexDigit (n / 16), hexDigit (n % 16)] = some n := by
  decide

/-- A character that needs no escape stands for itself. -/
theorem readUnits?_plain {c : Char} (quote : c ≠ '\x22') (escape : c ≠ '\\')
    (shown : ¬ c.toNat < 0x20) (rest : List Char) :
    readUnits? (c :: rest) =
      (readUnits? rest).map fun (units, rest) => (.literal c :: units, rest) := by
  rw [readUnits?]
  · simp [shown, escape]
  · exact quote
  · exact fun _ _ _ _ _ same _ => escape same
  · exact fun _ _ same _ => escape same

/-- A backslash and a letter are read as the character they stand for. -/
theorem readUnits?_letter {letter c : Char} (known : escaped? letter = some c) (rest : List Char) :
    readUnits? ('\\' :: letter :: rest) =
      (readUnits? rest).map fun (units, rest) => (.literal c :: units, rest) := by
  have notU : letter ≠ 'u' := by
    rintro rfl
    cases known
  rw [readUnits?]
  · rw [known]
    rfl
  · exact fun _ _ _ _ _ same _ => notU same

/-- A written character is read as its unit. -/
theorem readUnits?_escapeChar (c : Char) (rest : List Char) :
    readUnits? (escapeChar c ++ rest) =
      (readUnits? rest).map fun (units, rest) => (unitOf c :: units, rest) := by
  by_cases short : c ∈ ['\x22', '\\', '\x08', '\x0c', '\n', '\r', '\t']
  · -- Each of these has a letter of its own.
    simp only [List.mem_cons, List.not_mem_nil, or_false] at short
    rcases short with rfl | rfl | rfl | rfl | rfl | rfl | rfl <;>
      exact readUnits?_letter rfl rest
  simp only [List.mem_cons, List.not_mem_nil, or_false, not_or] at short
  obtain ⟨quote, escape, back, form, line, carriage, tab⟩ := short
  by_cases control : c.toNat < 0x20
  · have unit : unitOf c = .code c.toNat := by
      simp [unitOf, control, back, form, line, carriage, tab]
    have number := hexNumber?_control c.toNat control
    simp only [escapeChar, beq_iff_eq, quote, escape, back, form, line, carriage, tab, control,
      if_true, if_false, unit, List.cons_append, List.nil_append, readUnits?, number]
    rfl
  · have unit : unitOf c = .literal c := by simp [unitOf, control]
    simp only [escapeChar, beq_iff_eq, quote, escape, back, form, line, carriage, tab, control,
      if_false, unit]
    exact readUnits?_plain quote escape control rest

/-- A written text is read up to its closing quote. -/
theorem readUnits?_escaped (text rest : List Char) :
    readUnits? (text.flatMap escapeChar ++ '\x22' :: rest) = some (text.map unitOf, rest) := by
  induction text with
  | nil => rfl
  | cons c text ih =>
    rw [List.flatMap_cons, List.append_assoc, readUnits?_escapeChar, ih]
    rfl

/-- The number of a control character is a character by itself. -/
theorem assemble?_code {unit : Nat} (low : unit < 0x20) (units : List TextUnit) :
    assemble? (.code unit :: units) = (assemble? units).map (Char.ofNat unit :: ·) := by
  have notLeading : isLeading unit = false := by
    simp only [isLeading, Bool.and_eq_false_iff, decide_eq_false_iff_not]
    omega
  have notTrailing : isTrailing unit = false := by
    simp only [isTrailing, Bool.and_eq_false_iff, decide_eq_false_iff_not]
    omega
  cases units with
  | nil => simp [assemble?, notLeading, notTrailing]
  | cons next units =>
    cases next with
    | literal c => simp [assemble?, notLeading, notTrailing]
    | code trail => simp [assemble?, notLeading, notTrailing]

/-- The units of a text are put together again. -/
theorem assemble?_units (text : List Char) : assemble? (text.map unitOf) = some text := by
  induction text with
  | nil => rfl
  | cons c text ih =>
    rw [List.map_cons]
    by_cases control : c.toNat < 0x20 ∧ c ∉ ['\x08', '\x0c', '\n', '\r', '\t']
    · have unit : unitOf c = .code c.toNat := by simpa [unitOf] using control
      rw [unit, assemble?_code control.1, ih, Option.map_some, Char.ofNat_toNat]
    · have unit : unitOf c = .literal c := by simpa [unitOf] using control
      rw [unit, assemble?, ih, Option.map_some]

/-- A written text is read back, whatever follows its closing quote. -/
theorem readText?_quoted (text : String) (rest : List Char) :
    readText? (text.toList.flatMap escapeChar ++ '\x22' :: rest) = some (some text, rest) := by
  rw [readText?, readUnits?_escaped]
  simp [assemble?_units]

end Json

/-! ## Digits -/

namespace Text

theorem toList_toString (n : Nat) : (toString n).toList = Nat.toDigits 10 n :=
  String.toList_ofList

/-- The decimal digits of a number are digits, at least one of them. -/
theorem isDigit_of_toDigits {n : Nat} {c : Char} (member : c ∈ Nat.toDigits 10 n) :
    c.isDigit = true :=
  Nat.isDigit_of_mem_toDigits (by decide) (by decide) member

/-- The decimal digits of a number spell it. -/
theorem naturalOfDigits_toDigits (n : Nat) : naturalOfDigits (Nat.toDigits 10 n) = n :=
  Nat.ofDigitChars_toDigits (by decide) (by decide)

theorem readNatural?_toDigits (n : Nat) : readNatural? (Nat.toDigits 10 n) = some n := by
  have digits : ∀ c ∈ Nat.toDigits 10 n, c.isDigit = true := fun _ => isDigit_of_toDigits
  rw [readNatural?, if_neg, naturalOfDigits_toDigits]
  simpa using digits

/-- The decimal digits of a number have no leading zero. -/
theorem toDigits_ne_padded (n : Nat) (c : Char) (rest : List Char) :
    Nat.toDigits 10 n ≠ '0' :: c :: rest := by
  induction n using Nat.strongRecOn generalizing c rest with
  | ind n ih =>
    by_cases small : n < 10
    · rw [Nat.toDigits_of_lt_base small]
      simp
    · have large : 10 ≤ n := Nat.not_lt.mp small
      rw [Nat.toDigits_of_base_le (by decide) large]
      intro padded
      cases front : Nat.toDigits 10 (n / 10) with
      | nil => exact Nat.toDigits_ne_nil front
      | cons first others =>
        rw [front, List.cons_append] at padded
        obtain ⟨rfl, -⟩ := List.cons.inj padded
        cases others with
        | nil =>
          -- The number without its last digit would be zero.
          have zero := naturalOfDigits_toDigits (n / 10)
          rw [front] at zero
          have value : naturalOfDigits ['0'] = 0 := rfl
          omega
        | cons second others =>
          exact ih (n / 10) (Nat.div_lt_self (by omega) (by decide)) second others front

end Text

/-! ## Numerals -/

namespace Numeral

/-- A numeral of digits, with some before its point. -/
structure Digital (n : Numeral) : Prop where
  whole : ∀ c ∈ n.whole, c.isDigit = true
  some : n.whole ≠ []
  fraction : ∀ c ∈ n.fraction, c.isDigit = true

/-- Whether a numeral has a leading zero that it does not need. -/
def isPadded (n : Numeral) : Bool :=
  match n.whole with
  | '0' :: _ :: _ => true
  | _ => false

/-- A numeral that a reader accepts. -/
structure Wellformed (n : Numeral) : Prop extends n.Digital where
  unpadded : n.isPadded = false

theorem wellformed_ofNat (n : Nat) : (ofNat n).Wellformed where
  whole := fun _ member => isDigit_of_toDigits member
  some := Nat.toDigits_ne_nil
  fraction := nofun
  unpadded := by
    unfold isPadded
    split
    · rename_i padded
      exact absurd padded (toDigits_ne_padded n _ _)
    · rfl

/-- The numeral of shortest digits consists of digits. -/
theorem digital_ofShortest (negative : Bool) (d : Number.Digits) :
    (ofShortest negative d).Digital := by
  have digit : ∀ c ∈ Nat.toDigits 10 d.digits, c.isDigit = true := fun _ => isDigit_of_toDigits
  have zeros : ∀ count, ∀ c ∈ List.replicate count '0', c.isDigit = true := by
    intro count c member
    obtain ⟨-, rfl⟩ := List.mem_replicate.mp member
    rfl
  obtain ⟨first, others, digits⟩ :=
    List.exists_cons_of_ne_nil (Nat.toDigits_ne_nil (n := d.digits) (b := 10))
  unfold ofShortest
  dsimp only
  split
  · rename_i moderate
    split
    · refine ⟨by simp, List.cons_ne_nil _ _, ?_⟩
      intro c member
      rcases List.mem_append.mp member with zero | other
      · exact zeros _ c zero
      · exact digit c other
    · rename_i above
      have some : 0 < (d.exponent + (Nat.toDigits 10 d.digits).length).toNat := by omega
      refine ⟨?_, ?_, ?_⟩
      · intro c member
        rcases List.mem_append.mp member with taken | zero
        · exact digit c (List.mem_of_mem_take taken)
        · exact zeros _ c zero
      · intro none
        have taken := (List.append_eq_nil_iff.mp none).1
        rw [List.take_eq_nil_iff] at taken
        rcases taken with nothing | nothing
        · omega
        · exact Nat.toDigits_ne_nil nothing
      · intro c member
        split at member
        · exact zeros 1 c member
        · exact digit c (List.mem_of_mem_drop member)
  · refine ⟨?_, by simp [digits], ?_⟩
    · exact fun c member => digit c (List.mem_of_mem_take member)
    · exact fun c member => digit c (List.mem_of_mem_drop member)

/-- The numeral of a number consists of digits. -/
theorem digital_ofFloat {x : Float} {n : Numeral} (has : ofFloat? x = Option.some n) :
    n.Digital := by
  unfold ofFloat? at has
  split at has
  · cases has
    exact ⟨by simp, List.cons_ne_nil _ _, by simp⟩
  · cases has
    exact digital_ofShortest ..
  · cases has

/-- A number has a numeral exactly if it is finite. -/
theorem isSome_ofFloat? (x : Float) : (ofFloat? x).isSome = Number.isFinite x := by
  unfold ofFloat? Number.isFinite
  split <;> split <;> simp_all

end Numeral

namespace Json

/-- What can follow a numeral: nothing that could belong to it. -/
def Ends (rest : List Char) : Prop :=
  ∀ c ∈ rest.head?, c.isDigit = false ∧ c ≠ '.' ∧ c ≠ 'e' ∧ c ≠ 'E'

theorem ends_nil : Ends [] := nofun

/-- What a numeral can be followed by has no exponent. -/
theorem Ends.readExponent? {rest : List Char} (ends : Ends rest) :
    Json.readExponent? rest = some (none, rest) := by
  cases rest with
  | nil => rfl
  | cons c rest =>
    obtain ⟨-, -, lower, upper⟩ := ends c rfl
    simp [Json.readExponent?, lower, upper]

/-- The digits before the point are read back, unless there is a leading zero. -/
theorem readWhole?_digits {n : Numeral} (digital : n.Digital) {rest : List Char}
    (stop : ∀ c ∈ rest.head?, c.isDigit = false) :
    readWhole? (n.whole ++ rest) = if n.isPadded then none else some (n.whole, rest) := by
  obtain ⟨taken, left⟩ := span_until digital.whole stop
  obtain ⟨first, others, whole⟩ := List.exists_cons_of_ne_nil digital.some
  simp only [readWhole?, taken, left]
  by_cases zero : first = '0'
  · subst zero
    cases others with
    | nil =>
      have plain : n.isPadded = false := by simp [Numeral.isPadded, whole]
      simp [whole, plain]
    | cons second others =>
      have padded : n.isPadded = true := by simp [Numeral.isPadded, whole]
      simp [whole, padded]
  · have plain : n.isPadded = false := by simp [Numeral.isPadded, whole, zero]
    simp [whole, plain, zero]

/-- The exponent of a numeral as it is written. -/
def exponentText (exponent : Option Int) : List Char :=
  match exponent with
  | none => []
  | some e => 'e' :: (if e < 0 then '-' else '+') :: Nat.toDigits 10 e.natAbs

/-- A written exponent is read back. -/
theorem readExponent?_written (exponent : Option Int) {rest : List Char} (ends : Ends rest) :
    readExponent? (exponentText exponent ++ rest) = some (exponent, rest) := by
  cases exponent with
  | none => exact ends.readExponent?
  | some e =>
    have stop : ∀ c ∈ rest.head?, c.isDigit = false := fun c first => (ends c first).1
    have digits : ∀ c ∈ Nat.toDigits 10 e.natAbs, c.isDigit = true :=
      fun _ member => isDigit_of_toDigits member
    obtain ⟨taken, left⟩ := span_until digits stop
    have some : (Nat.toDigits 10 e.natAbs).isEmpty = false := by simp
    by_cases negative : e < 0
    · have size : -((e.natAbs : Nat) : Int) = e := by omega
      simp only [exponentText, negative, if_true, List.cons_append, readExponent?, Number.splitSign,
        taken, left, some, naturalOfDigits_toDigits, size]
      rfl
    · have size : ((e.natAbs : Nat) : Int) = e := by omega
      simp only [exponentText, negative, if_false, List.cons_append, readExponent?,
        Number.splitSign, taken, left, some, naturalOfDigits_toDigits, size]
      rfl

/-- The fraction of a numeral as it is written. -/
def fractionText (fraction : List Char) : List Char :=
  if fraction.isEmpty then [] else '.' :: fraction

/-- A written fraction is read back. -/
theorem readFraction?_written {fraction rest : List Char} (all : ∀ c ∈ fraction, c.isDigit = true)
    (stop : ∀ c ∈ rest.head?, c.isDigit = false ∧ c ≠ '.') :
    readFraction? (fractionText fraction ++ rest) = some (fraction, rest) := by
  cases fraction with
  | nil =>
    cases rest with
    | nil => rfl
    | cons c rest =>
      have point := (stop c rfl).2
      simp [fractionText, readFraction?, point]
  | cons digit fraction =>
    obtain ⟨taken, left⟩ := span_until all fun c first => (stop c first).1
    simp only [fractionText, List.isEmpty_cons, Bool.false_eq_true, if_false, List.cons_append,
      readFraction?]
    rw [← List.cons_append, taken, left]
    rfl

/-- A numeral after its sign. -/
def readUnsigned? (negative : Bool) (source : List Char) : Option (Json × List Char) :=
  (readWhole? source).bind fun (whole, rest) =>
    (readFraction? rest).bind fun (fraction, rest) =>
      (readExponent? rest).map fun (exponent, rest) =>
        (.number ⟨negative, whole, fraction, exponent⟩, rest)

theorem readNumber?_minus (source : List Char) :
    readNumber? ('-' :: source) = readUnsigned? true source := rfl

theorem readNumber?_plain {first : Char} (plain : first ≠ '-') (source : List Char) :
    readNumber? (first :: source) = readUnsigned? false (first :: source) := by
  unfold readNumber?
  split
  rename_i negative body split
  have same : (negative, body) = (false, first :: source) := by
    rw [← split]
    simp [plain]
  cases same
  rfl

/-- The parts of a numeral are read back one after the other, unless there is a leading zero. -/
theorem readUnsigned?_written {n : Numeral} (digital : n.Digital) {rest : List Char}
    (ends : Ends rest) :
    readUnsigned? n.negative
        (n.whole ++ (fractionText n.fraction ++ (exponentText n.exponent ++ rest))) =
      if n.isPadded then none else some (.number n, rest) := by
  -- What follows the fraction is an exponent or the end, and neither continues the digits.
  have afterFraction : ∀ c ∈ (exponentText n.exponent ++ rest).head?,
      c.isDigit = false ∧ c ≠ '.' := by
    intro c first
    cases exponent : n.exponent with
    | none =>
      rw [exponent] at first
      exact ⟨(ends c first).1, (ends c first).2.1⟩
    | some e =>
      rw [exponent] at first
      obtain rfl : 'e' = c := Option.some.inj first
      decide
  have afterWhole : ∀ c ∈ (fractionText n.fraction ++ (exponentText n.exponent ++ rest)).head?,
      c.isDigit = false := by
    intro c first
    cases fraction : n.fraction with
    | nil =>
      rw [fraction] at first
      exact (afterFraction c first).1
    | cons digit others =>
      rw [fraction] at first
      obtain rfl : '.' = c := Option.some.inj first
      decide
  rw [readUnsigned?, readWhole?_digits digital afterWhole]
  split
  · rfl
  · simp only [Option.bind_some, readFraction?_written digital.fraction afterFraction,
      readExponent?_written n.exponent ends, Option.map_some]

/-- A written numeral is read back, unless it has a leading zero. -/
theorem readNumber?_digital {n : Numeral} (digital : n.Digital) {rest : List Char}
    (ends : Ends rest) :
    readNumber? (n.written ++ rest) = if n.isPadded then none else some (.number n, rest) := by
  have parts : n.written ++ rest = (if n.negative then ['-'] else []) ++
      (n.whole ++ (fractionText n.fraction ++ (exponentText n.exponent ++ rest))) := by
    simp only [Numeral.written, List.append_assoc]
    rfl
  rw [parts, ← readUnsigned?_written digital ends]
  cases n.negative with
  | true => exact readNumber?_minus _
  | false =>
    obtain ⟨first, others, whole⟩ := List.exists_cons_of_ne_nil digital.some
    have digit : first.isDigit = true := digital.whole first (whole ▸ List.mem_cons_self)
    have plain : first ≠ '-' := by
      rintro rfl
      cases digit
    rw [whole]
    exact readNumber?_plain plain _

/-- A wellformed numeral is read back. -/
theorem readNumber?_written {n : Numeral} (wellformed : n.Wellformed) {rest : List Char}
    (ends : Ends rest) : readNumber? (n.written ++ rest) = some (.number n, rest) := by
  rw [readNumber?_digital wellformed.toDigital ends, wellformed.unpadded]
  rfl

end Json

end LoadSweep
