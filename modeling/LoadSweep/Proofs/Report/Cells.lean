import LoadSweep.Proofs.Markup.Marks
import LoadSweep.Report.Chart

/-!
# Characters of shown numbers

A number with a fixed number of places shows digits, a sign, a point or the words for infinity and
NaN, and nothing else (`mem_fixedSigned`).  So every number text of a report is `Numeric`: it has no
character with a meaning in markup or in a table, and it denotes itself wherever it is put.  No
number is shown as a missing one (`cell_eq_missing_iff`).
-/

namespace LoadSweep

open Number Markup Text

set_option autoImplicit false

/-! ## Numbers with a fixed number of places -/

theorem SignDisplay.mem_text {display : SignDisplay} {negative : Bool} {c : Char}
    (member : c ∈ (display.text negative).toList) : c = '+' ∨ c = '-' := by
  cases display <;> cases negative <;> simp_all [SignDisplay.text]

/-- A numeral with a point has digits and at most the point. -/
theorem mem_withPoint {places units : Nat} {c : Char}
    (member : c ∈ (withPoint places units).toList) : c.isDigit = true ∨ c = '.' := by
  have padded : ∀ c ∈ List.replicate (places + 1 - (Nat.toDigits 10 units).length) '0' ++
      Nat.toDigits 10 units, c.isDigit = true := by
    intro c member
    rcases List.mem_append.mp member with zero | digit
    · rw [(List.mem_replicate.mp zero).2]
      decide
    · exact Nat.isDigit_of_mem_toDigits (by decide) (by decide) digit
  rw [withPoint] at member
  split at member
  · rw [String.toList_ofList] at member
    exact .inl (padded c member)
  · simp only [String.toList_append, String.toList_ofList, List.mem_append] at member
    rcases member with (whole | point) | fraction
    · exact .inl (padded c (List.mem_of_mem_take whole))
    · exact .inr (List.mem_singleton.mp point)
    · exact .inl (padded c (List.mem_of_mem_drop fraction))

/-- The characters of a number with a fixed number of places. -/
theorem mem_fixedSigned {display : SignDisplay} {places : Nat} {x : Float} {c : Char}
    (member : c ∈ (fixedSigned display places x).toList) :
    c.isDigit = true ∨ c ∈ "+-.NaNinf".toList := by
  have sign {negative : Bool} (held : c ∈ (display.text negative).toList) :
      c ∈ "+-.NaNinf".toList := by
    rcases SignDisplay.mem_text held with rfl | rfl <;> decide
  have notANumber : "NaN".toList ⊆ "+-.NaNinf".toList := by decide
  have infinity : "inf".toList ⊆ "+-.NaNinf".toList := by decide
  rw [fixedSigned] at member
  split at member
  · exact .inr (notANumber member)
  · rw [String.toList_append, List.mem_append] at member
    rcases member with held | word
    · exact .inr (sign held)
    · exact .inr (infinity word)
  · rw [String.toList_append, List.mem_append] at member
    rcases member with held | numeral
    · exact .inr (sign held)
    · rcases mem_withPoint numeral with digit | rfl
      · exact .inl digit
      · exact .inr (by decide)

/-! ## Numeric texts -/

/-- A character of number texts, of the text of a missing value, or the percent sign. -/
def isNumeric (c : Char) : Bool :=
  c.isDigit || "+-.NaNinf/%".toList.contains c

/-- A text with characters of number texts only. -/
def Numeric (text : String) : Prop :=
  ∀ c ∈ text.toList, isNumeric c = true

instance (text : String) : Decidable (Numeric text) :=
  List.decidableBAll (fun c => isNumeric c = true) text.toList

theorem Numeric.not_mem {text : String} (numeric : Numeric text) {c : Char}
    (other : isNumeric c = false) : c ∉ text.toList := by
  intro member
  rw [numeric c member] at other
  cases other

theorem Numeric.plain {text : String} (numeric : Numeric text) : Plain text := by
  intro c member
  constructor <;>
  · rintro rfl
    exact numeric.not_mem (by decide) member

theorem Numeric.denotes {text : String} (numeric : Numeric text) : Denotes text text :=
  denotes_self (numeric.not_mem (by decide))

theorem numeric_fixedSigned (display : SignDisplay) (places : Nat) (x : Float) :
    Numeric (fixedSigned display places x) := by
  intro c member
  rcases mem_fixedSigned member with digit | other
  · rw [isNumeric, digit, Bool.true_or]
  · exact (by decide : Numeric "+-.NaNinf") c other

theorem numeric_toString (n : Nat) : Numeric (toString n) := by
  intro c member
  have digits : (toString n).toList = Nat.toDigits 10 n := String.toList_ofList
  have digit := Nat.isDigit_of_mem_toDigits (by decide) (by decide) (digits ▸ member)
  rw [isNumeric, digit, Bool.true_or]

theorem Point.numeric_category (axis : Axis) (point : Point) : Numeric (point.category axis) :=
  numeric_toString _

theorem numeric_cell (metric : Metric) (value : Option Float) : Numeric (cell metric value) := by
  cases value with
  | none => exact (by decide : Numeric missingText)
  | some shown => exact numeric_fixedSigned _ _ shown

theorem numeric_percent (percent : Float) : Numeric (fixedSigned .always 1 percent ++ "%") := by
  intro c member
  rw [String.toList_append, List.mem_append] at member
  rcases member with number | sign
  · exact numeric_fixedSigned _ _ _ c number
  · exact (by decide : Numeric "%") c sign

namespace Chart

theorem numeric_coordinate (x : Float) : Numeric (coordinate x) :=
  numeric_fixedSigned _ _ x

theorem mem_of_mem_dropWhileEnd {test : Char → Bool} {text : List Char} {c : Char}
    (member : c ∈ dropWhileEnd test text) : c ∈ text := by
  rw [dropWhileEnd, List.mem_reverse] at member
  exact List.mem_reverse.mp (List.dropWhile_subset _ member)

theorem numeric_tickText (value : Float) : Numeric (tickText value) := by
  rw [tickText]
  split
  · exact numeric_fixedSigned _ _ value
  · intro c member
    rw [String.toList_ofList] at member
    exact numeric_fixedSigned _ _ _ c (mem_of_mem_dropWhileEnd (mem_of_mem_dropWhileEnd member))

end Chart

/-! ## Missing values -/

/-- The text of a value is that of a missing one exactly if there is no value. -/
theorem cell_eq_missing_iff (metric : Metric) (value : Option Float) :
    cell metric value = missingText ↔ value = none := by
  constructor
  · intro same
    cases value with
    | none => rfl
    | some shown =>
      have slash : '/' ∈ (fixed metric.places shown).toList := by
        rw [show fixed metric.places shown = missingText from same]
        decide
      rcases mem_fixedSigned slash with digit | other
      · cases digit
      · exact absurd other (by decide)
  · rintro rfl
    rfl

end LoadSweep
