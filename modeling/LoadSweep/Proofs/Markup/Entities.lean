import LoadSweep.Report.Markup

/-!
# Entities are undone

`unescape` undoes the five entities from left to right and leaves every other character, also an
ampersand that begins none of them.  What stands for one character is undone to it whatever follows
(`unescape_escapeChar`), so an escaped text denotes its original wherever it is put
(`denotes_escape`), and a text put together from parts denotes what its parts denote
(`Denotes.append`).
-/

namespace LoadSweep.Markup

set_option autoImplicit false

/-- A text in which the entities are undone, from left to right. -/
def unescape : List Char → List Char
  | '&' :: 'a' :: 'm' :: 'p' :: ';' :: rest => '&' :: unescape rest
  | '&' :: 'l' :: 't' :: ';' :: rest => '<' :: unescape rest
  | '&' :: 'g' :: 't' :: ';' :: rest => '>' :: unescape rest
  | '&' :: 'q' :: 'u' :: 'o' :: 't' :: ';' :: rest => '\x22' :: unescape rest
  | '&' :: '#' :: '3' :: '9' :: ';' :: rest => '\x27' :: unescape rest
  | c :: rest => c :: unescape rest
  | [] => []

/-- What a text in markup says. -/
def unescaped (text : String) : String :=
  String.ofList (unescape text.toList)

/-- A character that begins no entity stays. -/
theorem unescape_cons {c : Char} (other : c ≠ '&') (rest : List Char) :
    unescape (c :: rest) = c :: unescape rest := by
  rw [unescape] <;> exact fun _ same _ => other same

/-- The characters that entities stand for. -/
def special : List Char := ['&', '<', '>', '\x22', '\x27']

/-- Every other character stands for itself. -/
theorem escapeChar_of_not_special {c : Char} (other : c ∉ special) : escapeChar c = [c] := by
  simp only [special, List.mem_cons, List.not_mem_nil, or_false, not_or] at other
  obtain ⟨ampersand, less, greater, quote, apostrophe⟩ := other
  simp only [escapeChar, beq_iff_eq, ampersand, less, greater, quote, apostrophe, if_false]

/-- What stands for a character is undone to it, whatever follows. -/
theorem unescape_escapeChar (c : Char) (rest : List Char) :
    unescape (escapeChar c ++ rest) = c :: unescape rest := by
  by_cases entity : c ∈ special
  · simp only [special, List.mem_cons, List.not_mem_nil, or_false] at entity
    rcases entity with rfl | rfl | rfl | rfl | rfl <;> rfl
  · rw [escapeChar_of_not_special entity]
    refine unescape_cons (fun same => entity ?_) rest
    rw [same]
    exact List.mem_cons_self

/-! ## Texts put together -/

/-- A text denotes another: with the entities undone it is that, whatever follows it. -/
def Denotes (shown original : String) : Prop :=
  ∀ rest, unescape (shown.toList ++ rest) = original.toList ++ unescape rest

/-- An escaped text denotes its original. -/
theorem denotes_escape (text : String) : Denotes (escape text) text := by
  intro rest
  rw [escape, String.toList_ofList]
  induction text.toList with
  | nil => rfl
  | cons c others ih =>
    rw [List.flatMap_cons, List.append_assoc, unescape_escapeChar, ih]
    rfl

/-- A text without ampersands denotes itself. -/
theorem denotes_self {text : String} (without : '&' ∉ text.toList) : Denotes text text := by
  intro rest
  generalize text.toList = characters at without
  induction characters with
  | nil => rfl
  | cons c others ih =>
    rw [List.mem_cons, not_or] at without
    rw [List.cons_append, unescape_cons (Ne.symm without.1), ih without.2]
    rfl

theorem Denotes.append {shown original other said : String} (first : Denotes shown original)
    (second : Denotes other said) : Denotes (shown ++ other) (original ++ said) := by
  intro rest
  rw [String.toList_append, String.toList_append, List.append_assoc, first, second,
    List.append_assoc]

theorem Denotes.unescaped {shown original : String} (reads : Denotes shown original) :
    unescaped shown = original := by
  have whole := reads []
  rw [List.append_nil, unescape, List.append_nil] at whole
  rw [Markup.unescaped, whole, String.ofList_toList]

end LoadSweep.Markup
