import LoadSweep.Proofs.Json.Scalars

/-!
# Values are read as they were written

A value is legible if its numerals are wellformed and none of its texts is missing.  Whatever the
spacing and the depth at which it is written, and whatever follows it that cannot belong to a
numeral, a legible value is read back (`Legible.readable`), so both the text with one item a line
and the text on one line are read as the value (`Legible.read_pretty`, `Legible.read_compact`).

The induction is on legibility.  The reader is bounded, and the length of the text is bound enough:
every call of the reader takes one character at least.
-/

namespace LoadSweep.Json

set_option autoImplicit false

/-- A value that is written without loss. -/
inductive Legible : Json → Prop where
  | null : Legible .null
  | flag (value : Bool) : Legible (.flag value)
  | number (n : Numeral) (wellformed : n.Wellformed) : Legible (.number n)
  | text (text : String) : Legible (.text (some text))
  | array (items : List Json) (each : ∀ item ∈ items, Legible item) : Legible (.array items)
  | object (members : List (Option String × Json))
      (named : ∀ member ∈ members, member.1.isSome = true)
      (each : ∀ member ∈ members, Legible member.2) : Legible (.object members)

/-- A value is read back wherever it is written. -/
def Readable (value : Json) : Prop :=
  ∀ (spacing : Spacing) (depth bound : Nat) (rest : List Char), Ends rest →
    (writeValue spacing depth value).length ≤ bound →
    readValue? bound (writeValue spacing depth value ++ rest) = some (value, rest)

/-! ## White space -/

theorem isSpace_lineBreak (spacing : Spacing) (depth : Nat) :
    ∀ c ∈ spacing.lineBreak depth, isSpace c = true := by
  cases spacing with
  | tight => exact nofun
  | lined =>
    intro c member
    rcases List.mem_cons.mp member with rfl | blank
    · rfl
    · obtain ⟨-, rfl⟩ := List.mem_replicate.mp blank
      rfl

theorem skipSpace_blank {blank : List Char} (space : ∀ c ∈ blank, isSpace c = true)
    (source : List Char) : skipSpace (blank ++ source) = skipSpace source :=
  List.dropWhile_append_of_pos space

theorem skipSpace_cons {c : Char} (shown : isSpace c = false) (source : List Char) :
    skipSpace (c :: source) = c :: source := by
  simp [skipSpace, shown]

theorem readValue?_blank {blank : List Char} (space : ∀ c ∈ blank, isSpace c = true) (bound : Nat)
    (source : List Char) : readValue? bound (blank ++ source) = readValue? bound source := by
  cases bound with
  | zero => rfl
  | succ bound => rw [readValue?, readValue?, skipSpace_blank space]

theorem readItems?_blank {blank : List Char} (space : ∀ c ∈ blank, isSpace c = true) (bound : Nat)
    (source : List Char) : readItems? bound (blank ++ source) = readItems? bound source := by
  cases bound with
  | zero => rfl
  | succ bound => rw [readItems?, readItems?, readValue?_blank space]

theorem readMembers?_blank {blank : List Char} (space : ∀ c ∈ blank, isSpace c = true)
    (bound : Nat) (source : List Char) :
    readMembers? bound (blank ++ source) = readMembers? bound source := by
  cases bound with
  | zero => rfl
  | succ bound => rw [readMembers?, readMembers?, skipSpace_blank space]

/-! ## Where a value starts -/

/-- Whether a numeral can start with a character. -/
def startsNumeral (c : Char) : Bool :=
  c == '-' || c.isDigit

/-- A numeral starts with a sign or a digit. -/
theorem written_eq_cons {n : Numeral} (digital : n.Digital) :
    ∃ first others, n.written = first :: others ∧ startsNumeral first = true := by
  obtain ⟨digit, digits, whole⟩ := List.exists_cons_of_ne_nil digital.some
  have starts : startsNumeral digit = true := by
    simp [startsNumeral, digital.whole digit (whole ▸ List.mem_cons_self)]
  unfold Numeral.written
  rw [whole]
  split
  · exact ⟨'-', _, rfl, rfl⟩
  · exact ⟨digit, _, rfl, starts⟩

/-- What starts a numeral starts nothing else. -/
theorem ne_of_startsNumeral {c : Char} (other : Char) (starts : startsNumeral c = true)
    (differs : startsNumeral other = false) : c ≠ other := by
  rintro rfl
  cases starts.symm.trans differs

theorem isSpace_of_startsNumeral {c : Char} (starts : startsNumeral c = true) :
    isSpace c = false := by
  simp [isSpace, ne_of_startsNumeral ' ' starts rfl, ne_of_startsNumeral '\n' starts rfl,
    ne_of_startsNumeral '\t' starts rfl, ne_of_startsNumeral '\r' starts rfl]

/-- A written value starts with a character that is neither white space nor a closing bracket. -/
theorem Legible.writeValue_eq_cons {value : Json} (legible : value.Legible) (spacing : Spacing)
    (depth : Nat) :
    ∃ first others, writeValue spacing depth value = first :: others ∧
      isSpace first = false ∧ first ≠ ']' := by
  cases legible with
  | null => exact ⟨'n', _, rfl, rfl, by decide⟩
  | flag value => cases value <;> exact ⟨_, _, rfl, rfl, by decide⟩
  | number n wellformed =>
    obtain ⟨first, others, written, starts⟩ := written_eq_cons wellformed.toDigital
    exact ⟨first, others, written, isSpace_of_startsNumeral starts,
      ne_of_startsNumeral ']' starts rfl⟩
  | text text => exact ⟨'\x22', _, rfl, rfl, by decide⟩
  | array items => cases items <;> exact ⟨'[', _, rfl, rfl, by decide⟩
  | object members => cases members <;> exact ⟨'\x7b', _, rfl, rfl, by decide⟩

/-! ## Items and members -/

theorem ends_of_cons {c : Char} (other : c.isDigit = false ∧ c ≠ '.' ∧ c ≠ 'e' ∧ c ≠ 'E')
    (rest : List Char) : Ends (c :: rest) := by
  intro first same
  obtain rfl : c = first := Option.some.inj same
  exact other

/-- A line break and a closing character end a numeral. -/
theorem ends_lineBreak (spacing : Spacing) (depth : Nat) {c : Char}
    (other : c.isDigit = false ∧ c ≠ '.' ∧ c ≠ 'e' ∧ c ≠ 'E') (rest : List Char) :
    Ends (spacing.lineBreak depth ++ [c] ++ rest) := by
  cases spacing with
  | tight => exact ends_of_cons other rest
  | lined => exact ends_of_cons (by decide) _

theorem ends_items (spacing : Spacing) (depth : Nat) (items : List Json) (rest : List Char) :
    Ends (writeItems spacing depth items ++ rest) := by
  cases items with
  | nil => exact ends_lineBreak spacing depth (by decide) rest
  | cons item items => exact ends_of_cons (by decide) _

theorem ends_members (spacing : Spacing) (depth : Nat) (members : List (Option String × Json))
    (rest : List Char) : Ends (writeMembers spacing depth members ++ rest) := by
  cases members with
  | nil => exact ends_lineBreak spacing depth (by decide) rest
  | cons member members => exact ends_of_cons (by decide) _

theorem length_writeItems (spacing : Spacing) (depth : Nat) (items : List Json) :
    0 < (writeItems spacing depth items).length := by
  cases items <;> simp [writeItems]

theorem length_writeMembers (spacing : Spacing) (depth : Nat)
    (members : List (Option String × Json)) :
    0 < (writeMembers spacing depth members).length := by
  cases members <;> simp [writeMembers]

/-- An item before a closing bracket is the last one. -/
theorem readItems?_last {bound : Nat} {source blank rest : List Char} {value : Json}
    (space : ∀ c ∈ blank, isSpace c = true)
    (read : readValue? bound source = some (value, blank ++ [']'] ++ rest)) :
    readItems? (bound + 1) source = some ([value], rest) := by
  rw [readItems?, read, Option.bind_some]
  simp only [List.append_assoc, skipSpace_blank space]
  rfl

/-- After an item and a comma more items are read. -/
theorem readItems?_more {bound : Nat} {source rest : List Char} {value : Json}
    (read : readValue? bound source = some (value, ',' :: rest)) :
    readItems? (bound + 1) source =
      (readItems? bound rest).map fun (items, rest) => (value :: items, rest) := by
  rw [readItems?, read]
  rfl

/-- The items of an array are read one after the other, up to the closing bracket. -/
theorem readItems?_written (spacing : Spacing) (depth : Nat) {item : Json} {items : List Json}
    (first : item.Readable) (each : ∀ item ∈ items, Readable item) (bound : Nat) (rest : List Char)
    (enough : (writeValue spacing (depth + 1) item ++ writeItems spacing depth items).length ≤
      bound) :
    readItems? bound
        (writeValue spacing (depth + 1) item ++ writeItems spacing depth items ++ rest) =
      some (item :: items, rest) := by
  -- Over the items after the first.
  induction items generalizing item bound with
  | nil =>
    have more := length_writeItems spacing depth []
    rw [List.length_append] at enough
    obtain ⟨bound, rfl⟩ : ∃ less, bound = less + 1 := ⟨bound - 1, by omega⟩
    have read := first spacing (depth + 1) bound _ (ends_items spacing depth [] rest) (by omega)
    rw [List.append_assoc]
    exact readItems?_last (isSpace_lineBreak spacing depth) read
  | cons next items ih =>
    obtain ⟨second, others⟩ := List.forall_mem_cons.mp each
    have parts : writeItems spacing depth (next :: items) =
        ',' :: (spacing.lineBreak (depth + 1) ++
          (writeValue spacing (depth + 1) next ++ writeItems spacing depth items)) := by
      rw [writeItems, List.append_assoc]
    have ends := ends_items spacing depth (next :: items) rest
    rw [List.length_append, parts, List.length_cons, List.length_append] at enough
    obtain ⟨bound, rfl⟩ : ∃ less, bound = less + 1 := ⟨bound - 1, by omega⟩
    have read := first spacing (depth + 1) bound _ ends (by omega)
    have later := ih second others bound (by omega)
    rw [parts, List.cons_append] at read
    rw [List.append_assoc, parts, List.cons_append, readItems?_more read, List.append_assoc,
      readItems?_blank (isSpace_lineBreak spacing (depth + 1)), later]
    rfl

/-- What is read of a member: its name up to the colon, and its value. -/
structure MemberRead (bound : Nat) (source : List Char) (name : String) (value : Json)
    (rest : List Char) : Prop where
  read : ∃ afterName afterColon, source = '\x22' :: afterName ∧
    readText? afterName = some (some name, ':' :: afterColon) ∧
    readValue? bound afterColon = some (value, rest)

/-- A written member is read up to what follows it. -/
theorem memberRead_written (spacing : Spacing) (depth : Nat) (name : String) {value : Json}
    (readable : value.Readable) (bound : Nat) {rest : List Char} (ends : Ends rest)
    (enough : (writeValue spacing (depth + 1) value).length ≤ bound) :
    MemberRead bound
      (quoted (some name) ++ spacing.colon ++ writeValue spacing (depth + 1) value ++ rest) name
      value rest := by
  have colon : ∃ blank, spacing.colon = ':' :: blank ∧ ∀ c ∈ blank, isSpace c = true := by
    cases spacing with
    | tight => exact ⟨[], rfl, nofun⟩
    | lined => exact ⟨[' '], rfl, by simp [isSpace]⟩
  obtain ⟨blank, colon, space⟩ := colon
  have read := readable spacing (depth + 1) bound rest ends enough
  refine ⟨_, blank ++ (writeValue spacing (depth + 1) value ++ rest), ?_, readText?_quoted name _,
    ?_⟩
  · simp [quoted, colon]
  · rw [readValue?_blank space]
    exact read

/-- A member before a closing brace is the last one. -/
theorem readMembers?_last {bound : Nat} {source blank rest : List Char} {name : String}
    {value : Json} (space : ∀ c ∈ blank, isSpace c = true)
    (member : MemberRead bound source name value (blank ++ ['\x7d'] ++ rest)) :
    readMembers? (bound + 1) source = some ([(some name, value)], rest) := by
  obtain ⟨afterName, afterColon, rfl, named, read⟩ := member.read
  rw [readMembers?, skipSpace_cons rfl]
  simp only [named, Option.bind_some, skipSpace_cons (c := ':') rfl, read, List.append_assoc,
    skipSpace_blank space]
  rfl

/-- After a member and a comma more members are read. -/
theorem readMembers?_more {bound : Nat} {source rest : List Char} {name : String} {value : Json}
    (member : MemberRead bound source name value (',' :: rest)) :
    readMembers? (bound + 1) source =
      (readMembers? bound rest).map fun (members, rest) =>
        ((some name, value) :: members, rest) := by
  obtain ⟨afterName, afterColon, rfl, named, read⟩ := member.read
  rw [readMembers?, skipSpace_cons rfl]
  simp only [named, Option.bind_some, skipSpace_cons (c := ':') rfl, read,
    skipSpace_cons (c := ',') rfl]

/-- The members of an object are read one after the other, up to the closing brace. -/
theorem readMembers?_written (spacing : Spacing) (depth : Nat) (name : String) {value : Json}
    {members : List (Option String × Json)} (first : value.Readable)
    (named : ∀ member ∈ members, member.1.isSome = true)
    (each : ∀ member ∈ members, Readable member.2) (bound : Nat) (rest : List Char)
    (enough : (quoted (some name) ++ spacing.colon ++ writeValue spacing (depth + 1) value ++
      writeMembers spacing depth members).length ≤ bound) :
    readMembers? bound (quoted (some name) ++ spacing.colon ++
        writeValue spacing (depth + 1) value ++ writeMembers spacing depth members ++ rest) =
      some ((some name, value) :: members, rest) := by
  -- Over the members after the first.
  induction members generalizing name value bound with
  | nil =>
    have more := length_writeMembers spacing depth []
    rw [List.length_append, List.length_append] at enough
    obtain ⟨bound, rfl⟩ : ∃ less, bound = less + 1 := ⟨bound - 1, by omega⟩
    have member := memberRead_written spacing depth name first bound
      (ends_members spacing depth [] rest) (by omega)
    rw [List.append_assoc]
    exact readMembers?_last (isSpace_lineBreak spacing depth) member
  | cons next members ih =>
    obtain ⟨nextName, nextValue⟩ := next
    obtain ⟨has, othersNamed⟩ := List.forall_mem_cons.mp named
    obtain ⟨second, others⟩ := List.forall_mem_cons.mp each
    obtain ⟨nextName, rfl⟩ := Option.isSome_iff_exists.mp has
    have parts : writeMembers spacing depth ((some nextName, nextValue) :: members) =
        ',' :: (spacing.lineBreak (depth + 1) ++ (quoted (some nextName) ++ spacing.colon ++
          writeValue spacing (depth + 1) nextValue ++ writeMembers spacing depth members)) := by
      simp only [writeMembers, List.append_assoc]
    have ends := ends_members spacing depth ((some nextName, nextValue) :: members) rest
    simp only [List.length_append, parts, List.length_cons] at enough
    obtain ⟨bound, rfl⟩ : ∃ less, bound = less + 1 := ⟨bound - 1, by omega⟩
    have member := memberRead_written spacing depth name first bound ends (by omega)
    have later := ih nextName second othersNamed others bound (by
      simp only [List.length_append]
      omega)
    rw [parts, List.cons_append] at member
    rw [List.append_assoc, parts, List.cons_append, readMembers?_more member, List.append_assoc,
      readMembers?_blank (isSpace_lineBreak spacing (depth + 1)), later]
    rfl

/-! ## Values -/

/-- A numeral is read as one: nothing else starts as it does. -/
theorem readValue?_numeral {first : Char} (starts : startsNumeral first = true) (bound : Nat)
    (rest : List Char) : readValue? (bound + 1) (first :: rest) = readNumber? (first :: rest) := by
  have differs : ∀ other, startsNumeral other = false → first ≠ other :=
    fun other => ne_of_startsNumeral other starts
  rw [readValue?, skipSpace_cons (isSpace_of_startsNumeral starts)]
  simp [differs '\x22' rfl, differs '[' rfl, differs '\x7b' rfl,
    differs 'n' rfl, differs 't' rfl, differs 'f' rfl]

/-- An array that does not close at once has items. -/
theorem readValue?_array {bound : Nat} {source : List Char} {first : Char} {others : List Char}
    (found : skipSpace source = first :: others) (more : first ≠ ']') :
    readValue? (bound + 1) ('[' :: source) =
      (readItems? bound (first :: others)).map fun (items, rest) => (.array items, rest) := by
  rw [readValue?, skipSpace_cons rfl]
  simp only [found]
  rw [if_neg (by decide), if_pos (by decide)]
  split
  · rename_i closed
    exact absurd (List.cons.inj closed).1 more
  · rfl

/-- An object that does not close at once has members. -/
theorem readValue?_object {bound : Nat} {source : List Char} {first : Char} {others : List Char}
    (found : skipSpace source = first :: others) (more : first ≠ '\x7d') :
    readValue? (bound + 1) ('\x7b' :: source) =
      (readMembers? bound (first :: others)).map fun (members, rest) =>
        (.object members, rest) := by
  rw [readValue?, skipSpace_cons rfl]
  simp only [found]
  rw [if_neg (by decide), if_neg (by decide), if_pos (by decide)]
  split
  · rename_i closed
    exact absurd (List.cons.inj closed).1 more
  · rfl

/-- A bound that is enough for a value is not zero. -/
theorem Legible.bound_eq_succ {value : Json} (legible : value.Legible) {spacing : Spacing}
    {depth bound : Nat} (enough : (writeValue spacing depth value).length ≤ bound) :
    ∃ less, bound = less + 1 := by
  obtain ⟨first, others, written, -⟩ := legible.writeValue_eq_cons spacing depth
  rw [written, List.length_cons] at enough
  exact ⟨bound - 1, by omega⟩

/-- A legible value is read back. -/
theorem Legible.readable {value : Json} (legible : value.Legible) : value.Readable := by
  induction legible with
  | null =>
    intro spacing depth bound rest _ enough
    obtain ⟨bound, rfl⟩ := Legible.null.bound_eq_succ enough
    rfl
  | flag value =>
    intro spacing depth bound rest _ enough
    obtain ⟨bound, rfl⟩ := (Legible.flag value).bound_eq_succ enough
    cases value <;> rfl
  | number n wellformed =>
    intro spacing depth bound rest ends enough
    obtain ⟨bound, rfl⟩ := (Legible.number n wellformed).bound_eq_succ enough
    obtain ⟨first, others, written, starts⟩ := written_eq_cons wellformed.toDigital
    have read := readNumber?_written wellformed ends
    rw [written] at read
    rw [writeValue, written, List.cons_append, readValue?_numeral starts]
    exact read
  | text text =>
    intro spacing depth bound rest _ enough
    obtain ⟨bound, rfl⟩ := (Legible.text text).bound_eq_succ enough
    have read := readText?_quoted text rest
    rw [writeValue, quoted, Option.getD_some, List.cons_append, List.append_assoc, readValue?,
      skipSpace_cons rfl]
    simp only [List.singleton_append, read]
    rfl
  | array items each ih =>
    intro spacing depth bound rest _ enough
    obtain ⟨bound, rfl⟩ := (Legible.array items each).bound_eq_succ enough
    cases items with
    | nil => rfl
    | cons item items =>
      obtain ⟨first, others⟩ := List.forall_mem_cons.mp ih
      obtain ⟨start, tail, written, shown, more⟩ :=
        (each item List.mem_cons_self).writeValue_eq_cons spacing (depth + 1)
      have read := readItems?_written spacing depth first others bound rest (by
        rw [writeValue, List.length_cons, List.append_assoc, List.length_append] at enough
        omega)
      have found : skipSpace (spacing.lineBreak (depth + 1) ++
          (writeValue spacing (depth + 1) item ++ writeItems spacing depth items ++ rest)) =
          start :: (tail ++ writeItems spacing depth items ++ rest) := by
        rw [skipSpace_blank (isSpace_lineBreak spacing (depth + 1)), written]
        exact skipSpace_cons shown _
      rw [written] at read
      rw [writeValue, List.cons_append, List.append_assoc, List.append_assoc,
        ← List.append_assoc (writeValue ..), readValue?_array found more]
      exact congrArg _ read
  | object members named each ih =>
    intro spacing depth bound rest _ enough
    obtain ⟨bound, rfl⟩ := (Legible.object members named each).bound_eq_succ enough
    cases members with
    | nil => rfl
    | cons member members =>
      obtain ⟨name, value⟩ := member
      obtain ⟨has, othersNamed⟩ := List.forall_mem_cons.mp named
      obtain ⟨first, others⟩ := List.forall_mem_cons.mp ih
      obtain ⟨name, rfl⟩ := Option.isSome_iff_exists.mp has
      have read := readMembers?_written spacing depth name first othersNamed others bound
        rest (by
          simp only [writeValue, List.length_cons, List.length_append] at enough ⊢
          omega)
      have found : skipSpace (spacing.lineBreak (depth + 1) ++ (quoted (some name) ++
          spacing.colon ++ writeValue spacing (depth + 1) value ++
            writeMembers spacing depth members ++ rest)) =
          quoted (some name) ++ spacing.colon ++ writeValue spacing (depth + 1) value ++
            writeMembers spacing depth members ++ rest := by
        rw [skipSpace_blank (isSpace_lineBreak spacing (depth + 1))]
        exact skipSpace_cons rfl _
      have parts : writeValue spacing depth (.object ((some name, value) :: members)) ++ rest =
          '\x7b' :: (spacing.lineBreak (depth + 1) ++ (quoted (some name) ++ spacing.colon ++
            writeValue spacing (depth + 1) value ++
              writeMembers spacing depth members ++ rest)) := by
        simp only [writeValue, List.cons_append, List.append_assoc]
      rw [parts, readValue?_object found (by decide)]
      exact congrArg _ read

/-! ## Whole texts -/

/-- A legible value is read back from a text that holds nothing else. -/
theorem Legible.read_written {value : Json} (legible : value.Legible) (spacing : Spacing) :
    read? (String.ofList (writeValue spacing 0 value)) = some value := by
  have read := legible.readable spacing 0 (2 * (writeValue spacing 0 value).length + 2) []
    ends_nil (by omega)
  rw [List.append_nil] at read
  rw [read?, String.toList_ofList, read]
  rfl

theorem Legible.read_pretty {value : Json} (legible : value.Legible) :
    read? value.pretty = some value :=
  legible.read_written .lined

theorem Legible.read_compact {value : Json} (legible : value.Legible) :
    read? value.compact = some value :=
  legible.read_written .tight

/-! ## Values of data -/

theorem legible_ofMembers {members : List (String × Json)}
    (each : ∀ member ∈ members, Legible member.2) : Legible (ofMembers members) := by
  refine .object _ ?_ ?_
  · intro member within
    obtain ⟨original, -, rfl⟩ := List.mem_map.mp within
    rfl
  · intro member within
    obtain ⟨original, held, rfl⟩ := List.mem_map.mp within
    exact each original held

theorem legible_items {α : Type} {tree : α → Json} {items : List α}
    (each : ∀ item ∈ items, Legible (tree item)) : Legible (.array (items.map tree)) :=
  .array _ (List.forall_mem_map.mpr each)

theorem legible_ofNat (n : Nat) : Legible (ofNat n) :=
  .number _ (Numeral.wellformed_ofNat n)

theorem legible_ofString (text : String) : Legible (ofString text) :=
  .text text

end LoadSweep.Json
