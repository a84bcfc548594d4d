import LoadSweep.Proofs.Markup.Entities

/-!
# Marks of a document

A document in markup is read as a sequence of marks: a tag, which is what stands between `<` and the
next `>`, and the text after it, up to the next `<`.  `marks` reads them off the characters.  A
document that is written mark by mark, with no angle bracket in a tag or a text, is read back as
those marks (`Marked.read`), and such documents are put together from their parts (`Marked.append`,
`Marked.flatMap`).
-/

namespace LoadSweep.Markup

set_option autoImplicit false

/-! ## Reading marks -/

/-- A tag, without its brackets, and the text after it. -/
structure Mark where
  tag : String
  text : String
  deriving Repr, DecidableEq

/-- The bracket at which a stretch ends: inside of a tag it is the closing one. -/
def bracket (inside : Bool) : Char :=
  if inside then '>' else '<'

/-- The stretches of a document, outside and inside of tags in turn. -/
def stretches (inside : Bool) : List Char → List (List Char)
  | [] => [[]]
  | c :: rest =>
    if c == bracket inside then [] :: stretches (!inside) rest
    else match stretches inside rest with
      | [] => [[c]]
      | stretch :: others => (c :: stretch) :: others

/-- Stretches in pairs of a tag and the text after it; a tag that is not closed is none. -/
def paired : List (List Char) → List Mark
  | tag :: text :: others => ⟨String.ofList tag, String.ofList text⟩ :: paired others
  | _ => []

/-- The marks of a document. -/
def marks (document : String) : List Mark :=
  paired (stretches false document.toList).tail

/-- The tags of a document. -/
def tags (document : String) : List String :=
  (marks document).map Mark.tag

/-! ## Plain texts -/

/-- A text without angle brackets. -/
def Plain (text : String) : Prop :=
  ∀ c ∈ text.toList, c ≠ '<' ∧ c ≠ '>'

instance (text : String) : Decidable (Plain text) :=
  List.decidableBAll (fun c => c ≠ '<' ∧ c ≠ '>') text.toList

@[simp] theorem plain_append_iff (first second : String) :
    Plain (first ++ second) ↔ Plain first ∧ Plain second := by
  simp only [Plain, String.toList_append, List.forall_mem_append]

/-- A literal is plain if its characters are. -/
theorem plain_ofList {characters : List Char}
    (each : characters.all fun c => c != '<' && c != '>') : Plain (String.ofList characters) := by
  rw [Plain, String.toList_ofList]
  simpa using each

theorem plain_join {texts : List String} (each : ∀ text ∈ texts, Plain text) :
    Plain (String.join texts) := by
  induction texts with
  | nil => exact (nofun : Plain "")
  | cons text texts ih =>
    obtain ⟨here, others⟩ := List.forall_mem_cons.mp each
    rw [String.join_cons, plain_append_iff]
    exact ⟨here, ih others⟩

/-- What stands for a character has no angle bracket. -/
theorem plain_escapeChar (c : Char) : ∀ d ∈ escapeChar c, d ≠ '<' ∧ d ≠ '>' := by
  by_cases entity : c ∈ special
  · have each : special.all fun c => (escapeChar c).all fun d => d != '<' && d != '>' := by decide
    simp only [List.all_eq_true, Bool.and_eq_true, bne_iff_ne] at each
    exact each c entity
  · rw [escapeChar_of_not_special entity, List.forall_mem_singleton]
    constructor <;>
    · rintro rfl
      exact entity (by decide)

@[simp] theorem plain_escape (text : String) : Plain (escape text) := by
  intro d member
  rw [escape, String.toList_ofList] at member
  obtain ⟨c, -, held⟩ := List.mem_flatMap.mp member
  exact plain_escapeChar c d held

/-! ## Documents written mark by mark -/

/-- A mark as it is written. -/
def Mark.written (mark : Mark) : String :=
  "<" ++ mark.tag ++ ">" ++ mark.text

/-- Marks without angle brackets in them. -/
def PlainMarks (marks : List Mark) : Prop :=
  ∀ mark ∈ marks, Plain mark.tag ∧ Plain mark.text

theorem PlainMarks.append {marks others : List Mark} (first : PlainMarks marks)
    (second : PlainMarks others) : PlainMarks (marks ++ others) :=
  List.forall_mem_append.mpr ⟨first, second⟩

/-- A document that is written mark by mark, with no other angle brackets. -/
structure Marked (document : String) (marks : List Mark) : Prop where
  text : document = String.join (marks.map Mark.written)
  plain : PlainMarks marks

/-- The same characters are the same document. -/
theorem Marked.of_toList {document other : String} {marks : List Mark}
    (marked : Marked document marks) (same : other.toList = document.toList) :
    Marked other marks := by
  rw [String.toList_inj.mp same]
  exact marked

theorem Marked.nil : Marked "" [] :=
  ⟨rfl, nofun⟩

theorem Marked.mark {tag text : String} (plainTag : Plain tag) (plainText : Plain text) :
    Marked ("<" ++ tag ++ ">" ++ text) [⟨tag, text⟩] where
  text := by
    rw [List.map_singleton, String.join_cons, String.join_nil, String.append_empty, Mark.written]
  plain := List.forall_mem_singleton.mpr ⟨plainTag, plainText⟩

theorem Marked.append {first second : String} {marks others : List Mark}
    (before : Marked first marks) (after : Marked second others) :
    Marked (first ++ second) (marks ++ others) where
  text := by rw [before.text, after.text, List.map_append, String.join_append]
  plain := before.plain.append after.plain

theorem Marked.flatMap {α : Type} {write : α → String} {marksOf : α → List Mark} {items : List α}
    (each : ∀ item ∈ items, Marked (write item) (marksOf item)) :
    Marked (String.join (items.map write)) (items.flatMap marksOf) := by
  induction items with
  | nil => exact ⟨rfl, nofun⟩
  | cons item items ih =>
    obtain ⟨first, others⟩ := List.forall_mem_cons.mp each
    rw [List.map_cons, String.join_cons, List.flatMap_cons]
    exact first.append (ih others)

/-- A stretch without its bracket ends at the bracket. -/
theorem stretches_append {inside : Bool} {stretch : List Char}
    (without : bracket inside ∉ stretch) (rest : List Char) :
    stretches inside (stretch ++ bracket inside :: rest) =
      stretch :: stretches (!inside) rest := by
  induction stretch with
  | nil => simp [stretches]
  | cons c stretch ih =>
    rw [List.mem_cons, not_or] at without
    have other : (c == bracket inside) = false := beq_false_of_ne (Ne.symm without.1)
    rw [List.cons_append, stretches, other, ih without.2]
    rfl

/-- The last stretch ends with the document. -/
theorem stretches_last {inside : Bool} {stretch : List Char}
    (without : bracket inside ∉ stretch) : stretches inside stretch = [stretch] := by
  induction stretch with
  | nil => rfl
  | cons c stretch ih =>
    rw [List.mem_cons, not_or] at without
    have other : (c == bracket inside) = false := beq_false_of_ne (Ne.symm without.1)
    rw [stretches, other, ih without.2]
    rfl

theorem bracket_not_mem {text : String} (plain : Plain text) (inside : Bool) :
    bracket inside ∉ text.toList := by
  intro member
  obtain ⟨less, greater⟩ := plain _ member
  cases inside with
  | true => exact greater rfl
  | false => exact less rfl

/-- After a plain text the marks are read one by one. -/
theorem stretches_written {marks : List Mark} (plain : PlainMarks marks) {text : String}
    (before : Plain text) :
    stretches false (text.toList ++ (String.join (marks.map Mark.written)).toList) =
      text.toList :: marks.flatMap fun mark => [mark.tag.toList, mark.text.toList] := by
  induction marks generalizing text with
  | nil =>
    rw [List.map_nil, String.join_nil, String.toList_empty, List.append_nil]
    exact stretches_last (bracket_not_mem before false)
  | cons mark marks ih =>
    obtain ⟨⟨tag, after⟩, others⟩ := List.forall_mem_cons.mp plain
    have unfolded : (String.join ((mark :: marks).map Mark.written)).toList =
        bracket false :: (mark.tag.toList ++ bracket true ::
          (mark.text.toList ++ (String.join (marks.map Mark.written)).toList)) := by
      simp [Mark.written, bracket]
    rw [unfolded, stretches_append (bracket_not_mem before false), Bool.not_false,
      stretches_append (bracket_not_mem tag true), Bool.not_true, ih others after]
    rfl

/-- **A document that is written mark by mark is read back as its marks.** -/
theorem Marked.read {document : String} {written : List Mark} (marked : Marked document written) :
    marks document = written := by
  have cut := stretches_written marked.plain (nofun : Plain "")
  rw [String.toList_empty, List.nil_append, ← marked.text] at cut
  have paired_flatMap : ∀ items : List Mark,
      paired (items.flatMap fun mark => [mark.tag.toList, mark.text.toList]) = items := by
    intro items
    induction items with
    | nil => rfl
    | cons mark items ih =>
      rw [List.flatMap_cons, List.cons_append, List.cons_append, List.nil_append, paired, ih,
        String.ofList_toList, String.ofList_toList]
  rw [marks, cut, List.tail_cons, paired_flatMap]

theorem Marked.tags {document : String} {written : List Mark} (marked : Marked document written) :
    tags document = written.map Mark.tag :=
  congrArg (List.map Mark.tag) marked.read

end LoadSweep.Markup
