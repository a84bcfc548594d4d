import LoadSweep.Proofs.Storage.Parents

/-!
# Where joined paths lead

A path that does not start at the root leads on from where the path leads that it is joined to
(`FileTree.destination_join`), and a plain name one level down (`FileTree.destination_join_name`).

A name made from a text can hold slashes, and then it leads through folders that the text names.  It
is confined if it does not start at the root and never climbs above the directory over the one that
it is read from (`Path.Confined`).  A confined name leads to a place below that directory
(`FileTree.below_of_confined`), and of any other name one can find a directory that it leads out of
(`FileTree.exists_left_of_not_confined`): on its way up it leaves the directory, and it can come
back only by the directory's own name.
-/

namespace LoadSweep

set_option autoImplicit false

namespace Path

/-! ## Joined paths -/

/-- The components of a joined path are those of its parts. -/
theorem components_join {path : String} (relative : isAbsolute path.toList = false)
    (base : String) :
    components (join base path).toList = components base.toList ++ components path.toList := by
  rw [join, relative, Bool.false_or]
  split
  · rename_i blank
    rw [String.isEmpty_iff.mp blank]
    rfl
  split
  · rename_i slash
    obtain ⟨front, parts⟩ := List.getLast?_eq_some_iff.mp (eq_of_beq slash)
    rw [String.toList_append, parts, List.append_assoc, List.singleton_append, components_slash,
      components_slash, components_nil, List.append_nil]
  · rw [String.toList_append, String.toList_append, List.append_assoc]
    exact components_slash _ _

/-- A joined path starts where its first part starts. -/
theorem isAbsolute_join {base path : String} (relative : isAbsolute path.toList = false)
    (named : base ≠ "") : isAbsolute (join base path).toList = isAbsolute base.toList := by
  have some : base.toList ≠ [] := fun nothing => named (String.toList_eq_nil_iff.mp nothing)
  obtain ⟨first, rest, parts⟩ := List.exists_cons_of_ne_nil some
  rw [join, relative, Bool.false_or]
  split
  · rename_i blank
    exact absurd (String.isEmpty_iff.mp blank) named
  split
  · rw [String.toList_append, parts]
    rfl
  · rw [String.toList_append, String.toList_append, parts]
    rfl

/-- A path without slashes does not start at the root. -/
theorem isAbsolute_of_slashless {path : List Char} (slashless : '/' ∉ path) :
    isAbsolute path = false := by
  cases path with
  | nil => rfl
  | cons first rest =>
    have other : first ≠ '/' := fun slash => slashless (slash ▸ List.mem_cons_self)
    simpa [isAbsolute] using other

/-! ## Names -/

/-- A name that stands for itself in a path. -/
structure Plain (name : List Char) : Prop where
  slashless : '/' ∉ name
  named : name ≠ []
  here : name ≠ ['.']
  above : name ≠ ['.', '.']

theorem Plain.components {name : List Char} (plain : Plain name) : components name = [name] :=
  components_name plain.slashless plain.named plain.here

theorem Plain.isAbsolute {name : List Char} (plain : Plain name) : isAbsolute name = false :=
  isAbsolute_of_slashless plain.slashless

/-- A text without slashes becomes a name by an ending that is more than two points. -/
theorem plain_append {text ending : List Char} (slashless : '/' ∉ text) (whole : '/' ∉ ending)
    (long : 2 < ending.length) : Plain (text ++ ending) := by
  have longer : 2 < (text ++ ending).length := by
    rw [List.length_append]
    omega
  refine ⟨by simp [slashless, whole], ?_, ?_, ?_⟩ <;>
  · intro short
    rw [short] at longer
    simp at longer

/-! ## Folders -/

/-- The folders that a text names before its last slash. -/
def folders (text : List Char) : List (List Char) :=
  match Text.splitLast? (· == '/') text with
  | none => []
  | some (above, _) => components above

/-- A text is its folders and what follows its last slash. -/
theorem folders_inv (text : List Char) :
    (folders text = [] ∧ '/' ∉ text) ∨
      ∃ before after, folders text = components before ∧ text = before ++ '/' :: after ∧
        '/' ∉ after := by
  rw [folders]
  cases cut : Text.splitLast? (· == '/') text with
  | none => exact .inl ⟨rfl, Text.not_cut_at_iff.mp (Text.splitLast?_eq_none_iff.mp cut)⟩
  | some parts =>
    obtain ⟨whole, clean⟩ := Text.splitLast?_at_iff.mp cut
    exact .inr ⟨parts.1, parts.2, rfl, whole, clean⟩

/-- A name made from a text leads through its folders to a plain name. -/
theorem components_append_ending (text : List Char) {ending : List Char} (whole : '/' ∉ ending)
    (long : 2 < ending.length) :
    ∃ last, Plain last ∧ components (text ++ ending) = folders text ++ [last] := by
  rcases folders_inv text with ⟨none, slashless⟩ | ⟨before, after, above, parts, slashless⟩
  · have plain := plain_append slashless whole long
    exact ⟨_, plain, by rw [plain.components, none, List.nil_append]⟩
  · have plain := plain_append slashless whole long
    refine ⟨_, plain, ?_⟩
    rw [above, parts, List.append_assoc, List.cons_append, components_slash, plain.components]

theorem isAbsolute_append_ending (text : List Char) {ending : List Char} (whole : '/' ∉ ending) :
    isAbsolute (text ++ ending) = isAbsolute text := by
  cases text with
  | nil => exact isAbsolute_of_slashless whole
  | cons first rest => rfl

/-! ## Confined names -/

/-- Whether names stay within a directory when they are followed from a number of levels below
it. -/
def staysWithin : Nat → List (List Char) → Bool
  | _, [] => true
  | level, name :: names =>
    if name == ['.', '.'] then level != 0 && staysWithin (level - 1) names
    else staysWithin (level + 1) names

/-- A text that starts at no root, and whose folders stay within the directory above the one that
they are followed from. -/
def Confined (text : String) : Prop :=
  isAbsolute text.toList = false ∧ staysWithin 1 (folders text.toList) = true

instance (text : String) : Decidable (Confined text) :=
  inferInstanceAs (Decidable (_ ∧ _))

/-- A text without slashes is confined. -/
theorem confined_of_slashless {text : String} (slashless : '/' ∉ text.toList) : Confined text := by
  refine ⟨isAbsolute_of_slashless slashless, ?_⟩
  rcases folders_inv text.toList with ⟨none, -⟩ | ⟨before, after, -, parts, -⟩
  · rw [none]
    rfl
  · exact absurd (parts ▸ by simp) slashless

end Path

namespace FileTree

/-- A place lies below a directory. -/
def Below (directory place : Place) : Prop :=
  ∃ name names, place = directory ++ name :: names

theorem Below.inside {directory place : Place} (below : Below directory place) :
    directory <+: place := by
  obtain ⟨name, names, rfl⟩ := below
  exact List.prefix_append ..

/-- A path that does not start at the root leads on from the place that it is joined to. -/
theorem destination_join (home : Place) (base : String) {path : String}
    (relative : Path.isAbsolute path.toList = false) :
    destination home (Path.join base path) =
      (Path.components path.toList).foldl enter (destination home base) := by
  rw [destination, Path.components_join relative, List.foldl_append, destination]
  by_cases named : base = ""
  · subst named
    rw [show Path.join "" path = path by rw [Path.join, relative]; rfl, relative]
    rfl
  · rw [Path.isAbsolute_join relative named]

theorem enter_plain (place : Place) {name : List Char} (plain : Path.Plain name) :
    enter place name = place ++ [name] :=
  if_neg (by simpa using plain.above)

/-- A plain name leads one level down. -/
theorem destination_join_name (home : Place) (base : String) {name : String}
    (plain : Path.Plain name.toList) :
    destination home (Path.join base name) = destination home base ++ [name.toList] := by
  rw [destination_join home base plain.isAbsolute, plain.components, List.foldl_cons,
    List.foldl_nil, enter_plain _ plain]

/-! ## Staying and leaving -/

/-- Names that stay within a directory lead to a place in it. -/
theorem foldl_enter_of_staysWithin {names : List (List Char)} {level : Nat}
    (directory : Place) {inner : Place} (stays : Path.staysWithin level names = true)
    (depth : inner.length = level) :
    ∃ place, names.foldl enter (directory ++ inner) = directory ++ place := by
  induction names generalizing level inner with
  | nil => exact ⟨inner, rfl⟩
  | cons name names ih =>
    rw [Path.staysWithin] at stays
    rw [List.foldl_cons, enter]
    split at stays
    · rename_i up
      simp only [Bool.and_eq_true, bne_iff_ne] at stays
      have more : inner ≠ [] := by
        rintro rfl
        exact stays.1 depth.symm
      rw [if_pos up, List.dropLast_append_of_ne_nil more]
      exact ih stays.2 (by rw [List.length_dropLast, depth])
    · rename_i down
      rw [if_neg down, List.append_assoc]
      exact ih stays (by rw [List.length_append, depth]; rfl)

/-- Whoever is not in a directory comes there only by its name. -/
theorem foldl_enter_outside {names : List (List Char)} {parent place : Place} {own : List Char}
    (other : own ∉ names) (outside : ¬ parent ++ [own] <+: place) :
    ¬ parent ++ [own] <+: names.foldl enter place := by
  induction names generalizing place with
  | nil => exact outside
  | cons name names ih =>
    rw [List.mem_cons, not_or] at other
    refine ih other.2 ?_
    rw [enter]
    split
    · exact fun inside => outside (inside.trans (List.dropLast_prefix place))
    · rw [List.prefix_concat_iff, not_or]
      refine ⟨fun same => other.1 ?_, outside⟩
      exact List.singleton_inj.mp (List.append_inj_right' same rfl)

/-- Names that do not stay within a directory lead out of it, unless by its name back again. -/
theorem foldl_enter_of_not_staysWithin {names : List (List Char)} {level : Nat}
    {parent inner : Place} {own : List Char} (other : own ∉ names)
    (leaves : Path.staysWithin level names = false) (depth : inner.length = level) :
    ¬ parent ++ [own] <+: names.foldl enter (parent ++ [own] ++ inner) := by
  induction names generalizing level inner with
  | nil => cases leaves
  | cons name names ih =>
    rw [List.mem_cons, not_or] at other
    rw [Path.staysWithin] at leaves
    rw [List.foldl_cons, enter]
    split at leaves
    · rename_i up
      rw [if_pos up]
      rcases List.eq_nil_or_concat inner with rfl | ⟨front, last, rfl⟩
      · rw [List.append_nil, List.dropLast_concat]
        refine foldl_enter_outside other.2 fun inside => ?_
        have longer := inside.length_le
        rw [List.length_append] at longer
        exact Nat.not_succ_le_self _ longer
      · subst depth
        rw [List.concat_eq_append] at leaves
        rw [List.concat_eq_append, ← List.append_assoc, List.dropLast_concat]
        exact ih other.2 (by simpa using leaves) (by simp)
    · rename_i down
      rw [if_neg down, List.append_assoc]
      exact ih other.2 leaves (by rw [List.length_append, depth]; rfl)

/-- A confined name that is read from one level below a directory leads below that directory. -/
theorem below_of_confined {text : String} (confined : Path.Confined text) {ending : String}
    (whole : '/' ∉ ending.toList) (long : 2 < ending.toList.length) {home : Place}
    {base : String} {directory : Place} {level : List Char}
    (base_eq : destination home base = directory ++ [level]) :
    Below directory (destination home (Path.join base (text ++ ending))) := by
  obtain ⟨relative, stays⟩ := confined
  obtain ⟨last, plain, parts⟩ := Path.components_append_ending text.toList whole long
  have start : Path.isAbsolute (text ++ ending).toList = false := by
    rw [String.toList_append, Path.isAbsolute_append_ending _ whole, relative]
  have depth : [level].length = 1 := rfl
  obtain ⟨inner, stayed⟩ := foldl_enter_of_staysWithin directory stays depth
  rw [destination_join home base start, String.toList_append, parts, List.foldl_append, base_eq,
    stayed, List.foldl_cons, List.foldl_nil, enter_plain _ plain, List.append_assoc]
  cases inner with
  | nil => exact ⟨last, [], rfl⟩
  | cons first inner => exact ⟨first, inner ++ [last], rfl⟩

/-- There is a plain name that is none of some names. -/
theorem exists_fresh (names : List (List Char)) : ∃ name, Path.Plain name ∧ name ∉ names := by
  -- A name that is longer than all of them together.
  refine ⟨List.replicate (names.flatten.length + 3) 'x', ⟨?_, ?_, ?_, ?_⟩, ?_⟩
  · exact fun slash => absurd (List.eq_of_mem_replicate slash) (by decide)
  all_goals intro same
  · simp at same
  · simpa using congrArg List.length same
  · simpa using congrArg List.length same
  · have short := (List.sublist_flatten_of_mem same).length_le
    rw [List.length_replicate] at short
    omega

/-- A name that is not confined leads out of some directory when it is read from one level below it,
wherever paths start. -/
theorem exists_left_of_not_confined {text : String} (free : ¬ Path.Confined text)
    {ending level : String} (whole : '/' ∉ ending.toList) (long : 2 < ending.toList.length)
    (plain : Path.Plain level.toList) :
    ∃ directory : String, ∀ home,
      ¬ Below (destination home directory)
        (destination home (Path.join (Path.join directory level) (text ++ ending))) := by
  obtain ⟨last, plainLast, parts⟩ := Path.components_append_ending text.toList whole long
  obtain ⟨own, plainOwn, other⟩ := exists_fresh (Path.folders text.toList ++ [last])
  have named : (String.ofList own).toList = own := String.toList_ofList
  refine ⟨String.ofList own, fun home below => ?_⟩
  have here : destination home (String.ofList own) = home ++ [own] := by
    rw [destination, named, plainOwn.isAbsolute, plainOwn.components]
    exact enter_plain home plainOwn
  have inside := below.inside
  rw [here] at inside
  have start : Path.isAbsolute (text ++ ending).toList = Path.isAbsolute text.toList := by
    rw [String.toList_append, Path.isAbsolute_append_ending _ whole]
  cases rooted : Path.isAbsolute text.toList with
  | true =>
    rw [rooted] at start
    rw [Path.join, start, Bool.true_or, if_pos rfl, destination, start, String.toList_append,
      parts] at inside
    refine foldl_enter_outside other (fun within => ?_) inside
    simpa using within.length_le
  | false =>
    rw [rooted] at start
    have leaves : Path.staysWithin 1 (Path.folders text.toList) = false := by
      rw [Path.Confined, not_and, Bool.not_eq_true] at free
      exact free rooted
    rw [List.mem_append, not_or] at other
    rw [destination_join home _ start, destination_join_name home _ plain, here,
      String.toList_append, parts, List.foldl_append] at inside
    have depth : [level.toList].length = 1 := rfl
    exact foldl_enter_outside other.2 (foldl_enter_of_not_staysWithin other.1 leaves depth) inside

end FileTree

end LoadSweep
