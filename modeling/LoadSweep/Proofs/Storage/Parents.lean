import LoadSweep.Proofs.Storage.Texts
import LoadSweep.Proofs.Text.Cuts

/-!
# The directory above a path

The parent of a path is cut from its text, but it means what it should: its components are those of
the path without the last one, and it starts where the path starts (`Path.parent?_inv`).  So
whoever can follow a path finds a directory at its parent (`FileTree.isDirectory_parent`), and
making the directories above a path that can be followed changes nothing
(`FileTree.makeDirectories_of_isDirectory`).
-/

namespace LoadSweep

set_option autoImplicit false

/-! ## Components -/

namespace Path

theorem components_nil : components [] = [] := rfl

/-- The components of a path are those before a slash and those after it. -/
theorem components_slash (before after : List Char) :
    components (before ++ '/' :: after) = components before ++ components after := by
  rw [components, Text.pieces_append_cut (by simp), List.filter_append]
  rfl

/-- A name is one component. -/
theorem components_name {name : List Char} (slashless : '/' ∉ name) (named : name ≠ [])
    (other : name ≠ ['.']) : components name = [name] := by
  have uncut : ∀ c ∈ name, (c == '/') = false := by
    intro c member
    exact beq_false_of_ne fun slash => slashless (slash ▸ member)
  rw [components, Text.pieces_uncut uncut]
  simp [named, other]

/-- What is idle at the end of a path is no component. -/
theorem components_dropIdle (reversed : List Char) :
    components (dropIdle reversed).reverse = components reversed.reverse := by
  fun_induction dropIdle reversed with
  | case1 rest ih => rw [ih, List.reverse_cons, components_slash, components_nil, List.append_nil]
  | case2 rest ih =>
    have point : components ['.'] = [] := by decide
    rw [ih, List.reverse_cons, List.reverse_cons, List.append_assoc, List.singleton_append,
      components_slash, point, List.append_nil]
  | case3 => rfl

theorem dropIdle_suffix (reversed : List Char) : dropIdle reversed <:+ reversed := by
  fun_induction dropIdle reversed with
  | case1 rest ih => exact ih.trans (List.suffix_cons _ _)
  | case2 rest ih => exact (ih.trans (List.suffix_cons _ _)).trans (List.suffix_cons _ _)
  | case3 => exact List.suffix_refl _

/-- Nothing idle is left. -/
theorem dropIdle_busy (reversed rest : List Char) :
    dropIdle reversed ≠ '/' :: rest ∧ dropIdle reversed ≠ '.' :: '/' :: rest := by
  fun_induction dropIdle reversed with
  | case1 _ ih => exact ih
  | case2 _ ih => exact ih
  | case3 path noSlash noPoint => exact ⟨noSlash rest, noPoint rest⟩

/-- A path of which all is idle starts with a slash. -/
theorem getLast?_of_dropIdle_nil {reversed : List Char} (idle : dropIdle reversed = [])
    (some : reversed ≠ []) : reversed.getLast? = Option.some '/' := by
  fun_induction dropIdle reversed with
  | case1 rest ih =>
    cases rest with
    | nil => rfl
    | cons c rest => simpa using ih idle (List.cons_ne_nil _ _)
  | case2 rest ih =>
    cases rest with
    | nil => rfl
    | cons c rest => simpa using ih idle (List.cons_ne_nil _ _)
  | case3 => exact absurd idle some

/-- A path whose end is cut off starts as before, unless nothing is left. -/
theorem isAbsolute_of_suffix {reversed whole : List Char} (suffix : reversed <:+ whole)
    (some : reversed ≠ []) : isAbsolute reversed.reverse = isAbsolute whole.reverse := by
  obtain ⟨before, rfl⟩ := suffix
  obtain ⟨first, last, rfl⟩ := List.eq_nil_or_concat reversed |>.resolve_left some
  simp [isAbsolute]

/-- What the parent of a path has in common with the path. -/
structure Above (parent path : List Char) : Prop where
  shorter : components parent = (components path).dropLast
  below : components path ≠ []
  start : isAbsolute parent = isAbsolute path
  within : ∀ c ∈ parent, c ∈ path

/-- The reverse of a path that has components, after its idle end: a name, and perhaps a slash and
what stands before it. -/
theorem name_of_dropIdle (path : List Char) :
    let busy := dropIdle path.reverse
    let rest := busy.dropWhile (· != '/')
    rest = [] ∨ ∃ before, rest = '/' :: before ∧
      components path = components before.reverse ++ [(busy.takeWhile (· != '/')).reverse] := by
  intro busy rest
  have parts : busy.takeWhile (· != '/') ++ rest = busy := List.takeWhile_append_dropWhile
  have slashFree : ∀ c ∈ busy.takeWhile (· != '/'), c ≠ '/' := by
    intro c member
    simpa using List.all_eq_true.mp List.all_takeWhile c member
  generalize busy.takeWhile (· != '/') = name at parts slashFree
  have whole : components busy.reverse = components path := by
    rw [components_dropIdle, List.reverse_reverse]
  cases cut : rest with
  | nil => exact .inl rfl
  | cons first before =>
    have slash : first = '/' := by
      have stopped := List.head?_dropWhile_not (· != '/') busy
      rw [show busy.dropWhile (· != '/') = rest from rfl, cut] at stopped
      simpa using stopped
    subst slash
    refine .inr ⟨before, rfl, ?_⟩
    rw [cut] at parts
    -- The name is not empty and is no single point, since nothing idle is left.
    have slashless : '/' ∉ name.reverse := fun member =>
      slashFree '/' (List.mem_reverse.mp member) rfl
    have named : name.reverse ≠ [] := by
      intro none
      rw [List.reverse_eq_nil_iff.mp none] at parts
      exact (dropIdle_busy path.reverse before).1 parts.symm
    have other : name.reverse ≠ ['.'] := by
      intro point
      rw [List.reverse_eq_iff.mp point] at parts
      exact (dropIdle_busy path.reverse before).2 parts.symm
    rw [← whole, ← parts, List.reverse_append, List.reverse_cons, List.append_assoc,
      List.singleton_append, components_slash, components_name slashless named other]

/-- The parent of a path is above it. -/
theorem parent?_inv {path parent : String} (above : parent? path = some parent)
    (named : parent ≠ "") : Above parent.toList path.toList := by
  simp only [parent?] at above
  split at above
  · cases above
  rename_i below
  have below : components path.toList ≠ [] := by simpa using below
  have suffix : (dropIdle path.toList.reverse).dropWhile (· != '/') <:+ path.toList.reverse :=
    (List.dropWhile_suffix _).trans (dropIdle_suffix _)
  rcases name_of_dropIdle path.toList with nothing | ⟨before, rest, parts⟩
  · rw [nothing] at above
    exact absurd (Option.some.inj above).symm named
  rw [rest] at above suffix
  have start := isAbsolute_of_suffix suffix (List.cons_ne_nil _ _)
  rw [List.reverse_reverse] at start
  have upper : components (dropIdle ('/' :: before)).reverse =
      (components path.toList).dropLast := by
    rw [components_dropIdle, List.reverse_cons, components_slash, components_nil, List.append_nil,
      parts, List.dropLast_concat]
  cases shown : dropIdle ('/' :: before) with
  | nil =>
    obtain rfl : "/" = parent := by simpa [shown] using above
    have slash := getLast?_of_dropIdle_nil shown (List.cons_ne_nil _ _)
    rw [shown] at upper
    refine ⟨upper, below, ?_, ?_⟩
    · rw [← start, isAbsolute, isAbsolute, List.head?_reverse, slash]
      rfl
    · intro c member
      obtain rfl : c = '/' := List.mem_singleton.mp member
      exact List.mem_reverse.mp (suffix.mem List.mem_cons_self)
  | cons last others =>
    obtain rfl : String.ofList (last :: others).reverse = parent := by simpa [shown] using above
    have tail : last :: others <:+ '/' :: before := shown ▸ dropIdle_suffix _
    have cut := isAbsolute_of_suffix (tail.trans suffix) (List.cons_ne_nil _ _)
    rw [List.reverse_reverse] at cut
    rw [shown] at upper
    rw [String.toList_ofList]
    refine ⟨upper, below, cut, ?_⟩
    intro c member
    exact List.mem_reverse.mp ((tail.trans suffix).mem (List.mem_reverse.mp member))

end Path

/-! ## Directories on the way -/

namespace FileTree

/-- Before the last name of a path that can be followed stands a directory. -/
theorem follow_dropLast {tree : FileTree} {place target : Place} {names : List (List Char)}
    (followed : tree.follow place names = .ok target) (more : names ≠ []) :
    ∃ above, tree.follow place names.dropLast = .ok above ∧ tree.at? above = some .directory := by
  induction names generalizing place with
  | nil => exact absurd rfl more
  | cons name names ih =>
    cases names with
    | nil =>
      refine ⟨place, rfl, ?_⟩
      simp only [follow] at followed
      split at followed
      · cases followed
      · cases followed
      · assumption
    | cons next names =>
      rw [List.dropLast_cons_cons]
      rw [follow] at followed ⊢
      split at followed
      · cases followed
      · cases followed
      · split at followed
        · rename_i found up
          rw [if_pos up]
          exact ih followed (List.cons_ne_nil _ _)
        · rename_i found down
          rw [if_neg down]
          split at followed
          · cases followed
          · rename_i short
            rw [if_neg short]
            exact ih followed (List.cons_ne_nil _ _)

/-- Whoever can follow a path finds a directory at its parent. -/
theorem isDirectory_parent {tree : FileTree} {path parent : String} {place : Place}
    (located : tree.locate path = .ok place) (above : Path.parent? path = some parent)
    (named : parent ≠ "") : tree.isDirectory parent = true := by
  obtain ⟨shorter, below, start, within⟩ := Path.parent?_inv above named
  simp only [locate] at located
  split at located
  · cases located
  rename_i clean
  split at located
  · cases located
  obtain ⟨directory, followed, found⟩ := follow_dropLast located below
  have cleanAbove : parent.toList.contains '\x00' = false := by
    rw [Bool.eq_false_iff, Ne, List.contains_iff_mem]
    intro member
    exact clean (List.contains_iff_mem.mpr (within _ member))
  have written : parent.toList.isEmpty = false := by simpa using named
  have locatedAbove : tree.locate parent = .ok directory := by
    simp only [locate, cleanAbove, written, Bool.false_eq_true, if_false, start, shorter]
    exact followed
  simp [isDirectory, locatedAbove, found]

/-- Directories that are there need not be made. -/
theorem makeDirectories_of_isDirectory {tree : FileTree} {path : String}
    (present : tree.isDirectory path = true) : tree.makeDirectories path = .ok tree := by
  simp only [makeDirectories, makeDirectoriesWithin]
  split
  · rfl
  unfold isDirectory at present
  split at present
  · rename_i place located
    have found : tree.at? place = some .directory := by simpa using present
    simp [makeDirectory, located, found]
  · cases present

end FileTree

end LoadSweep
