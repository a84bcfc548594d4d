import LoadSweep.Text.Blank

/-!
# Where texts are cut

A reader takes the characters that satisfy a test up to the first that does not (`span_until`), or
a given opening (`stripOpening?_eq_some_iff`), or all before the first or the last cut
(`splitFirst?_eq_some_iff`, `splitLast?_eq_some_iff`); a text is cut into pieces at every character
that satisfies a test, and the pieces before a cut are those of the text before it
(`pieces_append_cut`).
-/

namespace LoadSweep.Text

set_option autoImplicit false

/-! ## Openings -/

/-- Items are taken up to the first that fails a test, and the rest is left. -/
theorem span_until {α : Type} {test : α → Bool} {taken rest : List α}
    (all : ∀ c ∈ taken, test c = true) (stop : ∀ c ∈ rest.head?, test c = false) :
    (taken ++ rest).takeWhile test = taken ∧ (taken ++ rest).dropWhile test = rest := by
  have nothing : rest.takeWhile test = [] ∧ rest.dropWhile test = rest := by
    cases rest with
    | nil => exact ⟨rfl, rfl⟩
    | cons c rest =>
      have other : test c = false := stop c rfl
      simp [other]
  rw [List.takeWhile_append_of_pos all, List.dropWhile_append_of_pos all, nothing.1, nothing.2]
  exact ⟨List.append_nil _, rfl⟩

/-- Characters that all satisfy a test are taken whole. -/
theorem span_whole {test : Char → Bool} {taken : List Char} (all : ∀ c ∈ taken, test c = true) :
    taken.takeWhile test = taken ∧ taken.dropWhile test = [] := by
  have nothing : ∀ c ∈ ([] : List Char).head?, test c = false := nofun
  have cut := span_until all nothing
  rwa [List.append_nil] at cut

/-- What follows an opening is the text without it. -/
theorem stripOpening?_eq_some_iff {opening text rest : List Char} :
    stripOpening? opening text = some rest ↔ text = opening ++ rest := by
  constructor
  · intro stripped
    induction opening generalizing text with
    | nil =>
      cases stripped
      rfl
    | cons o opening ih =>
      cases text with
      | nil => cases stripped
      | cons c text =>
        rw [stripOpening?] at stripped
        split at stripped
        · rename_i same
          rw [ih stripped, List.cons_append, eq_of_beq same]
        · cases stripped
  · rintro rfl
    exact stripOpening?_append opening rest

/-! ## The first and the last cut -/

section Splits

variable {isCut : Char → Bool} {text : List Char}

theorem splitFirst?_eq_some_iff {before after : List Char} :
    splitFirst? isCut text = some (before, after) ↔
      ∃ c, isCut c = true ∧ text = before ++ c :: after ∧ ∀ d ∈ before, isCut d = false := by
  induction text generalizing before with
  | nil => simp [splitFirst?]
  | cons first text ih =>
    rw [splitFirst?]
    by_cases cut : isCut first = true
    · rw [if_pos cut, Option.some.injEq, Prod.mk.injEq]
      constructor
      · rintro ⟨rfl, rfl⟩
        exact ⟨first, cut, rfl, List.forall_mem_nil _⟩
      · rintro ⟨c, -, parts, uncut⟩
        cases before with
        | nil => exact ⟨rfl, (List.cons.inj parts).2⟩
        | cons d before =>
          rw [← (List.cons.inj parts).1] at uncut
          cases cut.symm.trans (uncut first List.mem_cons_self)
    · rw [if_neg cut]
      constructor
      · intro split
        obtain ⟨⟨shorter, rest⟩, found, same⟩ := Option.map_eq_some_iff.mp split
        obtain ⟨rfl, rfl⟩ := Prod.mk.inj same
        obtain ⟨c, cutThere, rfl, uncut⟩ := ih.mp found
        exact ⟨c, cutThere, rfl, List.forall_mem_cons.mpr ⟨Bool.eq_false_iff.mpr cut, uncut⟩⟩
      · rintro ⟨c, cutThere, parts, uncut⟩
        cases before with
        | nil => exact absurd ((List.cons.inj parts).1 ▸ cutThere) cut
        | cons d before =>
          obtain ⟨rfl, rfl⟩ := List.cons.inj parts
          rw [ih.mpr ⟨c, cutThere, rfl, (List.forall_mem_cons.mp uncut).2⟩]
          rfl

theorem splitFirst?_eq_none_iff :
    splitFirst? isCut text = none ↔ ∀ c ∈ text, isCut c = false := by
  induction text with
  | nil => simp [splitFirst?]
  | cons first text ih =>
    rw [splitFirst?, List.forall_mem_cons, ← ih]
    cases isCut first <;> simp

theorem splitLast?_eq_some_iff {before after : List Char} :
    splitLast? isCut text = some (before, after) ↔
      ∃ c, isCut c = true ∧ text = before ++ c :: after ∧ ∀ d ∈ after, isCut d = false := by
  have turned (c : Char) : text.reverse = after.reverse ++ c :: before.reverse ↔
      text = before ++ c :: after := by
    rw [← List.reverse_inj, List.reverse_reverse, List.reverse_append, List.reverse_cons,
      List.reverse_reverse, List.reverse_reverse, List.append_assoc, List.singleton_append]
  have split : splitLast? isCut text = some (before, after) ↔
      splitFirst? isCut text.reverse = some (after.reverse, before.reverse) := by
    rw [splitLast?, Option.map_eq_some_iff]
    constructor
    · rintro ⟨⟨late, early⟩, found, same⟩
      obtain ⟨rfl, rfl⟩ := Prod.mk.inj same
      rw [found, List.reverse_reverse, List.reverse_reverse]
    · intro found
      exact ⟨_, found, by simp only [List.reverse_reverse]⟩
  rw [split, splitFirst?_eq_some_iff]
  simp only [turned, List.mem_reverse]

theorem splitLast?_eq_none_iff : splitLast? isCut text = none ↔ ∀ c ∈ text, isCut c = false := by
  rw [splitLast?, Option.map_eq_none_iff, splitFirst?_eq_none_iff]
  simp only [List.mem_reverse]

theorem not_cut_at_iff {d : Char} {text : List Char} :
    (∀ c ∈ text, (c == d) = false) ↔ d ∉ text := by
  simp only [beq_eq_false_iff_ne]
  exact ⟨fun other member => other d member rfl, fun absent c member same => absent (same ▸ member)⟩

theorem splitFirst?_at_iff {d : Char} {before after : List Char} :
    splitFirst? (· == d) text = some (before, after) ↔
      text = before ++ d :: after ∧ d ∉ before := by
  simp only [splitFirst?_eq_some_iff, not_cut_at_iff, beq_iff_eq, exists_eq_left]

theorem splitLast?_at_iff {d : Char} {before after : List Char} :
    splitLast? (· == d) text = some (before, after) ↔
      text = before ++ d :: after ∧ d ∉ after := by
  simp only [splitLast?_eq_some_iff, not_cut_at_iff, beq_iff_eq, exists_eq_left]

end Splits

/-! ## Pieces -/

section Pieces

variable {isCut : Char → Bool}

/-- A cut starts a new piece. -/
theorem pieces_cons_of_cut {c : Char} (cut : isCut c = true) (text : List Char) :
    pieces isCut (c :: text) = [] :: pieces isCut text := by
  rw [pieces, List.foldr_cons, cut, if_pos rfl, pieces]

/-- Any other character belongs to the first piece. -/
theorem pieces_cons_of_uncut {c : Char} (uncut : isCut c = false) {text piece : List Char}
    {rest : List (List Char)} (found : pieces isCut text = piece :: rest) :
    pieces isCut (c :: text) = (c :: piece) :: rest := by
  rw [pieces] at found
  rw [pieces, List.foldr_cons, found, uncut]
  rfl

/-- A cut separates the pieces before it from those after it. -/
theorem pieces_append_cut {c : Char} (cut : isCut c = true) (before after : List Char) :
    pieces isCut (before ++ c :: after) = pieces isCut before ++ pieces isCut after := by
  induction before with
  | nil => exact pieces_cons_of_cut cut after
  | cons first others ih =>
    rw [List.cons_append]
    cases here : isCut first with
    | true =>
      rw [pieces_cons_of_cut here, pieces_cons_of_cut here, ih]
      rfl
    | false =>
      obtain ⟨piece, rest, found⟩ := List.exists_cons_of_ne_nil (pieces_ne_nil isCut others)
      rw [found] at ih
      rw [pieces_cons_of_uncut here ih, pieces_cons_of_uncut here found]
      rfl

/-- A text without a cut is one piece. -/
theorem pieces_uncut {text : List Char} (uncut : ∀ c ∈ text, isCut c = false) :
    pieces isCut text = [text] := by
  induction text with
  | nil => rfl
  | cons c text ih =>
    obtain ⟨here, rest⟩ := List.forall_mem_cons.mp uncut
    exact pieces_cons_of_uncut here (ih rest)

end Pieces

end LoadSweep.Text
