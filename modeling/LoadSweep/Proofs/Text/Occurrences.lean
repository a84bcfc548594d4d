import Mathlib.Data.List.Infix

/-!
# How often a text stands in another

Occurrences are counted at every position.  A character that the sought text does not have cuts the
other one in two: the occurrences are those before it and those after it
(`occurrences_append_cut`).  Where the sought text has the character once before its own end, one
occurrence may lie across the cut, and only one (`occurrences_append_across`).
-/

namespace LoadSweep.Text

set_option autoImplicit false

/-- How often a text stands in another one. -/
def occurrences (sought text : List Char) : Nat :=
  text.tails.countP sought.isPrefixOf

section Occurrences

variable {sought opening rest before after text : List Char} {c d : Char}

theorem occurrences_nil (some : sought ≠ []) : occurrences sought [] = 0 := by
  obtain ⟨first, others, rfl⟩ := List.exists_cons_of_ne_nil some
  rfl

theorem occurrences_cons (sought : List Char) (c : Char) (text : List Char) :
    occurrences sought (c :: text) =
      (if sought <+: c :: text then 1 else 0) + occurrences sought text := by
  rw [occurrences, List.tails_cons, List.countP_cons, Nat.add_comm]
  simp only [List.isPrefixOf_iff_prefix]
  rfl

/-- A text does not stand where one of its characters is missing. -/
theorem occurrences_eq_zero (needed : c ∈ sought) (absent : c ∉ text) :
    occurrences sought text = 0 := by
  rw [occurrences, List.countP_eq_zero]
  intro tail member found
  have within : sought <+: tail := List.isPrefixOf_iff_prefix.mp found
  exact absent (((List.mem_tails ..).mp member).subset (within.subset needed))

/-! ## Cuts -/

/-- What stands at the start of a text does not go beyond a character that it does not have. -/
theorem prefix_append_cut (without : d ∉ sought) :
    sought <+: before ++ d :: after ↔ sought <+: before := by
  induction sought generalizing before with
  | nil => simp only [List.nil_prefix]
  | cons first others ih =>
    rw [List.mem_cons, not_or] at without
    cases before with
    | nil =>
      rw [List.nil_append, List.cons_prefix_cons, List.prefix_nil]
      exact ⟨fun both => absurd both.1.symm without.1, nofun⟩
    | cons b before => rw [List.cons_append, List.cons_prefix_cons, List.cons_prefix_cons,
        ih without.2]

theorem occurrences_append_cut (without : d ∉ sought) (some : sought ≠ [])
    (before after : List Char) :
    occurrences sought (before ++ d :: after) =
      occurrences sought before + occurrences sought after := by
  induction before with
  | nil =>
    have elsewhere : ¬ sought <+: d :: after := by
      rw [← List.nil_append (d :: after), prefix_append_cut without, List.prefix_nil]
      exact some
    rw [List.nil_append, occurrences_cons, if_neg elsewhere, occurrences_nil some]
  | cons b before ih =>
    have alike : sought <+: b :: (before ++ d :: after) ↔ sought <+: b :: before := by
      rw [← List.cons_append, prefix_append_cut without]
    rw [List.cons_append, occurrences_cons, occurrences_cons, ih, Nat.add_assoc]
    simp only [alike]

/-! ## Occurrences across a cut -/

/-- Texts that are cut at the first place of a character are compared part by part. -/
theorem prefix_append_across (first : d ∉ opening) (clean : d ∉ before) :
    opening ++ d :: rest <+: before ++ d :: after ↔ opening = before ∧ rest <+: after := by
  induction opening generalizing before with
  | nil =>
    cases before with
    | nil => simp only [List.nil_append, List.cons_prefix_cons, true_and]
    | cons b before =>
      rw [List.mem_cons, not_or] at clean
      rw [List.nil_append, List.cons_append, List.cons_prefix_cons]
      exact ⟨fun both => absurd both.1 clean.1, nofun⟩
  | cons o opening ih =>
    rw [List.mem_cons, not_or] at first
    cases before with
    | nil =>
      rw [List.cons_append, List.nil_append, List.cons_prefix_cons]
      exact ⟨fun both => absurd both.1.symm first.1, nofun⟩
    | cons b before =>
      rw [List.mem_cons, not_or] at clean
      rw [List.cons_append, List.cons_append, List.cons_prefix_cons, ih first.2 clean.2,
        List.cons.injEq, and_assoc]

/-- At most one occurrence lies across a cut: it ends what stands before the cut and starts what
stands behind it. -/
theorem occurrences_append_across (first : d ∉ opening) (some : opening ≠ []) (clean : d ∉ before) :
    occurrences (opening ++ d :: rest) (before ++ d :: after) =
      (if opening <:+ before ∧ rest <+: after then 1 else 0)
        + occurrences (opening ++ d :: rest) after := by
  induction before with
  | nil =>
    have elsewhere : ¬ opening ++ d :: rest <+: d :: after := by
      rw [← List.nil_append (d :: after), prefix_append_across first clean]
      exact fun both => some both.1
    have without : ¬ (opening <:+ [] ∧ rest <+: after) := by
      rw [List.suffix_nil]
      exact fun both => some both.1
    rw [List.nil_append, occurrences_cons, if_neg elsewhere, if_neg without]
  | cons b before ih =>
    have here : opening ++ d :: rest <+: b :: (before ++ d :: after) ↔
        opening = b :: before ∧ rest <+: after := by
      rw [← List.cons_append, prefix_append_across first clean]
    have others : d ∉ before := fun member => clean (List.mem_cons_of_mem b member)
    rw [List.cons_append, occurrences_cons, ih others, ← Nat.add_assoc]
    congr 1
    simp only [here, List.suffix_cons_iff]
    -- The opening cannot be all of what stands before the cut and end what comes after its start.
    by_cases whole : opening = b :: before
    · have shorter : ¬ opening <:+ before := by
        intro suffix
        have bound := suffix.length_le
        rw [whole, List.length_cons] at bound
        omega
      simp only [shorter, or_false, false_and, if_false, Nat.add_zero]
    · simp only [whole, false_or, false_and, if_false, Nat.zero_add]

end Occurrences

end LoadSweep.Text
