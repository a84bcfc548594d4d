import LoadSweep.Proofs.Markup.Entities

/-!
# What an escaped text says

An escaped text has no angle bracket, quote or apostrophe, and its ampersands are the first
characters of the five entities (`ampersand_escape`): behind the first character of an entity there
is no other ampersand, so an ampersand further on belongs to a later character.  With the entities
undone from left to right the original is back, also where it looks like an entity itself, and two
texts are shown alike only if they are the same (`escape_is_undone`).
-/

namespace LoadSweep.Markup

set_option autoImplicit false

/-- The entities that stand for characters. -/
def entities : List String :=
  ["&amp;", "&lt;", "&gt;", "&quot;", "&#39;"]

/-! ## Ampersands -/

/-- A character that a text does not have begins nothing there. -/
theorem suffix_of_not_mem {c : Char} {front back rest : List Char} (absent : c ∉ front)
    (suffix : c :: rest <:+ front ++ back) : c :: rest <:+ back := by
  induction front with
  | nil => exact suffix
  | cons first others ih =>
    rw [List.mem_cons, not_or] at absent
    rcases List.suffix_cons_iff.mp suffix with whole | later
    · exact absurd (List.cons.inj whole).1 absent.1
    · exact ih absent.2 later

/-- What stands for a character with a meaning is an entity, with one ampersand at its front. -/
theorem entity_of_special {c : Char} (entity : c ∈ special) :
    ∃ shown ∈ entities, shown.toList = escapeChar c ∧ '&' ∉ shown.toList.tail := by
  simp only [special, List.mem_cons, List.not_mem_nil, or_false] at entity
  rcases entity with rfl | rfl | rfl | rfl | rfl
  · exact ⟨"&amp;", by decide, rfl, by decide⟩
  · exact ⟨"&lt;", by decide, rfl, by decide⟩
  · exact ⟨"&gt;", by decide, rfl, by decide⟩
  · exact ⟨"&quot;", by decide, rfl, by decide⟩
  · exact ⟨"&#39;", by decide, rfl, by decide⟩

/-- An ampersand in front of what stands for a character begins an entity, or stands behind. -/
theorem ampersand_escapeChar {c : Char} {rest back : List Char}
    (suffix : '&' :: rest <:+ escapeChar c ++ back) :
    (∃ entity ∈ entities, entity.toList <+: '&' :: rest) ∨ '&' :: rest <:+ back := by
  by_cases entity : c ∈ special
  · obtain ⟨shown, isEntity, same, single⟩ := entity_of_special entity
    rw [← same] at suffix
    generalize letters : shown.toList = characters at suffix single
    cases characters with
    | nil => exact .inr suffix
    | cons first others =>
      rcases List.suffix_cons_iff.mp suffix with whole | later
      · refine .inl ⟨shown, isEntity, ?_⟩
        rw [letters, whole]
        exact List.prefix_append _ _
      · exact .inr (suffix_of_not_mem single later)
  · have absent : '&' ∉ escapeChar c := by
      rw [escapeChar_of_not_special entity, List.mem_singleton]
      rintro rfl
      exact entity (by decide)
    exact .inr (suffix_of_not_mem absent suffix)

/-- Every ampersand of an escaped text begins an entity. -/
theorem ampersand_escape (text : String) {rest : List Char}
    (suffix : '&' :: rest <:+ (escape text).toList) :
    ∃ entity ∈ entities, entity.toList <+: '&' :: rest := by
  rw [escape, String.toList_ofList] at suffix
  generalize text.toList = characters at suffix
  induction characters with
  | nil => cases List.suffix_nil.mp suffix
  | cons c others ih => exact (ampersand_escapeChar suffix).elim id ih

/-! ## Texts and what is shown of them -/

/-- Of the characters with a meaning only the ampersand stands in an entity. -/
theorem eq_ampersand_of_mem {c d : Char} (held : d ∈ escapeChar c) (meaning : d ∈ special) :
    d = '&' := by
  by_cases entity : c ∈ special
  · have each : special.all fun c =>
        (escapeChar c).all fun d => d == '&' || !special.contains d := by decide
    simp only [List.all_eq_true, Bool.or_eq_true, beq_iff_eq, Bool.not_eq_true',
      List.contains_eq_mem, decide_eq_false_iff_not] at each
    exact (each c entity d held).resolve_right (not_not_intro meaning)
  · rw [escapeChar_of_not_special entity, List.mem_singleton] at held
    exact absurd (held ▸ meaning) entity

/-- An escaped text has no other character with a meaning. -/
theorem not_mem_escape {d : Char} (meaning : d ∈ special) (other : d ≠ '&') (text : String) :
    d ∉ (escape text).toList := by
  rw [escape, String.toList_ofList, List.mem_flatMap]
  rintro ⟨c, -, held⟩
  exact other (eq_ampersand_of_mem held meaning)

/-- **Escaping is safe and loses nothing.**  An escaped text has no character with a meaning in
markup apart from ampersands that begin entities, undoing the entities from left to right gives the
text again, and so no two texts are shown alike. -/
theorem escape_is_undone :
    (∀ text : String,
      (∀ c ∈ ['<', '>', '\x22', '\x27'], c ∉ (escape text).toList) ∧
      (∀ rest, '&' :: rest <:+ (escape text).toList →
        ∃ entity ∈ entities, entity.toList <+: '&' :: rest) ∧
      unescaped (escape text) = text) ∧
    Function.Injective escape := by
  have undone : Function.LeftInverse unescaped escape := fun text => (denotes_escape text).unescaped
  refine ⟨fun text => ⟨fun c member => ?_, fun rest => ampersand_escape text, undone text⟩,
    undone.injective⟩
  have other : c ≠ '&' := by
    rintro rfl
    exact absurd member (by decide)
  exact not_mem_escape (List.mem_cons_of_mem '&' member) other text

/-- A text that looks like an entity is shown with one ampersand more, and read back. -/
theorem entity_is_undone :
    (∃ entity ∈ entities, entity.toList <+: "&amp;lt;".toList) ∧
      unescaped "&amp;lt;" = "&lt;" ∧ escape "<" ≠ escape "&lt;" := by
  have shown : escape "&lt;" = "&amp;lt;" := by decide
  obtain ⟨each, injective⟩ := escape_is_undone
  obtain ⟨-, ampersands, undone⟩ := each "&lt;"
  rw [shown] at ampersands undone
  refine ⟨ampersands _ (List.suffix_refl _), undone, fun same => ?_⟩
  exact absurd (injective same) (by decide)

end LoadSweep.Markup
