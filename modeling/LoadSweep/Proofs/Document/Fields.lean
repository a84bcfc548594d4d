import LoadSweep.Document
import Mathlib.Data.List.Forall2

/-!
# The fields of a record

A record is read entry by entry: an entry with an unknown name is passed over, and a known name may
come once.  So the fields of a record are its entries with known names, in order, if those names are
distinct (`Document.fields?_record`).
-/

namespace LoadSweep.Document

set_option autoImplicit false

/-- Entries with the names under which they are read. -/
def Named (names : List String) (entries : List (Document × Document)) (fields : Fields) : Prop :=
  List.Forall₂
    (fun entry field => fieldName? names entry.1 = some field.1 ∧ entry.2 = field.2) entries fields

/-- The fields with known names. -/
def known (names : List String) (fields : Fields) : Fields :=
  fields.filter fun field => names.contains field.1

/-- A name that is not among the fields given so far is new. -/
theorem lookup_of_nodup {given later : Fields} {name : String} {value : Document}
    (distinct : ((given ++ (name, value) :: later).map Prod.fst).Nodup) :
    given.lookup name = none := by
  rw [List.lookup_eq_none_iff]
  intro field member
  rw [List.map_append, List.map_cons, List.nodup_append] at distinct
  have differs : field.1 ≠ name :=
    distinct.2.2 _ (List.mem_map_of_mem member) _ List.mem_cons_self
  simpa using Ne.symm differs

/-- Entries are added to the fields given so far. -/
theorem foldlM_addField? {names : List String} {entries : List (Document × Document)}
    {fields : Fields} (named : Named names entries fields) {given : Fields}
    (distinct : ((given ++ known names fields).map Prod.fst).Nodup) :
    entries.foldlM (addField? names) given = some (given ++ known names fields) := by
  induction named generalizing given with
  | nil => simp [known]
  | @cons entry field entries fields first _ ih =>
    obtain ⟨name, value⟩ := field
    obtain ⟨read, held⟩ := first
    rw [List.foldlM_cons, addField?, read, Option.bind_some]
    by_cases isKnown : name ∈ names
    · have goesOn :
          known names ((name, value) :: fields) = (name, value) :: known names fields := by
        simp [known, isKnown]
      rw [goesOn] at distinct ⊢
      have new := lookup_of_nodup distinct
      have rest : ((given ++ [(name, value)] ++ known names fields).map Prod.fst).Nodup := by
        simpa using distinct
      simp only [List.contains_iff_mem.mpr isKnown, Bool.not_true, Bool.false_eq_true, if_false,
        new, Option.isSome_none, held]
      exact (ih rest).trans (by simp)
    · have passes : known names ((name, value) :: fields) = known names fields := by
        simp [known, isKnown]
      have unknown : names.contains name = false := by simpa using isKnown
      rw [passes] at distinct ⊢
      simp only [unknown, Bool.not_false, if_true]
      exact ih distinct

/-- The first field of a name is found under it. -/
theorem lookup_eq_filter (fields : Fields) (name : String) :
    fields.lookup name = (fields.filter (·.1 == name)).head?.map Prod.snd := by
  induction fields with
  | nil => rfl
  | cons field fields ih =>
    obtain ⟨key, value⟩ := field
    by_cases same : key = name
    · subst same
      simp
    · have differs : (name == key) = false := beq_false_of_ne (Ne.symm same)
      have differ : (key == name) = false := beq_false_of_ne same
      simp only [List.lookup_cons, differs, List.filter_cons, differ, ih]
      rfl

theorem filter_known {names : List String} {fields : Fields} {name : String} (isKnown : name ∈ names) :
    (known names fields).filter (·.1 == name) = fields.filter (·.1 == name) := by
  rw [known, List.filter_filter]
  apply List.filter_congr
  intro field _
  by_cases same : field.1 = name
  · simp [same, isKnown]
  · simp [same]

/-- The fields of a record are its entries with known names, if these are distinct. -/
theorem fields?_record {names : List String} {entries : List (Document × Document)}
    {fields : Fields} (decided : Bool) (named : Named names entries fields)
    (distinct : ((known names fields).map Prod.fst).Nodup) :
    fields? names (.record decided entries) = some (known names fields) :=
  foldlM_addField? named distinct

end LoadSweep.Document
