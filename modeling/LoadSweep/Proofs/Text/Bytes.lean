import LoadSweep.Text.Utf8
import Mathlib.Tactic.SplitIfs

/-!
# Bytes of a text

Every character takes a byte at least, so a text has no more characters than bytes.  Cutting a text
to a number of bytes leaves a beginning of it that takes no more (`byteLength_takeBytes_le`), and
the whole of it exactly if that takes no more (`takeBytes_eq_self_iff`).
-/

namespace LoadSweep.Text

set_option autoImplicit false

theorem byteSize_pos (c : Char) : 1 ≤ byteSize c := by
  rw [byteSize]
  split_ifs <;> omega

theorem byteLength_cons (c : Char) (text : List Char) :
    byteLength (c :: text) = byteSize c + byteLength text := by
  have counted (total : Nat) : text.foldl (fun total c => total + byteSize c) total =
      total + byteLength text := by
    induction text generalizing total with
    | nil => rfl
    | cons d text ih => rw [byteLength, List.foldl_cons, List.foldl_cons, ih, ih, Nat.zero_add,
        Nat.add_assoc]
  rw [byteLength, List.foldl_cons, counted, Nat.zero_add]

theorem byteLength_append (text other : List Char) :
    byteLength (text ++ other) = byteLength text + byteLength other := by
  induction text with
  | nil => exact (Nat.zero_add _).symm
  | cons c text ih => rw [List.cons_append, byteLength_cons, byteLength_cons, ih, Nat.add_assoc]

/-- A text has no more characters than bytes. -/
theorem length_le_byteLength (text : List Char) : text.length ≤ byteLength text := by
  induction text with
  | nil => exact Nat.zero_le _
  | cons c text ih =>
    have some := byteSize_pos c
    rw [List.length_cons, byteLength_cons]
    omega

theorem takeBytes_prefix (bound : Nat) (text : List Char) : takeBytes bound text <+: text := by
  induction text generalizing bound with
  | nil => exact List.prefix_refl _
  | cons c text ih =>
    rw [takeBytes]
    split
    · exact List.cons_prefix_cons.mpr ⟨rfl, ih _⟩
    · exact List.nil_prefix

theorem byteLength_takeBytes_le (bound : Nat) (text : List Char) :
    byteLength (takeBytes bound text) ≤ bound := by
  induction text generalizing bound with
  | nil => exact Nat.zero_le _
  | cons c text ih =>
    rw [takeBytes]
    split
    · have rest := ih (bound - byteSize c)
      rw [byteLength_cons]
      omega
    · exact Nat.zero_le _

/-- A text is left as a whole exactly if it takes no more than the bound. -/
theorem takeBytes_eq_self_iff {bound : Nat} {text : List Char} :
    takeBytes bound text = text ↔ byteLength text ≤ bound := by
  constructor
  · intro whole
    rw [← whole]
    exact byteLength_takeBytes_le bound text
  · intro fits
    induction text generalizing bound with
    | nil => rfl
    | cons c text ih =>
      rw [byteLength_cons] at fits
      rw [takeBytes, if_pos (by omega), ih (by omega)]

/-- Where there is no room nothing is left. -/
theorem takeBytes_zero (text : List Char) : takeBytes 0 text = [] := by
  have none := Nat.le_trans (length_le_byteLength _) (byteLength_takeBytes_le 0 text)
  exact List.eq_nil_of_length_eq_zero (Nat.le_zero.mp none)

end LoadSweep.Text
