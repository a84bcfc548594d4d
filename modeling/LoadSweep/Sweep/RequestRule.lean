import LoadSweep.Fault

/-!
# Request rules

Pipelined runs finish sooner, so a sweep may issue more requests at some points than at others.
The rule is part of the configuration: one count for all points, a table by axis value, or a
multiple of the axis value within bounds.  Counts have 64 bits; a multiple that needs more of them
is the greatest count before it is brought between the bounds, and bounds that leave nothing
between them are refused before anything is brought there.
-/

namespace LoadSweep

set_option autoImplicit false

/-- A line of a request table. -/
structure RequestEntry where
  value : UInt32
  requests : UInt64
  deriving Repr, DecidableEq, Inhabited

/-- How many requests a run issues at a value of the axis. -/
inductive RequestRule where
  | fixed (count : UInt64)
  | perPoint (entries : List RequestEntry)
  | scaled (perUnit low high : UInt64)
  deriving Repr, DecidableEq, Inhabited

namespace RequestRule

/-- The product of two counts, or the greatest count if the product has too many bits. -/
def saturatedProduct (a b : UInt64) : UInt64 :=
  if a.toNat * b.toNat < UInt64.size then a * b else UInt64.ofNat (UInt64.size - 1)

/-- A count brought between two bounds, of which the first is not above the second. -/
def clamp (low high : UInt64) (_ordered : low ≤ high) (count : UInt64) : UInt64 :=
  if count < low then low else if high < count then high else count

/-- A count that a run can issue: at least one. -/
def positive (value : UInt32) (count : UInt64) : Except Fault UInt64 :=
  if count == 0 then
    .error (.setting "requests" s!"request count for axis value {value.toNat} is zero")
  else .ok count

/-- The request count at a value of the axis. -/
def resolve (rule : RequestRule) (value : UInt32) : Except Fault UInt64 :=
  match rule with
  | fixed count => positive value count
  | perPoint entries =>
    match entries.find? fun entry => entry.value == value with
    | some entry => positive value entry.requests
    | none =>
      .error (.setting "requests" s!"no request count listed for axis value {value.toNat}")
  | scaled perUnit low high =>
    if inverted : high < low then
      .error (.setting "requests" s!"scaled rule has min {low.toNat} above max {high.toNat}")
    else
      positive value
        (clamp low high (UInt64.not_lt.mp inverted) (saturatedProduct perUnit value.toUInt64))

theorem toNat_saturatedProduct (a b : UInt64) :
    (saturatedProduct a b).toNat = min (a.toNat * b.toNat) (UInt64.size - 1) := by
  unfold saturatedProduct
  split
  · rename_i fits
    rw [UInt64.toNat_mul, Nat.mod_eq_of_lt fits]
    omega
  · rw [UInt64.toNat_ofNat_of_lt' (by decide)]
    omega

theorem toNat_clamp {low high : UInt64} (ordered : low ≤ high) (count : UInt64) :
    (clamp low high ordered count).toNat = max low.toNat (min count.toNat high.toNat) := by
  have bounds := UInt64.le_iff_toNat_le.mp ordered
  simp only [clamp, UInt64.lt_iff_toNat_lt]
  split
  · omega
  · split <;> omega

end RequestRule

end LoadSweep
