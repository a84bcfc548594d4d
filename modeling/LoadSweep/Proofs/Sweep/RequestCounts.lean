import LoadSweep.Sweep.RequestRule

/-!
# Request counts

At every value of the axis a rule comes to a number of requests (`RequestRule.ComesTo`): the number
is the count, and a rule that comes to zero refuses the value.  A table comes to what it lists first
for the value.  A scaled rule comes to the multiple of the value as a natural number, brought
between its bounds: a product that is saturated lies above every upper bound, so that the bounds
leave nothing of the difference (`RequestRule.toNat_clamp_saturatedProduct`).

Bringing a greater number between the same bounds gives no smaller one, so a scaled rule that counts
a value counts every greater value, and no less (`RequestRule.scaled_mono`).
-/

namespace LoadSweep

set_option autoImplicit false

namespace RequestRule

/-- A rule gives no count at a value. -/
def Refuses (rule : RequestRule) (value : UInt32) : Prop :=
  ∃ reason, rule.resolve value = .error (.setting "requests" reason)

/-- The number of requests that a rule comes to at a value.  Zero is refused, and any other number
is the count. -/
def ComesTo (rule : RequestRule) (value : UInt32) (number : Nat) : Prop :=
  if number = 0 then rule.Refuses value
  else ∃ count, rule.resolve value = .ok count ∧ count.toNat = number

variable {rule : RequestRule} {value : UInt32}

theorem Refuses.ne_ok {count : UInt64} (refuses : rule.Refuses value) :
    rule.resolve value ≠ .ok count := by
  obtain ⟨reason, refused⟩ := refuses
  rw [refused]
  exact nofun

theorem positive_zero (value : UInt32) :
    ∃ reason, positive value 0 = .error (.setting "requests" reason) :=
  ⟨_, rfl⟩

theorem positive_of_ne_zero {count : UInt64} (some : count ≠ 0) (value : UInt32) :
    positive value count = .ok count := by
  simp [positive, some]

/-- A rule that counts by a number of 64 bits comes to it. -/
theorem comesTo_of_positive {count : UInt64} (counts : rule.resolve value = positive value count) :
    rule.ComesTo value count.toNat := by
  rw [ComesTo]
  by_cases zero : count = 0
  · subst zero
    rw [if_pos UInt64.toNat_zero, Refuses, counts]
    exact positive_zero value
  · have some : count.toNat ≠ 0 := fun nothing => zero (UInt64.toNat_inj.mp nothing)
    rw [if_neg some, counts]
    exact ⟨count, positive_of_ne_zero zero value, rfl⟩

/-- A count is the number that the rule comes to, and not zero. -/
theorem ComesTo.of_ok {number : Nat} {count : UInt64} (comes : rule.ComesTo value number)
    (resolved : rule.resolve value = .ok count) : count.toNat = number ∧ number ≠ 0 := by
  rw [ComesTo] at comes
  split at comes
  · exact absurd resolved comes.ne_ok
  · rename_i some
    obtain ⟨other, again, same⟩ := comes
    rw [resolved, Except.ok.injEq] at again
    exact ⟨again ▸ same, some⟩

/-- A number that is not zero is counted. -/
theorem ComesTo.ok {number : Nat} (comes : rule.ComesTo value number) (some : number ≠ 0) :
    ∃ count, rule.resolve value = .ok count ∧ count.toNat = number := by
  rwa [ComesTo, if_neg some] at comes

theorem ComesTo.refuses_or_counts {number : Nat} (comes : rule.ComesTo value number) :
    rule.Refuses value ∨ ∃ count, rule.resolve value = .ok count ∧ count.toNat ≠ 0 := by
  rw [ComesTo] at comes
  split at comes
  · exact .inl comes
  · rename_i some
    obtain ⟨count, resolved, same⟩ := comes
    exact .inr ⟨count, resolved, same ▸ some⟩

/-! ## Scaled rules -/

section Scaled

variable {perUnit low high : UInt64}

/-- What a scaled rule comes to: the multiple of the value, brought between the bounds. -/
def boundedMultiple (perUnit low high : UInt64) (value : UInt32) : Nat :=
  max low.toNat (min (perUnit.toNat * value.toNat) high.toNat)

theorem boundedMultiple_mono {value later : UInt32} (upward : value ≤ later) :
    boundedMultiple perUnit low high value ≤ boundedMultiple perUnit low high later := by
  have multiple : perUnit.toNat * value.toNat ≤ perUnit.toNat * later.toNat :=
    Nat.mul_le_mul_left _ (UInt32.le_iff_toNat_le.mp upward)
  simp only [boundedMultiple]
  omega

/-- Nothing is left of saturation between bounds. -/
theorem toNat_clamp_saturatedProduct (ordered : low ≤ high) (value : UInt32) :
    (clamp low high ordered (saturatedProduct perUnit value.toUInt64)).toNat =
      boundedMultiple perUnit low high value := by
  -- The upper bound is itself a count, so it is not above the greatest one.
  have bound : high.toNat ≤ UInt64.size - 1 := Nat.le_sub_one_of_lt high.toNat_lt_size
  rw [toNat_clamp, toNat_saturatedProduct, UInt32.toNat_toUInt64, boundedMultiple]
  omega

theorem scaled_comesTo (ordered : low ≤ high) (value : UInt32) :
    (scaled perUnit low high).ComesTo value (boundedMultiple perUnit low high value) := by
  rw [← toNat_clamp_saturatedProduct ordered value]
  apply comesTo_of_positive
  rw [resolve, dif_neg (UInt64.not_lt.mpr ordered)]

theorem scaled_refuses (inverted : high < low) (value : UInt32) :
    (scaled perUnit low high).Refuses value := by
  rw [Refuses, resolve, dif_pos inverted]
  exact ⟨_, rfl⟩

/-- What a scaled rule counts at a value, it counts at every greater value, and no less. -/
theorem scaled_mono {value later : UInt32} (upward : value ≤ later) {count : UInt64}
    (resolved : (scaled perUnit low high).resolve value = .ok count) :
    ∃ greater, (scaled perUnit low high).resolve later = .ok greater ∧ count ≤ greater := by
  by_cases inverted : high < low
  · exact absurd resolved (scaled_refuses inverted value).ne_ok
  · have ordered : low ≤ high := UInt64.not_lt.mp inverted
    obtain ⟨here, some⟩ := (scaled_comesTo ordered value).of_ok resolved
    have grown : boundedMultiple perUnit low high value ≤ boundedMultiple perUnit low high later :=
      boundedMultiple_mono upward
    have more : boundedMultiple perUnit low high later ≠ 0 := by omega
    obtain ⟨greater, counted, there⟩ := (scaled_comesTo ordered later).ok more
    refine ⟨greater, counted, UInt64.le_iff_toNat_le.mpr ?_⟩
    rw [here, there]
    exact grown

end Scaled

/-! ## Tables -/

section Tables

variable {entries : List RequestEntry} {entry : RequestEntry}

theorem comesTo_of_found (found : entries.find? (fun entry => entry.value == value) = some entry) :
    (perPoint entries).ComesTo value entry.requests.toNat := by
  apply comesTo_of_positive
  rw [resolve, found]

theorem refuses_of_missed (missed : entries.find? (fun entry => entry.value == value) = none) :
    (perPoint entries).Refuses value := by
  rw [Refuses, resolve, missed]
  exact ⟨_, rfl⟩

theorem find?_unlisted (unlisted : ∀ entry ∈ entries, entry.value ≠ value) :
    entries.find? (fun entry => entry.value == value) = none :=
  List.find?_eq_none.mpr fun entry member => by simpa using unlisted entry member

/-- A table comes to what it lists first for a value. -/
theorem perPoint_comesTo {before after : List RequestEntry}
    (other : ∀ earlier ∈ before, earlier.value ≠ value) (listed : entry.value = value) :
    (perPoint (before ++ entry :: after)).ComesTo value entry.requests.toNat := by
  apply comesTo_of_found
  rw [List.find?_append, find?_unlisted other, Option.none_or, List.find?_cons_of_pos]
  exact beq_iff_eq.mpr listed

end Tables

/-! ## Every rule -/

/-- Whatever a rule is, it refuses a value or counts it, and not by zero. -/
theorem refuses_or_counts (rule : RequestRule) (value : UInt32) :
    rule.Refuses value ∨ ∃ count, rule.resolve value = .ok count ∧ count.toNat ≠ 0 := by
  cases rule with
  | fixed count => exact (comesTo_of_positive rfl).refuses_or_counts
  | perPoint entries =>
    cases found : entries.find? fun entry => entry.value == value with
    | none => exact .inl (refuses_of_missed found)
    | some entry => exact (comesTo_of_found found).refuses_or_counts
  | scaled perUnit low high =>
    by_cases inverted : high < low
    · exact .inl (scaled_refuses inverted value)
    · exact (scaled_comesTo (UInt64.not_lt.mp inverted) value).refuses_or_counts

/-- A count is not zero. -/
theorem ne_zero_of_resolve {count : UInt64} (resolved : rule.resolve value = .ok count) :
    count.toNat ≠ 0 := by
  rcases rule.refuses_or_counts value with refuses | ⟨other, again, some⟩
  · exact absurd resolved refuses.ne_ok
  · rw [resolved, Except.ok.injEq] at again
    exact again ▸ some

/-- What a rule does not count it refuses, and says so of the requests. -/
theorem refuses_of_error {fault : Fault} (failed : rule.resolve value = .error fault) :
    ∃ reason, fault = .setting "requests" reason := by
  rcases rule.refuses_or_counts value with ⟨reason, refused⟩ | ⟨count, resolved, -⟩
  · exact ⟨reason, Except.error.inj (failed.symm.trans refused)⟩
  · rw [resolved] at failed
    cases failed

end RequestRule

/-- **Request counts are exact.** With bounds in order a scaled rule comes to the product of its
unit and the value, however many bits that has, brought between the bounds; with bounds out of order
it refuses every value.  What it counts at a value it counts at every greater value, and no less.  A
table comes to what it lists first for the value, and refuses a value that it does not list.  A
fixed rule comes to its count.  Whatever the rule, a count is at least one and has 64 bits. -/
theorem request_counts_are_exact (value : UInt32) :
    (∀ perUnit low high : UInt64,
      (low ≤ high → (RequestRule.scaled perUnit low high).ComesTo value
        (max low.toNat (min (perUnit.toNat * value.toNat) high.toNat))) ∧
      (high < low → (RequestRule.scaled perUnit low high).Refuses value) ∧
      ∀ later count, value ≤ later →
        (RequestRule.scaled perUnit low high).resolve value = .ok count →
          ∃ greater, (RequestRule.scaled perUnit low high).resolve later = .ok greater ∧
            count ≤ greater) ∧
    (∀ entries : List RequestEntry,
      (∀ before entry after, entries = before ++ entry :: after →
        (∀ earlier ∈ before, earlier.value ≠ value) → entry.value = value →
          (RequestRule.perPoint entries).ComesTo value entry.requests.toNat) ∧
      ((∀ entry ∈ entries, entry.value ≠ value) →
        (RequestRule.perPoint entries).Refuses value)) ∧
    (∀ count, (RequestRule.fixed count).ComesTo value count.toNat) ∧
    ∀ (rule : RequestRule) count, rule.resolve value = .ok count →
      1 ≤ count.toNat ∧ count.toNat ≤ UInt64.size - 1 := by
  refine ⟨?scaled, ?table, fun count => RequestRule.comesTo_of_positive rfl, ?range⟩
  case scaled =>
    intro perUnit low high
    exact ⟨fun ordered => RequestRule.scaled_comesTo ordered value,
      fun inverted => RequestRule.scaled_refuses inverted value,
      fun later count upward resolved => RequestRule.scaled_mono upward resolved⟩
  case table =>
    intro entries
    refine ⟨?_, fun unlisted =>
      RequestRule.refuses_of_missed (RequestRule.find?_unlisted unlisted)⟩
    rintro before entry after rfl other listed
    exact RequestRule.perPoint_comesTo other listed
  case range =>
    intro rule count resolved
    have some := RequestRule.ne_zero_of_resolve resolved
    have bits := count.toNat_lt_size
    omega

/-- Half of all counts for each unit: at three units the product needs 65 bits, and an upper bound
one below the greatest count is what remains of it, there and at the greatest value. -/
theorem half_of_all_counts_is_bounded :
    let rule : RequestRule := .scaled 9223372036854775808 1 18446744073709551614
    ∃ count greatest, rule.resolve 3 = .ok count ∧ count.toNat = 18446744073709551614 ∧
      rule.resolve 4294967295 = .ok greatest ∧ count ≤ greatest := by
  intro rule
  obtain ⟨scaled, -, -, -⟩ := request_counts_are_exact 3
  obtain ⟨comes, -, grows⟩ := scaled 9223372036854775808 1 18446744073709551614
  obtain ⟨count, resolved, number⟩ := (comes (by decide)).ok (by decide)
  obtain ⟨greatest, later, upward⟩ := grows 4294967295 count (by decide) resolved
  exact ⟨count, greatest, resolved, number, later, upward⟩

end LoadSweep
