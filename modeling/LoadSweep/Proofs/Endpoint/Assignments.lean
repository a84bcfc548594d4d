import LoadSweep.Endpoint
import LoadSweep.Proofs.Json.Scalars
import LoadSweep.Proofs.Text.Words

/-!
# Assignments come back

An endpoint is written as `name=host:port` in the header of a section and on the command line.  It
is read at the first equals sign and the last colon, and the name, the host and the port are
trimmed.  So an assignment is read back as its endpoint if the name could have been trimmed there
and has no equals sign, and the host could have been trimmed too; it may hold colons and equals
signs (`read_assignment`).  Every endpoint that is read is of this kind, however oddly it was
written (`assignable_of_read`), and reading is therefore idempotent (`assignments_come_back`).
-/

namespace LoadSweep

open Text

set_option autoImplicit false

namespace Endpoint

variable {endpoint : Endpoint} {text : String}

/-! ## What can be assigned -/

/-- An endpoint that its assignment tells: neither the name nor the host is empty or has a blank at
an end, and the name has no equals sign. -/
structure Assignable (endpoint : Endpoint) : Prop where
  named : endpoint.name ≠ ""
  name : Tight endpoint.name.toList
  unassigned : '=' ∉ endpoint.name.toList
  hosted : endpoint.host ≠ ""
  host : Tight endpoint.host.toList

/-! ## Ports -/

/-- A port is read from its decimal digits. -/
theorem readPort?_toDigits (port : UInt16) :
    readPort? (Nat.toDigits 10 port.toNat) = some port := by
  have digits : ∀ c ∈ Nat.toDigits 10 port.toNat, c.isDigit = true := fun _ => isDigit_of_toDigits
  have unsigned : ∀ rest, Nat.toDigits 10 port.toNat ≠ '+' :: rest := by
    intro rest signed
    rw [signed] at digits
    cases digits '+' List.mem_cons_self
  have bounded : port.toNat < UInt16.size := port.toNat_lt
  rw [readPort?, readNatural?_toDigits, Option.filter_some, if_pos (decide_eq_true bounded),
    Option.map_some, UInt16.ofNat_toNat]
  exact unsigned

/-! ## Addresses -/

theorem splitAddress_colon {host digits : List Char} (uncut : ':' ∉ digits) :
    splitAddress (host ++ ':' :: digits) = (trim host, trim digits) := by
  rw [splitAddress, splitLast?_at_iff.mpr ⟨rfl, uncut⟩]

/-- A host is trimmed or the loopback address. -/
theorem tight_splitAddress (address : List Char) : Tight (splitAddress address).1 := by
  rw [splitAddress]
  split
  · exact tight_trim _
  · have solid : loopback.toList.all (fun c => !isBlank c) = true := by decide
    exact tight_of_solid fun c member => by simpa using List.all_eq_true.mp solid c member

/-! ## Reading -/

/-- What an assignment that is read consists of. -/
theorem read_eq_ok_iff :
    read text = .ok endpoint ↔ ∃ before after, text.toList = before ++ '=' :: after ∧
      '=' ∉ before ∧ trim before = endpoint.name.toList ∧ endpoint.name ≠ "" ∧
      readPort? (splitAddress after).2 = some endpoint.port ∧
      (splitAddress after).1 = endpoint.host.toList ∧ endpoint.host ≠ "" := by
  constructor
  · intro read
    simp only [Endpoint.read] at read
    split at read
    · cases read
    rename_i before after cut
    split at read
    · cases read
    rename_i named
    split at read
    · cases read
    rename_i port found
    split at read
    · cases read
    rename_i hosted
    cases read
    obtain ⟨parts, uncut⟩ := splitFirst?_at_iff.mp cut
    refine ⟨before, after, parts, uncut, String.toList_ofList.symm, ?_, found,
      String.toList_ofList.symm, ?_⟩
    · simpa using named
    · simpa using hosted
  · rintro ⟨before, after, parts, uncut, name, named, port, host, hosted⟩
    have some : endpoint.name.toList.isEmpty = false := by simpa using named
    have someHost : endpoint.host.toList.isEmpty = false := by simpa using hosted
    simp [Endpoint.read, splitFirst?_at_iff.mpr ⟨parts, uncut⟩, name, port, host, some, someHost]

theorem assignable_of_read (read : read text = .ok endpoint) : endpoint.Assignable := by
  obtain ⟨before, after, -, unassigned, name, named, -, host, hosted⟩ := read_eq_ok_iff.mp read
  exact
    { named := named
      name := name ▸ tight_trim before
      unassigned := name ▸ fun member => unassigned (mem_of_mem_trim member)
      hosted := hosted
      host := host ▸ tight_splitAddress after }

theorem toList_address (endpoint : Endpoint) :
    endpoint.address.toList =
      endpoint.host.toList ++ ':' :: Nat.toDigits 10 endpoint.port.toNat := by
  rw [← toList_toString]
  simp [address, toString]

theorem toList_assignment (endpoint : Endpoint) :
    endpoint.assignment.toList = endpoint.name.toList ++ '=' :: endpoint.address.toList := by
  simp [assignment, toString]

theorem read_assignment (assignable : endpoint.Assignable) :
    read endpoint.assignment = .ok endpoint := by
  have digits : ∀ c ∈ Nat.toDigits 10 endpoint.port.toNat, c.isDigit = true :=
    fun _ => isDigit_of_toDigits
  have uncolon : ':' ∉ Nat.toDigits 10 endpoint.port.toNat := by
    intro member
    cases digits ':' member
  have tight : Tight (Nat.toDigits 10 endpoint.port.toNat) :=
    tight_of_solid fun c member => not_blank_of_isDigit (digits c member)
  have split : splitAddress endpoint.address.toList =
      (endpoint.host.toList, Nat.toDigits 10 endpoint.port.toNat) := by
    rw [toList_address, splitAddress_colon uncolon, trim_of_tight assignable.host,
      trim_of_tight tight]
  rw [read_eq_ok_iff]
  refine ⟨endpoint.name.toList, endpoint.address.toList, toList_assignment endpoint,
    assignable.unassigned, trim_of_tight assignable.name, assignable.named, ?_, ?_,
    assignable.hosted⟩
  · rw [split, readPort?_toDigits]
  · rw [split]

end Endpoint

/-- **Assignments come back.** An endpoint that can be assigned is read back from its assignment,
and every endpoint that is read from any text can be assigned. -/
theorem assignments_come_back (endpoint : Endpoint) :
    (endpoint.Assignable → Endpoint.read endpoint.assignment = .ok endpoint) ∧
      ∀ text, Endpoint.read text = .ok endpoint →
        endpoint.Assignable ∧ Endpoint.read endpoint.assignment = .ok endpoint :=
  ⟨Endpoint.read_assignment, fun _ read =>
    ⟨Endpoint.assignable_of_read read, Endpoint.read_assignment (Endpoint.assignable_of_read read)⟩⟩

/-- An endpoint whose host has colons and an equals sign. -/
def scopedEndpoint : Endpoint where
  name := "rutin"
  host := "fe80::1=x"
  port := 6379

/-- However it is written, it is the endpoint of its assignment. -/
theorem scopedEndpoint_comes_back :
    Endpoint.read "\trutin = fe80::1=x : +06379 " = .ok scopedEndpoint ∧
      scopedEndpoint.Assignable ∧
      Endpoint.read "rutin=fe80::1=x:6379" = .ok scopedEndpoint := by
  obtain ⟨forth, back⟩ := assignments_come_back scopedEndpoint
  have read : Endpoint.read "\trutin = fe80::1=x : +06379 " = .ok scopedEndpoint := rfl
  exact ⟨read, (back _ read).1, forth (back _ read).1⟩

end LoadSweep
