/-!
# Reading bytes as text

Output of a client is bytes.  They are read as UTF-8, and each longest stretch of bytes that begins
a character without completing it, or a byte that begins none, is read as one replacement
character, so no output is ever refused.
-/

namespace LoadSweep.Text

set_option autoImplicit false

/-- The character that stands for bytes that are no text. -/
def replacement : Char := Char.ofNat 0xFFFD

/-- The bytes that may follow a leading byte, as closed ranges, with the bits of the leading byte
that belong to the code point.  The first range excludes overlong forms, surrogates and code
points beyond the last. -/
def continuationRanges? (lead : UInt8) : Option (Nat × List (UInt8 × UInt8)) :=
  let tail : UInt8 × UInt8 := (0x80, 0xBF)
  if lead < 0x80 then some (lead.toNat, [])
  else if 0xC2 ≤ lead && lead ≤ 0xDF then some (lead.toNat - 0xC0, [tail])
  else if lead == 0xE0 then some (0, [(0xA0, 0xBF), tail])
  else if lead == 0xED then some (0xD, [(0x80, 0x9F), tail])
  else if 0xE1 ≤ lead && lead ≤ 0xEF then some (lead.toNat - 0xE0, [tail, tail])
  else if lead == 0xF0 then some (0, [(0x90, 0xBF), tail, tail])
  else if 0xF1 ≤ lead && lead ≤ 0xF3 then some (lead.toNat - 0xF0, [tail, tail, tail])
  else if lead == 0xF4 then some (4, [(0x80, 0x8F), tail, tail])
  else none

/-- A character in the making: its leading bits and the bytes it still needs. -/
structure PartialCharacter where
  bits : Nat
  missing : List (UInt8 × UInt8)

/-- One step of the reader: the character in the making, if any, and the characters read so far,
newest first. -/
structure DecodingState where
  pending : Option PartialCharacter
  written : List Char

/-- Reads a byte where a character begins. -/
def DecodingState.start (state : DecodingState) (byte : UInt8) : DecodingState :=
  match continuationRanges? byte with
  | none => ⟨none, replacement :: state.written⟩
  | some (bits, []) => ⟨none, Char.ofNat bits :: state.written⟩
  | some (bits, missing) => { state with pending := some ⟨bits, missing⟩ }

/-- Reads one byte. -/
def DecodingState.step (state : DecodingState) (byte : UInt8) : DecodingState :=
  match state.pending with
  | none => state.start byte
  | some ⟨_, []⟩ => state.start byte
  | some ⟨bits, (low, high) :: missing⟩ =>
    if low ≤ byte && byte ≤ high then
      let bits := 64 * bits + (byte.toNat - 0x80)
      match missing with
      | [] => ⟨none, Char.ofNat bits :: state.written⟩
      | _ :: _ => { state with pending := some ⟨bits, missing⟩ }
    else
      ({ state with written := replacement :: state.written }).start byte

/-- Ends the text: a character still in the making becomes a replacement. -/
def DecodingState.finish (state : DecodingState) : DecodingState :=
  match state.pending with
  | none => state
  | some _ => ⟨none, replacement :: state.written⟩

/-- The state after all bytes. -/
def decode (bytes : List UInt8) : DecodingState :=
  (bytes.foldl DecodingState.step ⟨none, []⟩).finish

/-- The text of a list of bytes, with replacement characters where they are not UTF-8. -/
def ofBytes (bytes : List UInt8) : String :=
  String.ofList (decode bytes).written.reverse

/-- The number of bytes that a character takes. -/
def byteSize (c : Char) : Nat :=
  if c.toNat < 0x80 then 1 else if c.toNat < 0x800 then 2 else if c.toNat < 0x10000 then 3 else 4

/-- The number of bytes that a text takes. -/
def byteLength (text : List Char) : Nat :=
  text.foldl (fun total c => total + byteSize c) 0

/-- The longest beginning of a text that takes no more than a number of bytes. -/
def takeBytes : Nat → List Char → List Char
  | _, [] => []
  | bound, c :: text =>
    if byteSize c ≤ bound then c :: takeBytes (bound - byteSize c) text else []

end LoadSweep.Text
