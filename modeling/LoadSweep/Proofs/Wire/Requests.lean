import LoadSweep.Proofs.Json.Scalars
import LoadSweep.Wire.Probe

/-!
# Requests delimit themselves

A request can be read from the bytes of a connection without a mark at its end.  The reader here
takes nothing but what the protocol says: a mark, a decimal count and a line end, and then as many
bytes, or as many texts, as were counted.  It never looks for a delimiter inside a text, so a text
may hold any, and it stops at the end of the request whatever bytes follow
(`requests_delimit_themselves`).

Each part of a request has a reader that stops at the end of the part (`Reads`), and the readers are
put together as the parts are.  A count is delimited by the line end, since no digit is a carriage
return, and it counts bytes, not characters (`length_bytes`).
-/

namespace LoadSweep.Wire

open Text

set_option autoImplicit false

/-! ## The bytes of a text -/

/-- The bytes of a text in UTF-8. -/
def bytes (text : String) : List UInt8 :=
  text.toUTF8.data.toList

theorem bytes_append (text other : String) : bytes (text ++ other) = bytes text ++ bytes other := by
  simp [bytes]

theorem bytes_eq_flatMap (text : String) :
    bytes text = text.toList.flatMap String.utf8EncodeChar := by
  rw [bytes, String.toUTF8_eq_toByteArray, ← String.utf8Encode_toList, List.utf8Encode,
    List.toList_data_toByteArray]

theorem byteSize_eq_utf8Size (c : Char) : byteSize c = c.utf8Size := by
  have bound (n : UInt32) : c.val ≤ n ↔ c.toNat < n.toNat + 1 :=
    UInt32.le_iff_toNat_le.trans Nat.lt_succ_iff.symm
  simp only [byteSize, Char.utf8Size, bound]
  rfl

/-- The length of a text is the number of its bytes. -/
theorem length_bytes (text : String) : (bytes text).length = byteLength text.toList := by
  simp only [bytes_eq_flatMap, List.length_flatMap, String.length_utf8EncodeChar, byteLength,
    byteSize_eq_utf8Size, List.sum_eq_foldl, List.foldl_map]

/-- A text in ASCII has one byte for each character. -/
theorem bytes_ofList {text : List Char} (ascii : ∀ c ∈ text, c.toNat < 128) :
    bytes (String.ofList text) = text.map Char.toUInt8 := by
  have one : ∀ c ∈ text, String.utf8EncodeChar c = [c.toUInt8] := by
    intro c member
    have single : c.utf8Size = 1 := by
      rw [← byteSize_eq_utf8Size, byteSize, if_pos (ascii c member)]
    exact String.utf8EncodeChar_eq_singleton single
  rw [bytes_eq_flatMap, String.toList_ofList, List.map_eq_flatMap, List.flatMap_def,
    List.map_congr_left one, List.flatMap_def]

theorem ofUInt8_toUInt8 {c : Char} (ascii : c.toNat < 128) : Char.ofUInt8 c.toUInt8 = c := by
  have kept : c.toUInt8.toNat = c.toNat := Nat.mod_eq_of_lt (Nat.lt_trans ascii (by decide))
  exact Char.ext (UInt32.toNat_inj.mp kept)

/-! ## Readers -/

/-- What follows given bytes. -/
def after? (opening input : List UInt8) : Option (List UInt8) :=
  if opening.isPrefixOf input then some (input.drop opening.length) else none

/-- The number that decimal digits spell. -/
def number (digits : List UInt8) : Nat :=
  naturalOfDigits (digits.map Char.ofUInt8)

/-- The text that bytes are in UTF-8, if they are one. -/
def text? (input : List UInt8) : Option String :=
  String.fromUTF8? ⟨input.toArray⟩

/-- Whether a byte is a decimal digit. -/
def isDigit (byte : UInt8) : Bool :=
  (Char.ofUInt8 byte).isDigit

/-- Reads a count behind a mark, and what follows it. -/
def readCount? (mark : String) (input : List UInt8) : Option (Nat × List UInt8) :=
  (after? (bytes mark) input).bind fun body =>
    let digits := body.takeWhile isDigit
    if digits.isEmpty then none
    else (after? (bytes lineEnd) (body.dropWhile isDigit)).map (number digits, ·)

/-- Reads a text of counted bytes, and what follows it. -/
def readBulk? (input : List UInt8) : Option (String × List UInt8) :=
  (readCount? "$" input).bind fun (count, body) =>
    if body.length < count then none
    else (text? (body.take count)).bind fun text =>
      (after? (bytes lineEnd) (body.drop count)).map (text, ·)

/-- Reads a number of texts, and what follows them. -/
def readBulks? : Nat → List UInt8 → Option (List String × List UInt8)
  | 0, input => some ([], input)
  | count + 1, input =>
    (readBulk? input).bind fun (text, body) =>
      (readBulks? count body).map fun (texts, rest) => (text :: texts, rest)

/-- Reads a request, and what follows it. -/
def readRequest? (input : List UInt8) : Option (List String × List UInt8) :=
  (readCount? "*" input).bind fun (count, body) => readBulks? count body

/-- A reader reads a text as a value and stops at its end, whatever follows. -/
def Reads {α : Type} (reader? : List UInt8 → Option (α × List UInt8)) (text : String) (value : α) :
    Prop :=
  ∀ rest, reader? (bytes text ++ rest) = some (value, rest)

/-! ## What the readers read -/

theorem after?_append (opening rest : List UInt8) :
    after? opening (opening ++ rest) = some rest := by
  rw [after?, if_pos (List.isPrefixOf_iff_prefix.mpr (List.prefix_append ..)), List.drop_left]

theorem text?_bytes (text : String) : text? (bytes text) = some text := by
  rw [text?, bytes, Array.toArray_toList]
  exact dif_pos text.isValidUTF8

/-- The bytes of a numeral are digits, at least one of them, and spell the number. -/
theorem bytes_toString (n : Nat) :
    bytes (toString n) ≠ [] ∧ (∀ byte ∈ bytes (toString n), isDigit byte = true) ∧
      number (bytes (toString n)) = n := by
  have ascii : ∀ c ∈ Nat.toDigits 10 n, c.toNat < 128 := by
    intro c member
    obtain ⟨-, high⟩ := Char.isDigit_iff_toNat.mp (isDigit_of_toDigits member)
    have nine : '9'.toNat = 57 := rfl
    omega
  have spelt : bytes (toString n) = (Nat.toDigits 10 n).map Char.toUInt8 := bytes_ofList ascii
  have back : ∀ c ∈ Nat.toDigits 10 n, (Char.ofUInt8 ∘ Char.toUInt8) c = id c :=
    fun c member => ofUInt8_toUInt8 (ascii c member)
  refine ⟨?_, ?_, ?_⟩
  · rw [spelt, Ne, List.map_eq_nil_iff]
    exact Nat.toDigits_ne_nil
  · rw [spelt, List.forall_mem_map]
    intro c member
    rw [isDigit, ofUInt8_toUInt8 (ascii c member)]
    exact isDigit_of_toDigits member
  · rw [spelt, number, List.map_map, List.map_congr_left back, List.map_id,
      naturalOfDigits_toDigits]

/-- The line end delimits the count: it does not begin with a digit. -/
theorem reads_counted (mark : String) (count : Nat) :
    Reads (readCount? mark) (counted mark count) count := by
  intro rest
  obtain ⟨some, digits, spelt⟩ := bytes_toString count
  have stops : ∀ byte ∈ (bytes lineEnd ++ rest).head?, isDigit byte = false := by
    rintro byte ⟨⟩
    decide
  obtain ⟨taken, left⟩ := span_until digits stops
  rw [counted, bytes_append, bytes_append, List.append_assoc, List.append_assoc, readCount?,
    after?_append, Option.bind_some]
  simp only [taken, left, after?_append, Option.map_some, spelt]
  rw [if_neg (by simpa using some)]

/-- A text is as long as it is said to be, so nothing in it is looked at. -/
theorem reads_bulk (text : String) : Reads readBulk? (bulk text) text := by
  intro rest
  rw [bulk, bytes_append, bytes_append, List.append_assoc, List.append_assoc, readBulk?,
    reads_counted, Option.bind_some, ← length_bytes]
  simp only [List.length_append, List.take_left, List.drop_left, text?_bytes, after?_append,
    Option.bind_some, Option.map_some]
  rw [if_neg (by omega)]

theorem reads_bulks (arguments : List String) :
    Reads (readBulks? arguments.length) (String.join (arguments.map bulk)) arguments := by
  induction arguments with
  | nil => exact fun rest => rfl
  | cons text arguments ih =>
    intro rest
    rw [List.map_cons, String.join_cons, bytes_append, List.append_assoc, List.length_cons,
      readBulks?, reads_bulk, Option.bind_some]
    simp only [ih rest, Option.map_some]

theorem reads_request (arguments : List String) :
    Reads readRequest? (request arguments) arguments := by
  intro rest
  rw [request, bytes_append, List.append_assoc, readRequest?, reads_counted, Option.bind_some]
  exact reads_bulks arguments rest

/-- What a reader reads from a stream does not depend on where the stream is thought to be cut. -/
theorem Reads.unique {α : Type} {reader? : List UInt8 → Option (α × List UInt8)}
    {text other : String} {value otherValue : α} (reads : Reads reader? text value)
    (readsOther : Reads reader? other otherValue) {rest otherRest : List UInt8}
    (same : bytes text ++ rest = bytes other ++ otherRest) :
    value = otherValue ∧ rest = otherRest := by
  have both := (reads rest).symm.trans (same ▸ readsOther otherRest)
  exact Prod.ext_iff.mp (Option.some.inj both)

/-! ## Requests in a stream -/

/-- **Requests delimit themselves.** A reader recovers the arguments of a request from its bytes and
stops at its end, whatever bytes follow.  So two streams that start with requests are the same only
if the requests have the same arguments and the same bytes follow them. -/
theorem requests_delimit_themselves (arguments : List String) :
    (∀ rest, readRequest? (bytes (request arguments) ++ rest) = some (arguments, rest)) ∧
      ∀ others rest otherRest,
        bytes (request arguments) ++ rest = bytes (request others) ++ otherRest →
          arguments = others ∧ rest = otherRest :=
  ⟨reads_request arguments,
    fun others _ _ => (reads_request arguments).unique (reads_request others)⟩

/-- Arguments that look like parts of requests. -/
def trickyArguments : List String :=
  ["SET", "", "$0\r\n\r\n*1\r\n", "schlüssel"]

/-- They are read back and the ping behind them is left, which no other request could be. -/
theorem trickyArguments_are_read_back :
    readRequest? (bytes (request trickyArguments) ++ bytes (request ["PING"])) =
        some (trickyArguments, bytes (request ["PING"])) ∧
      bytes (request ["PING"]) ++ bytes lineEnd = bytes (request Probe.ping.arguments) ++ [13, 10] ∧
      ["PING"] = Probe.ping.arguments ∧ bytes lineEnd = [13, 10] :=
  have same : bytes (request ["PING"]) ++ bytes lineEnd =
      bytes (request Probe.ping.arguments) ++ [13, 10] := rfl
  ⟨(requests_delimit_themselves trickyArguments).1 _, same,
    (requests_delimit_themselves ["PING"]).2 _ _ _ same⟩

end LoadSweep.Wire
