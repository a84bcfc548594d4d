import LoadSweep.Text.Utf8

/-!
# Requests on the wire

A request to a server is an array of texts.  The number of texts comes first, and each text comes
after the number of its bytes, so the end of a request can be found without looking at the texts.
-/

namespace LoadSweep.Wire

open LoadSweep.Text

set_option autoImplicit false

/-- The end of a line on the wire. -/
def lineEnd : String := "\r\n"

/-- A number in front of what it counts. -/
def counted (mark : String) (count : Nat) : String :=
  mark ++ toString count ++ lineEnd

/-- A text with its length. -/
def bulk (text : String) : String :=
  counted "$" (byteLength text.toList) ++ text ++ lineEnd

/-- A request. -/
def request (arguments : List String) : String :=
  counted "*" arguments.length ++ String.join (arguments.map bulk)

/-- The key that is written before a run and read by it. -/
def warmupKey : String := "key:__rand_int__"

/-- The value that is written before a run. -/
def warmupValue : String := "foo"

end LoadSweep.Wire
