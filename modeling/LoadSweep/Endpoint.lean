import LoadSweep.Fault
import LoadSweep.Text.Digit

/-!
# Endpoints

An endpoint is one server under test: a name for reports, a host and a port.  On the command line
it is written `name=host:port`, or `name=port` for a server on the loopback address.  The first
endpoint of a list is the baseline, so a list needs at least one, and names tell them apart.
-/

namespace LoadSweep

open LoadSweep.Text

set_option autoImplicit false

/-- One server under test. -/
structure Endpoint where
  name : String
  host : String
  port : UInt16
  deriving Repr, DecidableEq, Inhabited

namespace Endpoint

/-- The host and the port. -/
def address (endpoint : Endpoint) : String :=
  s!"{endpoint.host}:{endpoint.port.toNat}"

/-- The endpoint as log headers and the command line write it. -/
def assignment (endpoint : Endpoint) : String :=
  s!"{endpoint.name}={endpoint.address}"

/-- The endpoint as a reader is told of it. -/
def description (endpoint : Endpoint) : String :=
  s!"{endpoint.name} ({endpoint.address})"

/-- The host of an endpoint that is written with a port alone. -/
def loopback : String := "127.0.0.1"

/-- Reads a port: digits with an optional plus sign, below `2 ^ 16`. -/
def readPort? (text : List Char) : Option UInt16 :=
  let digits := match text with
    | '+' :: rest => rest
    | _ => text
  ((readNatural? digits).filter (· < UInt16.size)).map UInt16.ofNat

/-- The trimmed host and port of an address. -/
def splitAddress (address : List Char) : List Char × List Char :=
  match splitLast? (· == ':') address with
  | some (host, port) => (trim host, trim port)
  | none => (loopback.toList, trim address)

/-- Reads `name=host:port` or `name=port`. -/
def read (text : String) : Except Fault Endpoint :=
  let refuse (reason : String) : Except Fault Endpoint := .error (.setting "endpoint" reason)
  match splitFirst? (· == '=') text.toList with
  | none => refuse s!"expected name=host:port, got '{text}'"
  | some (before, after) =>
    let name := trim before
    if name.isEmpty then refuse "name must not be empty"
    else
      let (host, digits) := splitAddress after
      match readPort? digits with
      | none => refuse s!"invalid port '{String.ofList digits}' in '{text}'"
      | some port =>
        if host.isEmpty then refuse s!"host must not be empty in '{text}'"
        else .ok ⟨String.ofList name, String.ofList host, port⟩

/-- Checks the endpoints that follow others with the names `seen`. -/
def validateAfter (seen : List String) : List Endpoint → Except Fault Unit
  | [] => .ok ()
  | endpoint :: rest =>
    if endpoint.port == 0 then
      .error (.setting "endpoints" s!"endpoint '{endpoint.name}' has port 0")
    else if seen.contains endpoint.name then
      .error (.setting "endpoints" s!"duplicate endpoint name '{endpoint.name}'")
    else validateAfter (endpoint.name :: seen) rest

/-- Checks that a list of endpoints can be compared: there is a baseline, no port is zero and no
name occurs twice. -/
def validate (endpoints : List Endpoint) : Except Fault Unit :=
  if endpoints.isEmpty then
    .error (.setting "endpoints" "at least one endpoint is required")
  else validateAfter [] endpoints

end Endpoint

end LoadSweep
