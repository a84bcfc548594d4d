import LoadSweep.Client.Command
import LoadSweep.Series

/-!
# Journals

A journal holds everything that was done to the outside while sweeps were measured: pings, seeds,
runs of the client, lines of the log, and series handed over.  It is kept with the latest event
first; the views below put one kind of event in the order in which it happened.
-/

namespace LoadSweep

set_option autoImplicit false

/-- Something that was done to the outside. -/
inductive Event where
  | pinged (endpoint : Endpoint)
  | seeded (endpoint : Endpoint)
  | executed (command : Command) (limit : Duration)
  | logged (path line : String)
  | handedOver (series : Series)

namespace Event

/-- The commands and limits of the runs in a journal, in order. -/
def executions (journal : List Event) : List (Command × Duration) :=
  journal.reverse.filterMap fun event =>
    match event with
    | .executed command limit => some (command, limit)
    | _ => none

/-- The endpoints pinged in a journal, in order. -/
def pings (journal : List Event) : List Endpoint :=
  journal.reverse.filterMap fun event =>
    match event with
    | .pinged endpoint => some endpoint
    | _ => none

/-- The endpoints seeded in a journal, in order. -/
def seeds (journal : List Event) : List Endpoint :=
  journal.reverse.filterMap fun event =>
    match event with
    | .seeded endpoint => some endpoint
    | _ => none

/-- The series handed over in a journal, in order. -/
def handovers (journal : List Event) : List Series :=
  journal.reverse.filterMap fun event =>
    match event with
    | .handedOver series => some series
    | _ => none

end Event

end LoadSweep
