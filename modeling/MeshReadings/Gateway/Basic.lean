import MeshReadings.Fault
import MeshReadings.Key
import MeshReadings.Reading.Raw

/-!
What an engine asks of the side that talks to devices, and what it can be told in return.
A device that answers with a failure has refused; a fault means that no device answered.
-/

namespace MeshReadings

/-- Names an operation in progress. -/
abbrev Ticket := Nat

inductive Call
  | resolve
  | bind
  | report (min max : Nat) (change : Option Binary64)
  | read
  | listen
  | unlisten
deriving DecidableEq

inductive Reply
  | ok
  | refused (status : String)
  | reading (raw : Raw)
  | fault (f : Fault)
deriving DecidableEq

structure AttributeEvent where
  key : Key
  raw : Raw
deriving DecidableEq

end MeshReadings
