import MeshReadings.Bridge.Directory
import MeshReadings.Gateway.Basic
import MeshReadings.Mqtt.Client

/-!
A gateway that reaches devices through a bridge on a broker. Requests carry a transaction
and are answered by a response with the same one; listeners are kept under the name that a
device had when they were added. The table of pending transactions and the callers that
wait are two things: a caller who gives up leaves its transaction behind.
-/

namespace MeshReadings
namespace Bridge

structure Settings where
  baseTopic : String := "zigbee2mqtt"
  coordinator : String := "Coordinator"
  responseTimeout : UInt64 := 10
deriving DecidableEq

/-- What a caller waits for. Deadlines are times in milliseconds. -/
inductive Wait
  | devices (key : Key) (deadline : Nat)
  /-- A response, which may have come already. -/
  | response (transaction deadline : Nat) (answer : Option Reply)
deriving DecidableEq

def transactionText (n : Nat) : String :=
  String.ofList ("request-".toList ++ Text.digits n)

theorem transactionText_injective {m n : Nat}
    (h : transactionText m = transactionText n) : m = n := by
  have same := List.append_cancel_left (String.ofList_injective h)
  rw [← Text.number_digits m, same, Text.number_digits]

end Bridge

structure Bridge where
  settings : Bridge.Settings
  client : Mqtt.Client
  devices : Bridge.Directory
  isLoaded : Bool
  /-- Transactions that a response may still answer. -/
  pending : List Nat
  waits : List (Ticket × Bridge.Wait)
  /-- The keys listened to, by the friendly name of their device. -/
  listeners : List (String × List Key)
  isClosed : Bool
  transactions : Nat

namespace Bridge

def ofSettings (s : Settings) : Bridge where
  settings := s
  client := .ofCapacity none
  devices := []
  isLoaded := false
  pending := []
  waits := []
  listeners := []
  isClosed := false
  transactions := 0

def baseTopic (b : Bridge) : String := b.settings.baseTopic

/-- The time to wait for a response, in milliseconds. -/
def timeout (b : Bridge) : Nat := 1000 * b.settings.responseTimeout.toNat

def wait? (b : Bridge) (t : Ticket) : Option Wait := (b.waits.find? (·.1 == t)).map (·.2)

def abandon (b : Bridge) (t : Ticket) : Bridge :=
  { b with waits := b.waits.filter (·.1 != t) }

def putWait (b : Bridge) (t : Ticket) (w : Wait) : Bridge :=
  { b with waits := b.waits.filter (·.1 != t) ++ [(t, w)] }

def keysAt (b : Bridge) (name : String) : List Key :=
  match b.listeners.find? (·.1 == name) with
  | some entry => entry.2
  | none => []

/-- Replaces the keys listened to under a name; without keys there is no entry. -/
def setKeys (b : Bridge) (name : String) (keys : List Key) : Bridge :=
  let others := b.listeners.filter (·.1 != name)
  { b with listeners := if keys.isEmpty then others else (name, keys) :: others }

/-- No requests from here on; callers that wait for a response are told so. -/
def close (b : Bridge) : Bridge :=
  if b.isClosed then b
  else
    { b with
      isClosed := true
      pending := []
      waits := b.waits.map fun (t, w) => match w with
        | .response n deadline none =>
          if b.pending.contains n then
            (t, .response n deadline (some (.fault .gatewayClosed)))
          else (t, w)
        | w => (t, w) }

end Bridge
end MeshReadings
