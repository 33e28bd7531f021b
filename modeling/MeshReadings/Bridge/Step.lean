import MeshReadings.Bridge.Call
import MeshReadings.Bridge.Message

/-!
How a bridge moves. Callers begin calls, take their replies away or give up, messages come
from the broker, and the bridge may be closed; any order of these is a possible run. The
client belongs to others as well, who may leave it in any state between two steps.
-/

namespace MeshReadings
namespace Bridge

inductive Event
  | call (t : Ticket) (key : Key) (c : Call)
  | message (topic payload : String)
  /-- A caller goes on with its reply, if there is one. -/
  | collect (t : Ticket)
  /-- A caller gives up. -/
  | abandon (t : Ticket)
  | close
  | client (c : Mqtt.Client)

inductive Effect
  | send (r : Mqtt.Request)
  | reply (t : Ticket) (r : Reply)
  | event (e : AttributeEvent)
deriving DecidableEq

def Effect.reply? : Effect → Option (Ticket × Reply)
  | reply t r => some (t, r)
  | _ => none

def Effect.event? : Effect → Option AttributeEvent
  | event e => some e
  | _ => none

abbrev Step := Bridge × List Effect

/-- What the client was given on the way from one state to another. -/
def sent (before after : Bridge) : List Effect :=
  (after.client.queue.drop before.client.queue.length).map .send

def collect (b : Bridge) (now : Nat) (t : Ticket) : Step :=
  match b.reply? now t with
  | none => (b, [])
  | some r => (b.settle t, [.reply t r])

def step (b : Bridge) (now : Nat) : Event → Step
  | .call t key c =>
    let (b', r?) := b.call now t key c
    (b', b.sent b' ++ (r?.map (.reply t)).toList)
  | .message topic payload =>
    let (b', events) := b.handle topic payload
    (b', events.map .event)
  | .collect t => b.collect now t
  | .abandon t => (b.abandon t, [])
  | .close => (b.close, [])
  | .client c => ({ b with client := c }, [])

end Bridge
end MeshReadings
