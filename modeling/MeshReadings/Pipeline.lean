import MeshReadings.Rehearsal.Basic

/-!
The way from the broker to the channels. A router takes messages from its backlog, the
next one only when all events of the last are queued, and a dispatcher takes events off
the queue and gives them to the hub. Both take their turns whenever they like, and so do
the openings of engines, whose calls and replies go between the hub and the gateway: any
order of turns is a possible run.
-/

namespace MeshReadings

structure Pipeline where
  hub : Hub
  peer : Rehearsal.Peer
  events : EventQueue
  /-- Events of the message in hand that are not queued yet. -/
  waiting : List AttributeEvent
  /-- Messages that nobody has taken in hand yet, with their topics. -/
  backlog : List (String × String)

namespace Pipeline

inductive Event
  | openEngine (t : Ticket) (spec : Spec)
  /-- An opening goes on with its reply, if there is one. -/
  | proceed (t : Ticket)
  | arrive (topic payload : String)
  /-- The router takes a message in hand. -/
  | handle
  /-- The router queues an event. -/
  | forward
  /-- The dispatcher takes an event. -/
  | dispatch

/-- A bridge with nobody to take its events yet. -/
def start (b : Bridge) (capacity : Nat) : Pipeline where
  hub := .empty
  peer := { side := .bridge b }
  events := { capacity := capacity }
  waiting := []
  backlog := []

abbrev Step := Pipeline × List Hub.Effect

def place (now : Nat) (peer : Rehearsal.Peer) : Hub.Effect → Rehearsal.Peer
  | .call t key c => peer.call now t key c
  | _ => peer

/-- Lets the hub take a step. Its calls are made at once. -/
def stepHub (p : Pipeline) (now : Nat) (e : Hub.Event) : Step :=
  let (hub, effects) := p.hub.step now e
  ({ p with hub := hub, peer := effects.foldl (place now) p.peer }, effects)

def proceed (p : Pipeline) (now : Nat) (t : Ticket) : Step :=
  match p.hub.opening? t, p.peer.reply? now t with
  | some _, some r => { p with peer := p.peer.settle now t }.stepHub now (.reply t r)
  | _, _ => (p, [])

def handle (p : Pipeline) (now : Nat) : Pipeline :=
  match p.waiting, p.backlog with
  | [], (topic, payload) :: rest =>
    let (peer, effects) := p.peer.stepBridge now (.message topic payload)
    { p with
      peer := peer, waiting := effects.filterMap Bridge.Effect.event?, backlog := rest }
  | _, _ => p

def forward (p : Pipeline) : Pipeline :=
  match p.waiting with
  | [] => p
  | e :: rest =>
    let (queue, left) := p.events.push [e]
    { p with events := queue, waiting := left ++ rest }

def dispatch (p : Pipeline) (now : Nat) : Step :=
  match p.events.take? with
  | none => (p, [])
  | some (e, rest) => { p with events := rest }.stepHub now (.deliver e)

def step (p : Pipeline) (now : Nat) : Event → Step
  | .openEngine t spec => p.stepHub now (.openEngine t spec)
  | .proceed t => p.proceed now t
  | .arrive topic payload => ({ p with backlog := p.backlog ++ [(topic, payload)] }, [])
  | .handle => (p.handle now, [])
  | .forward => (p.forward, [])
  | .dispatch => p.dispatch now

end Pipeline
end MeshReadings
