import MeshReadings.Bridge.Step
import MeshReadings.Rehearsal.Script

/-!
The gateway of a rehearsal: a script, or a bridge whose broker is played. Calls are made
with a ticket, by which their reply is asked for.
-/

namespace MeshReadings
namespace Rehearsal

inductive Side
  | script (s : Script)
  | bridge (b : Bridge)

structure Peer where
  side : Side
  /-- Replies to calls that needed no wait. -/
  inbox : List (Ticket × Reply) := []

namespace Peer

def bridge? (p : Peer) : Option Bridge :=
  match p.side with
  | .bridge b => some b
  | .script _ => none

/-- Lets the bridge take a step. What was sent shows in its client. -/
def stepBridge (p : Peer) (now : Nat) (e : Bridge.Event) : Peer × List Bridge.Effect :=
  match p.side with
  | .script _ => (p, [])
  | .bridge b =>
    let (b, fx) := b.step now e
    ({ p with side := .bridge b }, fx)

def mapClient (p : Peer) (now : Nat) (f : Mqtt.Client → Mqtt.Client) : Peer :=
  match p.bridge? with
  | none => p
  | some b => (p.stepBridge now (.client (f b.client))).1

def mapScript (p : Peer) (f : Script → Script) : Peer :=
  match p.side with
  | .script s => { p with side := .script (f s) }
  | .bridge _ => p

def call (p : Peer) (now : Nat) (t : Ticket) (key : Key) (c : Call) : Peer :=
  match p.side with
  | .script s => { p with side := .script (s.call now t c) }
  | .bridge _ =>
    let (p, fx) := p.stepBridge now (.call t key c)
    { p with inbox := fx.filterMap Bridge.Effect.reply? ++ p.inbox }

def reply? (p : Peer) (now : Nat) (t : Ticket) : Option Reply :=
  match p.inbox.find? (·.1 == t) with
  | some entry => some entry.2
  | none => match p.side with
    | .script s => s.reply? now t
    | .bridge b => b.reply? now t

def deadline? (p : Peer) (t : Ticket) : Option Nat :=
  match p.side with
  | .script s => s.deadline? t
  | .bridge b => b.deadline? t

def abandon (p : Peer) (now : Nat) (t : Ticket) : Peer :=
  match p.side with
  | .script s => { p with side := .script (s.abandon t) }
  | .bridge _ => (p.stepBridge now (.abandon t)).1

/-- Takes away a reply that has come. -/
def settle (p : Peer) (now : Nat) (t : Ticket) : Peer :=
  let p := { p with inbox := p.inbox.filter (·.1 != t) }
  match p.side with
  | .script s => { p with side := .script (s.abandon t) }
  | .bridge _ => (p.stepBridge now (.collect t)).1

end Peer
end Rehearsal
end MeshReadings
