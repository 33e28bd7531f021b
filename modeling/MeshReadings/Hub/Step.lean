import MeshReadings.Hub.Basic

/-!
How the hub moves. Opening an engine resolves its attribute, routes the key to the new
engine and listens to it; if listening fails, the key is routed nowhere. An inspection
visits engines in order: a failed one is reopened and activated, of any other live one it
is noted whether its readings are stale.
-/

namespace MeshReadings
namespace Hub

inductive Event
  | openEngine (t : Ticket) (spec : Spec)
  | reply (t : Ticket) (r : Reply)
  | engine (id : EngineId) (event : Engine.Event)
  | deliver (event : AttributeEvent)
  | inspect (t : Ticket) (ids : List EngineId)

inductive Effect
  | call (t : Ticket) (key : Key) (c : Call)
  | publish (update : Channel.Update)
  | finish (t : Ticket) (o : Outcome)
deriving DecidableEq

abbrev Step := Hub × List Effect

def calls (key : Key) : List Engine.Effect → List Effect
  | [] => []
  | .call t c :: fs => .call t key c :: calls key fs
  | _ :: fs => calls key fs

/-- Starts an exchange of an engine for an inspection. -/
def startInspected (h : Hub) (now : Nat) (t : Ticket) (e : Engine) (i : Inspection)
    (x : Engine.Exchange) : Step :=
  let (e, effects) := e.step now (.start t (.exchange x))
  ((h.setEngine i.current e).putInspection t i, calls e.key effects)

/-- Visits engines in order up to the first that has to be reopened. -/
def visit (h : Hub) (now : Nat) (t : Ticket) : List EngineId → Step
  | [] => (h.dropInspection t, [.finish t .inspected])
  | id :: rest =>
    match h.engine? id with
    | none => h.visit now t rest
    | some e =>
      if e.disposed then h.visit now t rest
      else if e.state = .failed then h.startInspected now t e ⟨true, id, rest⟩ .reopen
      else (h.noteStale e.channel (e.isStale now)).visit now t rest

/-- Goes on with an inspection whose exchange has ended. An engine that was reopened is
activated. -/
def resume (h : Hub) (now : Nat) (t : Ticket) (i : Inspection) (o : Engine.Outcome) :
    Step :=
  match i.isReopening, o, h.engine? i.current with
  | true, .done, some e =>
      h.startInspected now t e { i with isReopening := false } .activate
  | _, _, _ => h.visit now t i.rest

def absorb (h : Hub) (now : Nat) (channel : String) (key : Key) :
    List Engine.Effect → Step
  | [] => (h, [])
  | .call t c :: fs => before [.call t key c] (h.absorb now channel key fs)
  | .publish v :: fs => before [.publish ⟨channel, v⟩] (h.absorb now channel key fs)
  | .unroute :: fs => (h.unregister key).absorb now channel key fs
  | .finish t o :: fs =>
    match h.inspection? t with
    | none => before [.finish t (.engine o)] (h.absorb now channel key fs)
    | some i =>
      let (h, effects) := h.resume now t i o
      before effects (h.absorb now channel key fs)
where
  before (effects : List Effect) (s : Step) : Step := (s.1, effects ++ s.2)

def stepEngine (h : Hub) (now : Nat) (id : EngineId) (event : Engine.Event) : Step :=
  match h.engine? id with
  | none => (h, [])
  | some e =>
    let (e, effects) := e.step now event
    (h.setEngine id e).absorb now e.channel e.key effects

def unrouteEngine (h : Hub) (id : EngineId) : Hub :=
  match h.engine? id with
  | none => h
  | some e => h.unregister e.key

def replyOpening (h : Hub) (t : Ticket) (r : Reply) : Step :=
  match h.opening? t, r with
  | none, _ => (h, [])
  | some (.resolving _), .fault f => (h.dropOpening t, [.finish t (.fault f)])
  | some (.resolving spec), _ =>
    match Engine.ofSpec? spec with
    | none => (h.dropOpening t, [.finish t .unusable])
    | some e =>
      let id := h.engines.length
      (({ h with engines := h.engines ++ [e] }.register e.key id).putOpening t
        (.listening id), [.call t e.key .listen])
  | some (.listening id), .fault f =>
      ((h.unrouteEngine id).dropOpening t, [.finish t (.fault f)])
  | some (.listening id), _ => (h.dropOpening t, [.finish t (.opened id)])

/-- Gives an event to the engine of its key. One that no engine takes is dropped. -/
def deliver (h : Hub) (now : Nat) (event : AttributeEvent) : Step :=
  match h.route? event.key with
  | none => (h, [])
  | some id => h.stepEngine now id (.notify event.raw)

def step (h : Hub) (now : Nat) : Event → Step
  | .openEngine t spec =>
    if (h.opening? t).isSome then (h, [])
    else (h.putOpening t (.resolving spec), [.call t spec.key .resolve])
  | .reply t r => h.replyOpening t r
  | .engine id event => h.stepEngine now id event
  | .deliver event => h.deliver now event
  | .inspect t ids => if (h.inspection? t).isSome then (h, []) else h.visit now t ids

/-- A reply that no opening waits for changes nothing. -/
theorem step_reply_of_none {h : Hub} {t : Ticket} (none : h.opening? t = none) (now : Nat)
    (r : Reply) : h.step now (.reply t r) = (h, []) := by
  simp only [step, replyOpening, none]

/-- The engine whose operation a ticket names, for tickets of inspections. -/
def inspected? (h : Hub) (t : Ticket) : Option EngineId :=
  (h.inspection? t).map (·.current)

end Hub
end MeshReadings
