import MeshReadings.Channel
import MeshReadings.Engine.Step

/-!
All engines together. Each is known by its place in the list of engines; routes say which
engine takes the events of a key, one engine for each key. Opening an engine and
inspecting engines are operations of the hub, which go through several stages of their
own.
-/

namespace MeshReadings

abbrev EngineId := Nat

namespace Hub

inductive Opening
  | resolving (spec : Spec)
  /-- The engine exists and is routed to; its key is being listened to. -/
  | listening (id : EngineId)

/-- An inspection that waits for an exchange of the current engine, with those still to
visit. -/
structure Inspection where
  isReopening : Bool
  current : EngineId
  rest : List EngineId
deriving DecidableEq

inductive Outcome
  | opened (id : EngineId)
  /-- The spec's change bounds are not numbers. -/
  | unusable
  | fault (f : Fault)
  | engine (o : Engine.Outcome)
  | inspected
deriving DecidableEq

end Hub

structure Hub where
  engines : List Engine
  routes : List (Key × EngineId)
  openings : List (Ticket × Hub.Opening)
  inspections : List (Ticket × Hub.Inspection)
  /-- The channels that were stale when their engine was inspected last. -/
  stale : List String

namespace Hub

def empty : Hub := ⟨[], [], [], [], []⟩

def engine? (h : Hub) (id : EngineId) : Option Engine := h.engines[id]?

def setEngine (h : Hub) (id : EngineId) (e : Engine) : Hub :=
  { h with engines := h.engines.set id e }

def route? (h : Hub) (key : Key) : Option EngineId :=
  (h.routes.find? (·.1 == key)).map (·.2)

def unregister (h : Hub) (key : Key) : Hub :=
  { h with routes := h.routes.filter (·.1 != key) }

/-- Routes a key to an engine, whatever it was routed to before. -/
def register (h : Hub) (key : Key) (id : EngineId) : Hub :=
  { h with routes := (key, id) :: (h.unregister key).routes }

def opening? (h : Hub) (t : Ticket) : Option Opening :=
  (h.openings.find? (·.1 == t)).map (·.2)

def inspection? (h : Hub) (t : Ticket) : Option Inspection :=
  (h.inspections.find? (·.1 == t)).map (·.2)

def dropOpening (h : Hub) (t : Ticket) : Hub :=
  { h with openings := h.openings.filter (·.1 != t) }

def dropInspection (h : Hub) (t : Ticket) : Hub :=
  { h with inspections := h.inspections.filter (·.1 != t) }

def putOpening (h : Hub) (t : Ticket) (o : Opening) : Hub :=
  { h with openings := (t, o) :: (h.dropOpening t).openings }

def putInspection (h : Hub) (t : Ticket) (i : Inspection) : Hub :=
  { h with inspections := (t, i) :: (h.dropInspection t).inspections }

def noteStale (h : Hub) (channel : String) (isStale : Bool) : Hub :=
  { h with
    stale :=
      if isStale then if h.stale.contains channel then h.stale else channel :: h.stale
      else h.stale.filter (· != channel) }

theorem route_register (h : Hub) (key : Key) (id : EngineId) :
    (h.register key id).route? key = some id := by
  simp [register, route?]

theorem route_unregister (h : Hub) (key : Key) :
    (h.unregister key).route? key = none := by
  simp [unregister, route?]

end Hub
end MeshReadings
