import MeshReadings.Gateway.EventQueue
import MeshReadings.Hub.Step
import MeshReadings.Rehearsal.Peer

/-!
A rehearsal runs engines, pollers, inspections and a gateway together on a clock that
stands still while anything can go on. Every operation is a task with a ticket; a task
acts when it is its turn and then waits, and whatever it lets go on takes its turn after
those already waiting for theirs.
-/

namespace MeshReadings
namespace Rehearsal

inductive Sink
  | record
  | publish (base : String)

/-- A command as a session is given it. Engines go by names. Settings that could not be
read are faults, which the command then ends with. -/
inductive Command
  | script (answers : List (Operation × Answer))
  /-- Responses that the bridge gives from now on by itself, by operation, each but for
  the transaction. -/
  | respond (responses : List (String × Option (List (String × Json))))
  | pause (ms : Nat)
  | openEngine (name : String) (spec : Except Fault Spec)
  | activate (name : String)
  | reconcile (name : String) (update : Except Fault Reporting.Update)
  | reopen (name : String)
  | refresh (name : String)
  | dispose (name : String)
  | notify (name : String) (raw : Raw)
  | options (name : String)
  | deliver (event : AttributeEvent)
  | countRoutes
  | register (name : String) (key : Key)
  | unregister (key : Key)
  | watch (name : String)
  | look (name : String)
  | poll (name : String)
  | isPolling (name : String)
  | inspect
  | call (key : Key) (c : Call)
  | message (topic payload : String)
  | close
  | closeClient
  | closeEvents

inductive Result
  | nothing
  /-- The command names an engine that there is none of. -/
  | unknown
  | fault (f : Fault)
  | opened (channel : String) (key : Key)
  | engine (o : Engine.Outcome)
  | reply (r : Reply)
  | flag (b : Bool)
  | options (options : List Reporting.EditableOption)
  | count (n : Nat)
  | looked (changed : Bool) (value : BindingState)
  | stale (channels : List String)

/-- Something that can be seen from outside, with its time. -/
inductive Observation
  | called (time : Nat) (key : Key) (c : Call)
  | sent (time : Nat) (r : Mqtt.Request)
  | event (e : AttributeEvent)
  | published (time : Nat) (update : Channel.Update)
  | ended (label : String) (result : Result)

inductive Audience
  | nobody
  | step
  | label (label : String)

inductive Job
  | command (c : Command)
  | engine (id : EngineId)
  | opening (name : String)
  | inspection
  | call
  | pause (time : Nat)
  /-- Events that wait for room in the queue. -/
  | forward (events : List AttributeEvent)
  /-- Reads what the client sends. -/
  | link
  /-- Reads the event queue. -/
  | router

structure Task where
  ticket : Ticket
  audience : Audience
  job : Job

structure Session where
  now : Nat := 0
  hub : Hub := .empty
  peer : Peer
  events : EventQueue := {}
  /-- Whether events go to the hub; otherwise they are only seen. -/
  isRouting : Bool
  sink : Sink
  /-- What the bridge responds by itself. -/
  responses : List (String × List (String × Json)) := []
  names : List (String × EngineId) := []
  /-- Watchers by name, each with the version it has seen. -/
  watches : List (String × EngineId × Nat) := []
  pollers : List (String × Ticket) := []
  /-- In the order in which they began to wait. -/
  tasks : List Task
  ready : List Ticket := []
  tickets : Nat
  /-- How the step's own task ended, once it has. -/
  result : Option Result := none
  log : List Observation := []
  /-- Whether an engine was to be opened with change bounds that are not numbers, with
  which all ends. -/
  isBroken : Bool := false

namespace Session

/-- A session at time zero. The readers of both queues are its first tasks. -/
def start (side : Side) (isRouting : Bool) (sink : Sink) : Session where
  peer := { side := side }
  isRouting := isRouting
  sink := sink
  tasks := [⟨0, .nobody, .link⟩, ⟨1, .nobody, .router⟩]
  tickets := 2

def task? (s : Session) (t : Ticket) : Option Task := s.tasks.find? (·.ticket == t)

def dropTask (s : Session) (t : Ticket) : Session :=
  { s with tasks := s.tasks.filter (·.ticket != t) }

/-- Puts a task behind those that wait already. -/
def putTask (s : Session) (k : Task) : Session :=
  { s with tasks := s.tasks.filter (·.ticket != k.ticket) ++ [k] }

def engineId? (s : Session) (name : String) : Option EngineId :=
  (s.names.find? (·.1 == name)).map (·.2)

def engineNamed? (s : Session) (name : String) : Option (EngineId × Engine) := do
  let id ← s.engineId? name
  let e ← s.hub.engine? id
  return (id, e)

/-- Puts an entry in its place in the order of names, instead of one with the same
name. -/
def insertName (name : String) (id : EngineId) :
    List (String × EngineId) → List (String × EngineId)
  | [] => [(name, id)]
  | entry :: rest =>
    if name = entry.1 then (name, id) :: rest
    else if name < entry.1 then (name, id) :: entry :: rest
    else entry :: insertName name id rest

def observe (s : Session) (o : Observation) : Session := { s with log := s.log ++ [o] }

/-- The channels of engines that an inspection left marked stale. -/
def staleChannels (s : Session) : List String :=
  s.names.filterMap fun (_, id) => do
    let e ← s.hub.engine? id
    if s.hub.stale.contains e.channel then some e.channel else none

end Session
end Rehearsal
end MeshReadings
