import MeshReadings.Binding
import MeshReadings.Gateway.Basic
import MeshReadings.Kind
import MeshReadings.Table

/-!
An engine keeps one attribute of one device fresh. It holds the binding, the reporting
configuration and the operations in progress, each with the stage at which it waits; what
happens next is for the step function to say. One lock, handed on in order of arrival, is
held for the whole of an exchange of commands.
-/

namespace MeshReadings

/-- Everything an engine needs to know about its attribute. The timeout is in
milliseconds. -/
structure Spec where
  channel : String
  key : Key
  defaults : Reporting.Defaults
  polling : PollingPolicy
  decoder : Decoder
  timeout : Nat := 10000

def Spec.ofKind (channel device : String) (endpoint : UInt8) (kind : Kind) : Spec where
  channel := channel
  key := ⟨device, endpoint, kind.cluster, kind.attributeId⟩
  defaults := kind.defaults
  polling := kind.pollingPolicy
  decoder := kind.decoder

namespace Engine

/-- An exchange of commands that needs the lock. -/
inductive Exchange
  | activate
  | reconcile (update : Reporting.Update)
  /-- Resolve the attribute again and clear a failed binding. -/
  | reopen
deriving DecidableEq

inductive Request
  | exchange (x : Exchange)
  | refresh
  | dispose
  /-- Poll whenever the binding says so, until disposal. -/
  | poll

/-- Where an operation waits. Deadlines are times in milliseconds. -/
inductive Stage
  | queued (x : Exchange)
  /-- A bind was sent; the values are those to report with next. -/
  | binding (min max : Nat) (change : Option Binary64) (deadline : Nat)
  /-- A reporting configuration was sent; the periods are those to poll with when it is
  refused or gets lost, and the ceiling of silence when it is accepted. -/
  | configuring (refusedPeriod faultPeriod max : Nat) (deadline : Nat)
  | resolving
  /-- A read was sent, by a poller that has seen a version of the signal or by nobody who
  goes on. -/
  | reading (deadline : Nat) (poller : Option Nat)
  | unlistening
  /-- A poller that is about to start its first wait. -/
  | arming (seen : Nat)
  | waiting (since period seen : Nat)
deriving DecidableEq

inductive Outcome
  | done
  | settled (s : BindingState)
  | fault (f : Fault)
deriving DecidableEq

/-- The binding's state as others watch it; the version grows with every transition. -/
structure Signal where
  version : Nat
  value : BindingState
deriving DecidableEq

/-- Who may exchange commands, and who waits for that. -/
structure CommandLock where
  holder : Option Ticket
  queue : List Ticket
deriving DecidableEq

/-- Hands the lock to who has waited longest. -/
def CommandLock.release (l : CommandLock) : CommandLock :=
  match l.queue with
  | [] => ⟨none, []⟩
  | t :: ts => ⟨some t, ts⟩

end Engine

structure Engine where
  channel : String
  key : Key
  polling : PollingPolicy
  decoder : Decoder
  timeout : Nat
  binding : Binding
  config : Reporting.Config
  disposed : Bool
  signal : Engine.Signal
  lock : Engine.CommandLock
  operations : List (Ticket × Engine.Stage)

namespace Engine

/-- An engine at rest, unless the spec's change bounds are not numbers. -/
def ofSpec? (s : Spec) : Option Engine :=
  (Reporting.Config.ofDefaults? s.defaults).map fun c =>
    { channel := s.channel
      key := s.key
      polling := s.polling
      decoder := s.decoder
      timeout := s.timeout
      binding := Binding.create c.pollingPeriod
      config := c
      disposed := false
      signal := ⟨0, .unbound⟩
      lock := ⟨none, []⟩
      operations := [] }

def state (e : Engine) : BindingState := e.binding.state

def stage? (e : Engine) (t : Ticket) : Option Stage :=
  (e.operations.find? (·.1 == t)).map (·.2)

def drop (e : Engine) (t : Ticket) : Engine :=
  { e with operations := e.operations.filter (·.1 != t) }

def put (e : Engine) (t : Ticket) (s : Stage) : Engine :=
  { e with operations := e.operations.filter (·.1 != t) ++ [(t, s)] }

def transition (e : Engine) (f : Binding → Binding) : Engine :=
  { e with binding := f e.binding, signal := ⟨e.signal.version + 1, (f e.binding).state⟩ }

def isStale (e : Engine) (now : Nat) : Bool := e.binding.isStale now

def options (e : Engine) : List Reporting.EditableOption := e.config.options

@[simp] theorem stage?_put (e : Engine) (t : Ticket) (s : Stage) :
    (e.put t s).stage? t = some s := by
  have absent : (e.operations.filter (·.1 != t)).find? (·.1 == t) = none := by simp
  simp only [put, stage?, List.find?_append, absent]
  simp

@[simp] theorem stage?_drop (e : Engine) (t : Ticket) : (e.drop t).stage? t = none := by
  simp [drop, stage?]

theorem stage?_drop_of_ne {e : Engine} {t u : Ticket} (h : u ≠ t) :
    (e.drop t).stage? u = e.stage? u := by
  simp only [drop, stage?, find?_removed_of_ne h]

theorem stage?_put_of_ne {e : Engine} {t u : Ticket} (h : u ≠ t) (s : Stage) :
    (e.put t s).stage? u = e.stage? u := by
  rw [← stage?_drop_of_ne (e := e) h]
  simp [put, drop, stage?, List.find?_append, Ne.symm h]

end Engine
end MeshReadings
