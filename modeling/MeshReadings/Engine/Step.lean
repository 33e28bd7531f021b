import MeshReadings.Engine.Basic

/-!
How an engine moves. A step runs one operation from where it waits to where it waits next,
or takes in one notification; everything between two waits is one step, and any order of
steps is a possible run. An event that does not fit where its operation waits changes
nothing. In particular a ticket names one operation at a time, a deadline does not pass
early, only a disposed engine cancels, and only the holder of the lock goes on with an
exchange.
-/

namespace MeshReadings
namespace Engine

inductive Event
  | start (t : Ticket) (r : Request)
  /-- Go on without waiting for anything outside: the lock was handed over, or a poller
  begins. -/
  | proceed (t : Ticket)
  | reply (t : Ticket) (r : Reply)
  | expire (t : Ticket)
  /-- The engine was disposed while the operation waited. -/
  | cancel (t : Ticket)
  | tick (t : Ticket)
  | notice (t : Ticket)
  | notify (raw : Raw)

inductive Effect
  | call (t : Ticket) (c : Call)
  | publish (v : Value)
  | unroute
  | finish (t : Ticket) (o : Outcome)
deriving DecidableEq

abbrev Step := Engine × List Effect

/-- Ends an operation; its hold on the lock ends with it. -/
def finish (e : Engine) (t : Ticket) (o : Outcome) : Step :=
  let e := e.drop t
  ({ e with lock := if e.lock.holder = some t then e.lock.release else e.lock },
    [.finish t o])

def wait (e : Engine) (t : Ticket) (s : Stage) (effects : List Effect) : Step :=
  (e.put t s, effects)

/-- Ends an exchange with a transition, which a disposed engine no longer makes. -/
def settle (e : Engine) (t : Ticket) (f : Binding → Binding) : Step :=
  if e.disposed then e.finish t (.fault .disposed)
  else
    let e := e.transition f
    e.finish t (.settled e.state)

/-- A fault costs the binding its reports, or fails it when polling cannot stand in. -/
def settleFault (e : Engine) (t : Ticket) (fault : Fault) (period : Nat) : Step :=
  if fault = .disposed then e.finish t (.fault .disposed)
  else if fault.isRecoverable then e.settle t (·.mark (.polling period))
  else e.settle t (·.mark .failed)

def highPeriod (e : Engine) : Nat := e.polling.high.toNat

def normalPeriod (e : Engine) : Nat := e.polling.normal.toNat

def report (c : Reporting.Config) : Call := .report c.minInterval c.maxInterval c.change

/-- The first part of an exchange, once it holds the lock. -/
def commence (e : Engine) (now : Nat) (t : Ticket) : Exchange → Step
  | .activate =>
    if e.disposed then e.finish t (.fault .disposed)
    else if e.state = .failed then e.finish t (.settled .failed)
    else
      e.wait t (.binding e.config.minInterval e.config.maxInterval e.config.change
        (now + e.timeout)) [.call t .bind]
  | .reconcile u =>
    if e.disposed then e.finish t (.fault .disposed)
    else
      let changed := e.config.isChangedBy u
      let e := { e with config := e.config.update u }
      if !changed || e.state = .unbound || e.state = .failed then
        e.finish t (.settled e.state)
      else
        let p := e.config.pollingPeriod
        e.wait t (.configuring p p e.config.maxInterval (now + e.timeout))
          [.call t (report e.config)]
  | .reopen =>
    if e.disposed then e.finish t (.fault .disposed)
    else e.wait t .resolving [.call t .resolve]

/-- A poller goes back to waiting for one period, and at least for a second. -/
def rest (e : Engine) (now : Nat) (t : Ticket) (seen : Nat) : Step :=
  e.wait t (.waiting now (max e.binding.period 1) seen) []

/-- What follows a read: the end of a refresh or the poller's next wait. -/
def afterRead (e : Engine) (now : Nat) (t : Ticket) : Option Nat → Step
  | none => e.finish t .done
  | some seen => e.rest now t seen

def beginRead (e : Engine) (now : Nat) (t : Ticket) (poller : Option Nat) : Step :=
  if e.disposed || e.state = .failed then e.afterRead now t poller
  else e.wait t (.reading (now + e.timeout) poller) [.call t .read]

/-- Takes in a raw value and says what to publish, which is nothing for a value that
cannot be decoded or is not new. -/
def notice (e : Engine) (now : Nat) (raw : Raw) : Engine × Option Value :=
  match e.decoder.decode raw with
  | .error _ => (e, none)
  | .ok v =>
    if e.disposed then (e, none)
    else ({ e with binding := e.binding.record v now }, if e.binding.isNew v then some v
      else none)

def published : Option Value → List Effect
  | none => []
  | some v => [.publish v]

def start (e : Engine) (now : Nat) (t : Ticket) : Request → Step
  | .exchange x =>
    if e.lock.holder.isNone then
      { e with lock := { e.lock with holder := some t } }.commence now t x
    else { e with lock := { e.lock with queue := e.lock.queue ++ [t] } }.wait t
      (.queued x) []
  | .refresh => e.beginRead now t none
  | .dispose =>
    if e.disposed then e.finish t .done
    else { e with disposed := true }.transition Binding.release |>.wait t .unlistening
      [.unroute, .call t .unlisten]
  | .poll => e.wait t (.arming e.signal.version) []

def reply (e : Engine) (now : Nat) (t : Ticket) (r : Reply) : Step :=
  match e.stage? t with
  | some (.binding min max change _) =>
    match r with
    | .refused _ => e.settle t (·.mark (.polling e.highPeriod))
    | .fault f => e.settleFault t f e.highPeriod
    | _ =>
      if e.disposed then e.finish t (.fault .disposed)
      else (e.transition (·.mark .bound)).wait t
        (.configuring e.normalPeriod e.highPeriod max (now + e.timeout))
          [.call t (.report min max change)]
  | some (.configuring refusedPeriod faultPeriod max _) =>
    match r with
    | .refused _ => e.settle t (·.mark (.polling refusedPeriod))
    | .fault f => e.settleFault t f faultPeriod
    | _ => e.settle t (·.mark (.reporting max))
  | some .resolving =>
    match r with
    | .fault f => e.finish t (.fault f)
    | _ =>
      if e.disposed then e.finish t (.fault .disposed)
      else (e.transition Binding.reset).finish t .done
  | some (.reading _ poller) =>
    match r with
    | .reading raw =>
      let (e, v) := e.notice now raw
      let (e, effects) := e.afterRead now t poller
      (e, published v ++ effects)
    | .fault f =>
      if !f.isRecoverable && !e.disposed then
        (e.transition (·.mark .failed)).afterRead now t poller
      else e.afterRead now t poller
    | _ => e.afterRead now t poller
  | some .unlistening => e.finish t .done
  | _ => (e, [])

def expire (e : Engine) (now : Nat) (t : Ticket) : Step :=
  match e.stage? t with
  | some (.binding _ _ _ deadline) =>
    if deadline ≤ now then e.settleFault t (.timeout e.timeout) e.highPeriod else (e, [])
  | some (.configuring _ faultPeriod _ deadline) =>
    if deadline ≤ now then e.settleFault t (.timeout e.timeout) faultPeriod else (e, [])
  | some (.reading deadline poller) =>
      if deadline ≤ now then e.afterRead now t poller else (e, [])
  | _ => (e, [])

def cancel (e : Engine) (now : Nat) (t : Ticket) : Step :=
  if !e.disposed then (e, [])
  else match e.stage? t with
    | some (.binding ..) | some (.configuring ..) => e.finish t (.fault .disposed)
    | some (.reading _ poller) => e.afterRead now t poller
    | some (.waiting ..) => e.finish t .done
    | _ => (e, [])

def proceed (e : Engine) (now : Nat) (t : Ticket) : Step :=
  match e.stage? t with
  | some (.queued x) => if e.lock.holder = some t then e.commence now t x else (e, [])
  | some (.arming seen) => e.rest now t seen
  | _ => (e, [])

/-- The end of a poller's wait: it reads if the binding is polled. -/
def tick (e : Engine) (now : Nat) (t : Ticket) : Step :=
  match e.stage? t with
  | some (.waiting since period seen) =>
    if since + 1000 * period ≤ now then
      if e.state = .polling then e.beginRead now t (some seen) else e.rest now t seen
    else (e, [])
  | _ => (e, [])

/-- A transition restarts a poller's wait. -/
def restart (e : Engine) (now : Nat) (t : Ticket) : Step :=
  match e.stage? t with
  | some (.waiting _ _ seen) =>
    if seen ≠ e.signal.version then e.rest now t e.signal.version else (e, [])
  | _ => (e, [])

def step (e : Engine) (now : Nat) : Event → Step
  | .start t r => if (e.stage? t).isSome then (e, []) else e.start now t r
  | .proceed t => e.proceed now t
  | .reply t r => e.reply now t r
  | .expire t => e.expire now t
  | .cancel t => e.cancel now t
  | .tick t => e.tick now t
  | .notice t => e.restart now t
  | .notify raw =>
    let (e, v) := e.notice now raw
    (e, published v)

def deadline? (e : Engine) (t : Ticket) : Option Nat :=
  match e.stage? t with
  | some (.binding _ _ _ d) | some (.configuring _ _ _ d) | some (.reading d _) => some d
  | some (.waiting since period _) => some (since + 1000 * period)
  | _ => none

/-- The event by which an operation can go on without a reply, if there is one. -/
def ready? (e : Engine) (now : Nat) (t : Ticket) : Option Event :=
  let due : Bool := match e.deadline? t with
    | some d => decide (d ≤ now)
    | none => false
  match e.stage? t with
  | some (.queued _) => if e.lock.holder = some t then some (.proceed t) else none
  | some (.arming _) => some (.proceed t)
  | some (.binding ..) | some (.configuring ..) | some (.reading ..) =>
    if e.disposed then some (.cancel t) else if due then some (.expire t) else none
  | some (.waiting _ _ seen) =>
    if e.disposed then some (.cancel t)
    else if seen ≠ e.signal.version then some (.notice t)
    else if due then some (.tick t)
    else none
  | _ => none

end Engine
end MeshReadings
