import MeshReadings.Rehearsal.Basic

/-!
One turn of one task: what a task can do now, and how doing it changes the session. A task
whose engine is disposed is cancelled before anything else, and a reply that is there
counts more than a deadline that has passed.
-/

namespace MeshReadings
namespace Rehearsal

/-- What a task does in its turn. -/
inductive Turn
  | command (c : Command)
  | engine (id : EngineId) (event : Engine.Event)
  | opening (r : Reply)
  | reply (r : Reply)
  | rested
  | forward (events : List AttributeEvent)
  | transmit (r : Mqtt.Request) (client : Mqtt.Client)
  | route (e : AttributeEvent) (rest : EventQueue)

namespace Session

def engineTurn? (s : Session) (t : Ticket) (id : EngineId) : Option Turn := do
  let e ← s.hub.engine? id
  match e.ready? s.now t with
  | some (.cancel t) => return .engine id (.cancel t)
  | ready =>
    match s.peer.reply? s.now t with
    | some r => return .engine id (.reply t r)
    | none => return .engine id (← ready)

def turn? (s : Session) (k : Task) : Option Turn :=
  match k.job with
  | .command c => some (.command c)
  | .engine id => s.engineTurn? k.ticket id
  | .opening _ => (s.peer.reply? s.now k.ticket).map .opening
  | .inspection => (s.hub.inspected? k.ticket).bind (s.engineTurn? k.ticket)
  | .call => (s.peer.reply? s.now k.ticket).map .reply
  | .pause time => if time ≤ s.now then some .rested else none
  | .forward events =>
      if !s.events.isOpen || s.events.hasRoom then some (.forward events) else none
  | .link => do
    let (r, client) ← (← s.peer.bridge?).client.take?
    return .transmit r client
  | .router => s.events.take?.map fun (e, rest) => .route e rest

def engineDeadline? (s : Session) (t : Ticket) (id : EngineId) : Option Nat :=
  (s.hub.engine? id).bind (·.deadline? t)

def deadlines (s : Session) (k : Task) : List Nat :=
  let own := match k.job with
    | .engine id => s.engineDeadline? k.ticket id
    | .inspection => (s.hub.inspected? k.ticket).bind (s.engineDeadline? k.ticket)
    | .pause time => some time
    | _ => none
  own.toList ++ (s.peer.deadline? k.ticket).toList

def finish (s : Session) (t : Ticket) (r : Result) : Session :=
  match s.task? t with
  | none => s
  | some k =>
    let s := s.dropTask t
    match k.audience with
    | .nobody => s
    | .step => { s with result := some r }
    | .label label => s.observe (.ended label r)

/-- Ends an operation of the hub. An engine that was opened takes over the name it was
opened for. -/
def conclude (s : Session) (t : Ticket) : Hub.Outcome → Session
  | .opened id =>
    match s.task? t, s.hub.engine? id with
    | some ⟨_, _, .opening name⟩, some e =>
      { s with names := insertName name id s.names }.finish t (.opened e.channel e.key)
    | _, _ => s.finish t .nothing
  | .unusable => { s with isBroken := true }
  | .fault f => s.finish t (.fault f)
  | .engine o => s.finish t (.engine o)
  | .inspected => s.finish t (.stale s.staleChannels)

/-- Begins a call. Calls of a script are seen, those of a bridge show in what its client
sends. -/
def place (s : Session) (t : Ticket) (key : Key) (c : Call) : Session :=
  let s := match s.peer.side with
    | .script _ => s.observe (.called s.now key c)
    | .bridge _ => s
  { s with peer := s.peer.call s.now t key c }

def publish (s : Session) (u : Channel.Update) : Session :=
  match s.sink with
  | .record => s.observe (.published s.now u)
  | .publish base =>
    match s.peer.side with
    | .bridge _ => { s with peer := s.peer.mapClient s.now (Channel.publish base · u) }
    | .script _ =>
        if (u.request base).isWellFormed then s.observe (.sent s.now (u.request base))
        else s

def enact (s : Session) : Hub.Effect → Session
  | .call t key c => s.place t key c
  | .publish u => s.publish u
  | .finish t o => s.conclude t o

def enactAll (s : Session) (step : Hub.Step) : Session :=
  step.2.foldl enact { s with hub := step.1 }

def stepHub (s : Session) (e : Hub.Event) : Session := s.enactAll (s.hub.step s.now e)

/-- Queues events and leaves the task waiting with those that find no room. -/
def forward (s : Session) (k : Task) (events : List AttributeEvent) : Session :=
  let (queue, rest) := s.events.push events
  let s := { s with events := queue }
  if rest.isEmpty then s.finish k.ticket .nothing
  else s.putTask { k with job := .forward rest }

/-- The response that the bridge gives by itself to a request, with its topic. -/
def response? (s : Session) (b : Bridge) : Mqtt.Request → Option (String × String)
  | .publish topic _ _ payload => do
    let (operation, fields) ← s.responses.find? fun entry =>
      b.requestTopic entry.1 == topic
    let .ok request :=
      Json.readText (Json.Reader.dictionary Json.Reader.any) payload | none
    let transaction ← Json.find? "transaction" request
    let fields := fields.filter (·.1 != "transaction") ++ [("transaction", transaction)]
    return (b.baseTopic ++ "/bridge/response/device/" ++ operation,
      (Json.obj fields).compact)
  | _ => none

/-- Lets a request go to the broker. -/
def transmit (s : Session) (r : Mqtt.Request) (client : Mqtt.Client) : Session :=
  let s :=
    { s with peer := s.peer.mapClient s.now fun _ => client }.observe (.sent s.now r)
  match s.peer.bridge?.bind (s.response? · r) with
  | none => s
  | some (topic, payload) =>
      { s with peer := (s.peer.stepBridge s.now (.message topic payload)).1 }

def startEngine (s : Session) (k : Task) (id : EngineId) (r : Engine.Request) : Session :=
  (s.putTask { k with job := .engine id }).stepHub (.engine id (.start k.ticket r))

def startPoller (s : Session) (name : String) (id : EngineId) : Session :=
  let t := s.tickets
  { s with
    tickets := t + 1
    pollers := (name, t) :: s.pollers.filter (·.1 != name) }.startEngine
      ⟨t, .nobody, .engine id⟩ id .poll

/-- Replaces the responses to some operations. -/
def setResponses (s : Session) (changes : List (String × Option (List (String × Json)))) :
    Session :=
  let kept := s.responses.filter fun entry => !changes.any (·.1 == entry.1)
  { s with responses := changes.filterMap (fun (o, r) => r.map (o, ·)) ++ kept }

def look (s : Session) (k : Task) (name : String) : Session :=
  match s.watches.find? (·.1 == name) with
  | none => s.finish k.ticket .unknown
  | some (_, id, seen) =>
    match s.hub.engine? id with
    | none => s.finish k.ticket .unknown
    | some e =>
      let watches := (name, id, e.signal.version) :: s.watches.filter (·.1 != name)
      { s with watches := watches }.finish k.ticket
        (.looked (seen != e.signal.version) e.signal.value)

def beginFor (s : Session) (k : Task) (id : EngineId) (e : Engine) : Command → Session
  | .activate _ => s.startEngine k id (.exchange .activate)
  | .reconcile _ (.ok update) => s.startEngine k id (.exchange (.reconcile update))
  | .reconcile _ (.error f) => s.finish k.ticket (.fault f)
  | .reopen _ => s.startEngine k id (.exchange .reopen)
  | .refresh _ => s.startEngine k id .refresh
  | .dispose _ => s.startEngine k id .dispose
  | .notify _ raw =>
    let step := s.hub.stepEngine s.now id (.notify raw)
    (s.enactAll step).finish k.ticket (.flag !step.2.isEmpty)
  | .options _ => s.finish k.ticket (.options e.options)
  | .register _ key => { s with hub := s.hub.register key id }.finish k.ticket .nothing
  | .watch name =>
    let watches := (name, id, e.signal.version) :: s.watches.filter (·.1 != name)
    { s with watches := watches }.finish k.ticket .nothing
  | .poll name => (s.startPoller name id).finish k.ticket .nothing
  | _ => s.finish k.ticket .unknown

def commence (s : Session) (k : Task) (c : Command) : Session :=
  let named (name : String) : Session :=
    match s.engineNamed? name with
    | none => s.finish k.ticket .unknown
    | some (id, e) => s.beginFor k id e c
  let changed (s : Session) : Session := s.finish k.ticket .nothing
  match c with
  | .script answers =>
    changed { s with
      peer := s.peer.mapScript fun script =>
        answers.foldl (fun sc (o, a) => sc.set o a) script }
  | .respond responses => changed (s.setResponses responses)
  | .pause ms => s.putTask { k with job := .pause (s.now + ms) }
  | .openEngine _ (.error f) => s.finish k.ticket (.fault f)
  | .openEngine name (.ok spec) =>
    (s.putTask { k with job := .opening name }).stepHub (.openEngine k.ticket spec)
  | .activate name | .reconcile name _ | .reopen name | .refresh name | .dispose name
  | .notify name _ | .options name | .register name _ | .watch name | .poll name =>
      named name
  | .deliver event =>
    (s.stepHub (.deliver event)).finish k.ticket (.flag (s.hub.route? event.key).isSome)
  | .countRoutes => s.finish k.ticket (.count s.hub.routes.length)
  | .unregister key => changed { s with hub := s.hub.unregister key }
  | .look name => s.look k name
  | .isPolling name =>
    match s.pollers.find? (·.1 == name) with
    | none => s.finish k.ticket .unknown
    | some (_, t) => s.finish k.ticket (.flag (s.task? t).isSome)
  | .inspect =>
    (s.putTask { k with job := .inspection }).stepHub
      (.inspect k.ticket (s.names.map (·.2)))
  | .call key c => (s.putTask { k with job := .call }).place k.ticket key c
  | .message topic payload =>
    let (peer, fx) := s.peer.stepBridge s.now (.message topic payload)
    { s with peer := peer }.forward k (fx.filterMap Bridge.Effect.event?)
  | .close => changed { s with peer := (s.peer.stepBridge s.now .close).1 }
  | .closeClient => changed { s with peer := s.peer.mapClient s.now Mqtt.Client.close }
  | .closeEvents => changed { s with events := s.events.close }

def perform (s : Session) (k : Task) : Turn → Session
  | .command c => s.commence k c
  | .engine id event =>
    let peer := match event with
      | .reply t _ => s.peer.settle s.now t
      | .cancel t | .expire t => s.peer.abandon s.now t
      | _ => s.peer
    { s with peer := peer }.stepHub (.engine id event)
  | .opening r =>
      { s with peer := s.peer.settle s.now k.ticket }.stepHub (.reply k.ticket r)
  | .reply r => { s with peer := s.peer.settle s.now k.ticket }.finish k.ticket (.reply r)
  | .rested => s.finish k.ticket .nothing
  | .forward events => s.forward k events
  | .transmit r client => s.transmit r client
  | .route e rest =>
    let s := { s with events := rest }
    if s.isRouting then s.stepHub (.deliver e) else s.observe (.event e)

/-- Gives a turn to whoever can go on and has none yet. -/
def wake (s : Session) : Session :=
  let woken := s.tasks.filter fun k => !s.ready.contains k.ticket && (s.turn? k).isSome
  { s with ready := s.ready ++ woken.map (·.ticket) }

/-- A task's turn. It goes on before all others as long as it can, and waits behind them
once it cannot. -/
def take (s : Session) (t : Ticket) : Session :=
  match s.task? t with
  | none => s
  | some k =>
    match s.turn? k with
    | none => s
    | some turn =>
      let s := s.perform k turn
      match s.task? t with
      | none => s.wake
      | some k =>
        let s := s.putTask k
        if (s.turn? k).isSome then { s with ready := t :: s.ready }.wake else s.wake

end Session
end Rehearsal
end MeshReadings
