import MeshReadings.Proofs.Bridge.Subscriptions
import MeshReadings.Proofs.Engine.Readings
import MeshReadings.Proofs.Pipeline.Opening

/-!
What becomes of the messages that a broker sends. The events of a message are known the
moment it is handled, and those of all messages that have arrived are, in this order, the
ones dispatched, the ones in the queue, the ones that wait for room in it, and those of
the backlog: nothing is lost and nothing overtakes anything. Each engine takes the events
of its key, so what it publishes can be read off the messages alone. They are the states
of its own device exactly if its key was not left under the name of another one.
-/

namespace MeshReadings

theorem Engine.Effect.channel_of_update {channel : String} {f : Effect}
    {u : Channel.Update} (update : f.update? channel = some u) : u.channel = channel := by
  cases f with
  | publish v =>
      cases update
      rfl
  | call | finish | unroute => cases update

namespace Hub

def Effect.update? : Effect → Option Channel.Update
  | .publish u => some u
  | _ => none

theorem filterMap_publish (us : List Channel.Update) :
    (us.map Effect.publish).filterMap Effect.update? = us := by
  rw [List.filterMap_map]
  exact List.filterMap_some

/-- An event that no engine takes changes nothing. One that an engine takes is a
notification to it. -/
theorem deliver_cases (hub : Hub) (now : Nat) (ev : AttributeEvent) :
    (∀ id e, hub.route? ev.key = some id → hub.engine? id ≠ some e) ∧
    hub.deliver now ev = (hub, []) ∨
      ∃ id e, hub.route? ev.key = some id ∧ hub.engine? id = some e ∧
        (hub.deliver now ev).1 = hub.setEngine id (e.step now (.notify ev.raw)).1 ∧
        (hub.deliver now ev).2 =
          ((e.step now (.notify ev.raw)).2.filterMap
            (Engine.Effect.update? e.channel)).map .publish := by
  cases route : hub.route? ev.key with
  | none => exact Or.inl ⟨by simp, by simp [deliver, route]⟩
  | some id =>
      cases here : hub.engine? id with
      | none =>
          refine Or.inl ⟨?_, by simp [deliver, route, hub.stepEngine_none now here]⟩
          intro id' e same
          cases same
          simp [here]
      | some e =>
          refine Or.inr ⟨id, e, rfl, here, ?_⟩
          have channel : (e.notice now ev.raw).1.channel = e.channel := by
            simp only [Engine.notice]
            split
            · rfl
            · split <;> rfl
          simp only [deliver, route, stepEngine, here, Engine.step, channel]
          cases (e.notice now ev.raw).2 <;> exact ⟨rfl, rfl⟩

/-- An engine takes the events that are routed to it and no others. -/
theorem deliver_to {hub : Hub} {id : EngineId} {e : Engine}
    (here : hub.engine? id = some e) (now : Nat) (ev : AttributeEvent) :
    (hub.route? ev.key = some id →
      (hub.deliver now ev).1.engine? id = some (e.step now (.notify ev.raw)).1 ∧
      (hub.deliver now ev).2.filterMap Effect.update? =
        (e.step now (.notify ev.raw)).2.filterMap (Engine.Effect.update? e.channel)) ∧
    (hub.route? ev.key ≠ some id → (hub.deliver now ev).1.engine? id = some e) := by
  have bound := (List.getElem?_eq_some_iff.mp here).1
  obtain ⟨untaken, stays⟩ | ⟨id', a, route, there, moved, effects⟩ :=
    hub.deliver_cases now ev
  · rw [stays]
    exact ⟨fun route => absurd here (untaken id e route), fun _ => here⟩
  · refine ⟨fun mine => ?_, fun other => ?_⟩
    · cases route.symm.trans mine
      cases here.symm.trans there
      exact ⟨by simp [moved, setEngine, engine?, bound], by rw [effects, filterMap_publish]⟩
    · have different : id' ≠ id := by
        rintro rfl
        exact other route
      rw [moved]
      exact (List.getElem?_set_ne different).trans here

end Hub

namespace Pipeline

def arrival? (m : Moment) : Option (String × String) :=
  match m.event with
  | .arrive topic payload => some (topic, payload)
  | _ => none

/-- The messages that arrived, with their topics. -/
def arrived (h : History) : List (String × String) := h.filterMap arrival?

/-- The event that the dispatcher takes, if it takes one. -/
def taken? (m : Moment) : Option AttributeEvent :=
  match m.event with
  | .dispatch => m.before.events.items.head?
  | _ => none

def dispatched (h : History) : List AttributeEvent := h.filterMap taken?

/-- All that was published, on whatever channel. -/
def published (h : History) : List Channel.Update :=
  h.flatMap (·.effects.filterMap Hub.Effect.update?)

/-- All that one engine published. -/
def publishedBy (id : EngineId) (h : History) : List Channel.Update :=
  h.flatMap fun m =>
    if (taken? m).bind (m.before.hub.route? ·.key) = some id then
      m.effects.filterMap Hub.Effect.update?
    else []

/-- What messages on a topic tell of a key. -/
def told (topic : String) (key : Key) (messages : List (String × String)) :
    List AttributeEvent :=
  messages.filterMap fun m => if m.1 = topic then Bridge.told? m.2 key else none

/-- The event of a message that reaches who listens to a key. The state of a device has
one if the key is filed under the name that it comes with, be it for this listener or left
there from before. -/
def reaching? (b : Bridge) (key : Key) (message : String × String) :
    Option AttributeEvent :=
  match Bridge.stated? b.baseTopic message.1 message.2 with
  | some (name, payload) =>
    if b.friendlyName? key = some name ∨ key ∈ b.keysAt name then Bridge.told? payload key
    else none
  | none => none

def reaching (b : Bridge) (key : Key) (messages : List (String × String)) :
    List AttributeEvent :=
  messages.filterMap (reaching? b key)

/-- The values in events, where they can be decoded. -/
def decoded (d : Decoder) (events : List AttributeEvent) : List Value :=
  events.filterMap fun e => (d.decode e.raw).toOption

/-- The events of a message. -/
def eventsOf (b : Bridge) (message : String × String) : List AttributeEvent :=
  (b.handle message.1 message.2).2

/-- How many turns it takes until nothing is under way any more. -/
def work (p : Pipeline) : Nat :=
  let ahead := match p.peer.side with
    | .bridge b => p.backlog.length + 2 * (p.backlog.flatMap (eventsOf b)).length
    | .script _ => 0
  p.events.items.length + 2 * p.waiting.length + ahead

def AtRest (p : Pipeline) : Prop := p.backlog = [] ∧ p.waiting = [] ∧ p.events.items = []

/-- A turn of the router or the dispatcher. -/
def Event.isTurn : Event → Bool
  | .handle | .forward | .dispatch => true
  | _ => false

/-- A turn finds nothing to do, or no room for it. -/
def Idles (p : Pipeline) : Event → Prop
  | .handle => p.waiting ≠ [] ∨ p.backlog = []
  | .forward => p.waiting = [] ∨ p.events.hasRoom = false
  | .dispatch => p.events.items = []
  | _ => False

section
variable (h : History) (m : Moment)

theorem arrived_snoc : arrived (h ++ [m]) = arrived h ++ (arrival? m).toList := by
  cases arrives : arrival? m <;> simp [arrived, arrives]

theorem dispatched_snoc : dispatched (h ++ [m]) = dispatched h ++ (taken? m).toList := by
  cases took : taken? m <;> simp [dispatched, took]

theorem published_snoc :
    published (h ++ [m]) = published h ++ m.effects.filterMap Hub.Effect.update? := by
  simp [published]

theorem publishedBy_snoc (id : EngineId) : publishedBy id (h ++ [m]) = publishedBy id h ++
    if (taken? m).bind (m.before.hub.route? ·.key) = some id then
        m.effects.filterMap Hub.Effect.update? else [] := by
  simp [publishedBy]

theorem decoded_append (d : Decoder) (es es' : List AttributeEvent) :
    decoded d (es ++ es') = decoded d es ++ decoded d es' := by
  simp only [decoded, List.filterMap_append]

end

theorem eventsOf_congr {b b' : Bridge} (listeners : b'.listeners = b.listeners)
    (settings : b'.settings = b.settings) : eventsOf b' = eventsOf b := by
  funext message
  simp only [eventsOf, Bridge.handle_events, Bridge.baseTopic, settings]
  split
  · simp only [Bridge.events, Bridge.keysAt_congr listeners]
  · rfl

/-- How the messages that have arrived since some moment are under way. -/
structure Relay (p : Pipeline) (b : Bridge) (h : History) (q : Pipeline) (b' : Bridge) :
    Prop where
  side : q.peer.side = .bridge b'
  listeners : b'.listeners = b.listeners
  settings : b'.settings = b.settings
  isOpen : q.events.isOpen = true
  capacity : q.events.capacity = p.events.capacity
  routes : q.hub.routes = p.hub.routes
  engines : q.hub.engines.length = p.hub.engines.length
  flow : (arrived h).flatMap (eventsOf b) =
    dispatched h ++ q.events.items ++ q.waiting ++ q.backlog.flatMap (eventsOf b)

/-- The ways a step can go that opens no engine. -/
inductive Move (q : Pipeline) (b : Bridge) (now : Nat) : Event → Step → Prop
  | idle {event} (idles : q.Idles event) : Move q b now event (q, [])
  | arrived {topic payload} :
      Move q b now (.arrive topic payload)
        ({ q with backlog := q.backlog ++ [(topic, payload)] }, [])
  | handled {topic payload rest} (free : q.waiting = [])
      (next : q.backlog = (topic, payload) :: rest) :
      Move q b now .handle
        ({ q with
          peer := { q.peer with side := .bridge (b.step now (.message topic payload)).1 }
          waiting := eventsOf b (topic, payload)
          backlog := rest }, [])
  | forwarded {e rest} (room : q.events.hasRoom = true) (next : q.waiting = e :: rest) :
      Move q b now .forward
        ({ q with
          events := { q.events with items := q.events.items ++ [e] }
          waiting := rest }, [])
  | dispatched {e rest} (next : q.events.items = e :: rest) :
      Move q b now .dispatch
        ({ q with
          events := { q.events with items := rest }
          hub := (q.hub.deliver now e).1 }, (q.hub.deliver now e).2)

section
variable {p q : Pipeline} {b b' : Bridge} {h : History} {now : Nat}

theorem handle_move (side : q.peer.side = .bridge b) :
    Move q b now .handle (q.step now .handle) := by
  simp only [step, handle]
  split
  · next topic payload rest free next =>
      have moved : Move q b now .handle _ := .handled free next
      simpa [Rehearsal.Peer.stepBridge, side, Bridge.step_events, eventsOf] using moved
  · next other =>
      refine .idle ?_
      cases free : q.waiting with
      | cons e rest => exact Or.inl (by simp [free])
      | nil =>
          cases next : q.backlog with
          | nil => exact Or.inr next
          | cons message rest => exact absurd next (other message.1 message.2 rest free)

theorem forward_move (isOpen : q.events.isOpen = true) :
    Move q b now .forward (q.step now .forward) := by
  simp only [step, forward]
  split
  · next nothing => exact .idle (Or.inl nothing)
  · next e rest next =>
      cases room : q.events.hasRoom with
      | true =>
          have moved : Move q b now .forward _ := .forwarded room next
          simpa [EventQueue.push, isOpen, room] using moved
      | false =>
          have idle : Move q b now .forward (q, []) := .idle (Or.inr room)
          simp only [EventQueue.push, isOpen, room, Bool.not_true, Bool.false_eq_true,
            if_false, List.singleton_append]
          rwa [← next]

/-- Events that are delivered call for nothing. -/
theorem uncalled (hub : Hub) (now : Nat) (e : AttributeEvent) (peer : Rehearsal.Peer) :
    (hub.deliver now e).2.foldl (place now) peer = peer := by
  obtain ⟨-, same⟩ | ⟨_, a, -, -, -, effects⟩ := hub.deliver_cases now e
  · rw [same, List.foldl_nil]
  · rw [effects]
    generalize (a.step now (.notify e.raw)).2.filterMap
      (Engine.Effect.update? a.channel) = updates
    induction updates with
    | nil => rfl
    | cons u updates ih => exact ih

theorem dispatch_move : Move q b now .dispatch (q.step now .dispatch) := by
  simp only [step, dispatch]
  cases next : q.events.items with
  | nil =>
      have idle : Move q b now .dispatch (q, []) := .idle next
      simpa [EventQueue.take?, next] using idle
  | cons e rest =>
      have moved : Move q b now .dispatch _ := .dispatched next
      simpa [EventQueue.take?, next, stepHub, Hub.step, uncalled] using moved

theorem step_move (side : q.peer.side = .bridge b) (isOpen : q.events.isOpen = true)
    {event : Event} (other : event.opens = false) :
    Move q b now event (q.step now event) := by
  cases event with
  | openEngine t spec | proceed t => cases other
  | arrive topic payload => exact .arrived
  | handle => exact handle_move side
  | forward => exact forward_move isOpen
  | dispatch => exact dispatch_move

/-- Nothing is lost and nothing overtakes anything on a step. -/
theorem Relay.move (inv : Relay p b h q b') {event : Event} {s : Step}
    (move : Move q b' now event s) :
    ∃ b'', Relay p b (h ++ [⟨now, event, q, s.1, s.2⟩]) s.1 b'' := by
  have same : eventsOf b' = eventsOf b := eventsOf_congr inv.listeners inv.settings
  cases move with
  | idle idles =>
      refine ⟨b', { inv with flow := ?_ }⟩
      rw [arrived_snoc, dispatched_snoc]
      cases event with
      | handle | forward => simpa [arrival?, taken?] using inv.flow
      | dispatch =>
          have nothing : q.events.items = [] := idles
          simpa [arrival?, taken?, nothing] using inv.flow
      | openEngine | proceed | arrive => cases idles
  | arrived =>
      refine ⟨b', { inv with flow := ?_ }⟩
      rw [arrived_snoc, dispatched_snoc]
      simp [arrival?, taken?, inv.flow]
  | @handled topic payload rest free next =>
      have settings : (b'.step now (.message topic payload)).1.settings = b'.settings :=
        (Bridge.step_move b' now _).settings
      refine ⟨(b'.step now (.message topic payload)).1, { inv with
        side := rfl
        listeners := (b'.listeners_handle topic payload).trans inv.listeners
        settings := settings.trans inv.settings
        flow := ?_ }⟩
      rw [arrived_snoc, dispatched_snoc]
      simp [arrival?, taken?, inv.flow, free, next, same]
  | forwarded room next =>
      refine ⟨b', { inv with flow := ?_ }⟩
      rw [arrived_snoc, dispatched_snoc]
      simp [arrival?, taken?, inv.flow, next]
  | @dispatched e rest next =>
      have hub : (q.hub.deliver now e).1.routes = q.hub.routes ∧
          (q.hub.deliver now e).1.engines.length = q.hub.engines.length := by
        obtain ⟨-, stays⟩ | ⟨_, _, -, -, moved, -⟩ := q.hub.deliver_cases now e
        · rw [stays]
          exact ⟨rfl, rfl⟩
        · rw [moved]
          exact ⟨rfl, by simp [Hub.setEngine]⟩
      refine ⟨b', { inv with
        routes := hub.1.trans inv.routes
        engines := hub.2.trans inv.engines
        flow := ?_ }⟩
      rw [arrived_snoc, dispatched_snoc]
      simp [arrival?, taken?, inv.flow, next]

theorem relay_of_run (side : p.peer.side = .bridge b) (isOpen : p.events.isOpen = true)
    (rest : p.AtRest) (run : Run step p h q) (only : ∀ m ∈ h, m.event.opens = false) :
    ∃ b', Relay p b h q b' := by
  induction run with
  | nil =>
      obtain ⟨backlog, waiting, items⟩ := rest
      exact ⟨b, side, rfl, rfl, isOpen, rfl, rfl, rfl,
        by simp [arrived, dispatched, backlog, waiting, items]⟩
  | @snoc h q run now event ih =>
      obtain ⟨b', inv⟩ := ih fun m member => only m (by simp [member])
      exact inv.move
        (step_move inv.side inv.isOpen (only (.taken step q now event) (by simp)))

/-- An engine has lived by what it took, and published what it gave. -/
def Follows (spec : Spec) (id : EngineId) (took : List AttributeEvent)
    (gave : List Channel.Update) (q : Pipeline) : Prop :=
  ∃ h e, q.hub.engine? id = some e ∧ Engine.RunOf spec h e ∧ e.disposed = false ∧
    Engine.readings spec.decoder h = decoded spec.decoder took ∧ Engine.updates h = gave

theorem Follows.dispatch {spec : Spec} {id : EngineId} {took : List AttributeEvent}
    {gave : List Channel.Update} {e : AttributeEvent} {q' : Pipeline}
    (follows : Follows spec id took gave q) (now : Nat)
    (hub : q'.hub = (q.hub.deliver now e).1) :
    Follows spec id (took ++ if q.hub.route? e.key = some id then [e] else [])
      (gave ++ if q.hub.route? e.key = some id then (q.hub.deliver now e).2.filterMap
        Hub.Effect.update? else []) q' := by
  obtain ⟨h, a, here, run, live, readings, updates⟩ := follows
  obtain ⟨taken, untaken⟩ := Hub.deliver_to here now e
  by_cases mine : q.hub.route? e.key = some id
  · obtain ⟨here', effects⟩ := taken mine
    obtain ⟨live', readings'⟩ := Engine.live_notified live now e.raw
    refine ⟨_, _, hub ▸ here', run.next now (.notify e.raw), live', ?_, ?_⟩
    · rw [readings', readings, if_pos mine, decoded_append]
      cases value : (spec.decoder.decode e.raw).toOption <;> simp [decoded, value]
    · rw [Engine.updates_snoc, updates, if_pos mine, effects]
      rfl
  · refine ⟨h, a, hub ▸ untaken mine, run, live, ?_, ?_⟩
    · simpa [mine] using readings
    · simpa [mine] using updates

/-- The hub sees only the events that are dispatched. -/
theorem Move.hub {event : Event} {s : Step} (move : Move q b now event s) :
    (taken? ⟨now, event, q, s.1, s.2⟩ = none ∧ s.2 = [] ∧ s.1.hub = q.hub) ∨
      ∃ e, taken? ⟨now, event, q, s.1, s.2⟩ = some e ∧ s.1.hub = (q.hub.deliver now e).1 ∧
        s.2 = (q.hub.deliver now e).2 := by
  cases move with
  | arrived | handled | forwarded => exact Or.inl ⟨rfl, rfl, rfl⟩
  | dispatched next => exact Or.inr ⟨_, by simp [taken?, next], rfl, rfl⟩
  | idle idles =>
      refine Or.inl ⟨?_, rfl, rfl⟩
      cases event with
      | dispatch =>
          have nothing : q.events.items = [] := idles
          simp [taken?, nothing]
      | _ => rfl

/-- Relaying messages goes on from a pipeline at rest. -/
structure Relays (p : Pipeline) (b : Bridge) (h : History) (q : Pipeline) : Prop where
  side : p.peer.side = .bridge b
  isOpen : p.events.isOpen = true
  rest : p.AtRest
  run : Run step p h q
  only : ∀ m ∈ h, m.event.opens = false

namespace Relays

theorem induct {P : History → Pipeline → Prop} (start : P [] p)
    (next : ∀ h q b' now event s, Relays p b h q → Relay p b h q b' → P h q →
      Move q b' now event s → P (h ++ [⟨now, event, q, s.1, s.2⟩]) s.1)
    (relays : Relays p b h q) : P h q := by
  obtain ⟨side, isOpen, rest, run, only⟩ := relays
  induction run with
  | nil => exact start
  | @snoc h q run now event ih =>
      have earlier (m : Moment) (member : m ∈ h) : m.event.opens = false :=
        only m (by simp [member])
      obtain ⟨b', inv⟩ := relay_of_run side isOpen rest run earlier
      have move : Move q b' now event _ :=
        step_move inv.side inv.isOpen (only (.taken step q now event) (by simp))
      exact next h q b' now event _ ⟨side, isOpen, rest, run, earlier⟩ inv
        (ih earlier) move

theorem follows (relays : Relays p b h q) {id : EngineId} {e : Engine} {spec : Spec}
    (here : p.hub.engine? id = some e) (usable : Engine.ofSpec? spec = some e) :
    Follows spec id ((dispatched h).filter (p.hub.route? ·.key = some id))
      (publishedBy id h) q := by
  refine relays.induct (P := fun h q =>
    Follows spec id ((dispatched h).filter (p.hub.route? ·.key = some id))
      (publishedBy id h) q) ?_ ?_
  · have new := Engine.ofSpec?_eq_some usable
    exact ⟨[], e, here, .start usable, new.2.1, rfl, rfl⟩
  · intro h q b' now event s _ inv follows move
    have routes (key : Key) : p.hub.route? key = q.hub.route? key := by
      simp only [Hub.route?, inv.routes]
    rw [dispatched_snoc, publishedBy_snoc]
    obtain ⟨untaken, silent, hub⟩ | ⟨ev, took, hub, effects⟩ := move.hub
    · simpa [untaken, Follows, hub] using follows
    · have goesOn := follows.dispatch now hub
      rw [took]
      simpa [effects, List.filter_cons, routes] using goesOn

/-- Engines keep their channels. -/
theorem channel (relays : Relays p b h q)
    (usable : ∀ id e, p.hub.engine? id = some e → ∃ spec, Engine.ofSpec? spec = some e)
    {b' : Bridge} (inv : Relay p b h q b') {id : EngineId} {a : Engine}
    (there : q.hub.engine? id = some a) :
    ∃ e, p.hub.engine? id = some e ∧ a.channel = e.channel := by
  have bound : id < p.hub.engines.length :=
    inv.engines ▸ (List.getElem?_eq_some_iff.mp there).1
  have here : p.hub.engine? id = some p.hub.engines[id] := List.getElem?_eq_getElem bound
  obtain ⟨spec, usable⟩ := usable id _ here
  obtain ⟨_, _, there', run, -⟩ := relays.follows here usable
  cases there.symm.trans there'
  exact ⟨_, here,
    run.channel_decoder.1.trans (Engine.RunOf.start usable).channel_decoder.1.symm⟩

/-- Nobody else publishes on a channel that is an engine's own. -/
theorem published_on_own (relays : Relays p b h q) {id : EngineId} {e : Engine}
    (usable : ∀ id e, p.hub.engine? id = some e → ∃ spec, Engine.ofSpec? spec = some e)
    (here : p.hub.engine? id = some e)
    (own : ∀ id' e', p.hub.engine? id' = some e' → e'.channel = e.channel → id' = id) :
    (published h).filter (·.channel = e.channel) = publishedBy id h := by
  refine relays.induct (P := fun h _ => (published h).filter (·.channel = e.channel) =
    publishedBy id h) rfl ?_
  intro h q b' now event s relays inv same move
  rw [published_snoc, publishedBy_snoc, List.filter_append, same,
    List.append_cancel_left_eq]
  obtain ⟨untaken, silent, -⟩ | ⟨ev, took, -, effects⟩ := move.hub
  · simp [silent]
  · rw [took]
    obtain ⟨-, stays⟩ | ⟨id', a, route, there, -, updates⟩ := q.hub.deliver_cases now ev
    · simp [effects, stays]
    · obtain ⟨e', here', channel⟩ := relays.channel usable inv there
      have onChannel (u : Channel.Update)
          (member : u ∈ s.2.filterMap Hub.Effect.update?) :
          u.channel = e'.channel := by
        rw [effects, updates, Hub.filterMap_publish] at member
        obtain ⟨f, -, update⟩ := List.mem_filterMap.mp member
        exact (Engine.Effect.channel_of_update update).trans channel
      by_cases mine : e'.channel = e.channel
      · obtain rfl := own id' e' here' mine
        rw [if_pos (by simpa using route)]
        exact List.filter_eq_self.mpr fun u member =>
          by simpa using (onChannel u member).trans mine
      · have other : id' ≠ id := by
          rintro rfl
          cases here.symm.trans here'
          exact mine rfl
        rw [if_neg (by simpa [route] using other)]
        refine List.filter_eq_nil_iff.mpr fun u member => ?_
        simpa [onChannel u member] using mine

end Relays

/-- A turn that finds something to do leaves one less to take. -/
theorem Move.work {event : Event} {s : Step} (side : q.peer.side = .bridge b)
    (move : Move q b now event s) (turn : event.isTurn = true) :
    q.Idles event ∧ s = (q, []) ∨ s.1.work + 1 = q.work := by
  cases move with
  | idle idles => exact Or.inl ⟨idles, rfl⟩
  | arrived => cases turn
  | @handled topic payload rest free next =>
      right
      have same : eventsOf (b.step now (.message topic payload)).1 = eventsOf b :=
        eventsOf_congr (b.listeners_handle topic payload)
          (Bridge.step_move b now _).settings
      simp only [Pipeline.work, side, same, free, next, List.flatMap_cons,
        List.length_append, List.length_cons, List.length_nil]
      omega
  | forwarded room next =>
      right
      simp only [Pipeline.work, next, List.length_append, List.length_cons,
        List.length_nil]
      omega
  | dispatched next =>
      right
      simp only [Pipeline.work, next, List.length_cons]
      omega

/-- While something is under way, someone has something to do. -/
theorem busy_unless_atRest (capacity : 0 < q.events.capacity) (busy : ¬ q.AtRest) :
    ∃ event : Event, event.isTurn = true ∧ ¬ q.Idles event := by
  cases items : q.events.items with
  | cons e rest => exact ⟨.dispatch, rfl, by simp [Idles, items]⟩
  | nil =>
      cases waiting : q.waiting with
      | cons e rest =>
          exact ⟨.forward, rfl,
            by simp [Idles, waiting, EventQueue.hasRoom, items, capacity]⟩
      | nil =>
          exact ⟨.handle, rfl,
            fun idles => busy ⟨by simpa [Idles, waiting] using idles, waiting, items⟩⟩

theorem Relay.progress (inv : Relay p b h q b') (capacity : 0 < p.events.capacity)
    (now : Nat) :
    (∀ event : Event, event.isTurn = true →
      q.step now event = (q, []) ∨ (q.step now event).1.work + 1 = q.work) ∧
      (q.AtRest ∨ ∃ event : Event, event.isTurn = true ∧
        (q.step now event).1.work + 1 = q.work) := by
  have moves (event : Event) (turn : event.isTurn = true) :
      Move q b' now event (q.step now event) := by
    refine step_move inv.side inv.isOpen ?_
    cases event with
    | openEngine | proceed => cases turn
    | _ => rfl
  refine ⟨fun event turn => ((moves event turn).work inv.side turn).imp_left And.right,
    ?_⟩
  by_cases atRest : q.AtRest
  · exact Or.inl atRest
  · obtain ⟨event, turn, busy⟩ := busy_unless_atRest (inv.capacity ▸ capacity) atRest
    refine Or.inr ⟨event, turn,
      ((moves event turn).work inv.side turn).resolve_left fun idle => busy idle.1⟩

end

section
variable {s : Bridge.Settings} {hb : Bridge.History} {b₀ b : Bridge} {key : Key}
  {name : String}

section
variable (run : Bridge.RunOf s hb b) (base : b.baseTopic = b₀.baseTopic)
  (filed : ∀ name, key ∈ b.keysAt name ↔
    b₀.friendlyName? key = some name ∨ key ∈ b₀.keysAt name)
include run base filed

/-- What a message has for a key that a bridge files as another one does as soon as
somebody listens. -/
theorem eventsOf_key (message : String × String) :
    (eventsOf b message).filter (·.key = key) = (reaching? b₀ key message).toList := by
  simp only [eventsOf, Bridge.handle_events, reaching?, base]
  cases Bridge.stated? b₀.baseTopic message.1 message.2 with
  | none => rfl
  | some stated =>
      simp only [b.events_filter_key key stated.1 stated.2 (run.nodup_keysAt stated.1),
        filed]
      split <;> rfl

theorem reaching_of_events (messages : List (String × String)) :
    (messages.flatMap (eventsOf b)).filter (·.key = key) = reaching b₀ key messages := by
  induction messages with
  | nil => rfl
  | cons message messages ih =>
      rw [List.flatMap_cons, List.filter_append, ih, eventsOf_key run base filed,
        reaching, reaching, List.filterMap_cons]
      cases reaching? b₀ key message <;> rfl

end

/-- A state that has something to tell of every known attribute. -/
def tellingState : String :=
  "\x7b\"humidity\":true,\"temperature\":true,\"voltage\":true,\"occupancy\":true\x7d"

theorem told_tellingState
    (known : (KnownAttribute.find? key.cluster key.attributeId).isSome = true) :
    Bridge.told? tellingState key = some ⟨key, .bool true⟩ := by
  have read : Json.readText (Json.Reader.dictionary Json.Reader.any) tellingState =
      .ok [("humidity", .bool true), ("temperature", .bool true), ("voltage", .bool true),
        ("occupancy", .bool true)] := rfl
  obtain ⟨a, found⟩ := Option.isSome_iff_exists.mp known
  have listed : a ∈ KnownAttribute.table := List.mem_of_find?_eq_some found
  simp only [Bridge.told?, read, Except.toOption, Option.bind_some, Bridge.event?, found]
  simp only [KnownAttribute.table, List.mem_cons, List.not_mem_nil, or_false] at listed
  obtain rfl | rfl | rfl | rfl := listed <;> rfl

/-- Of an attribute that the bridge does not know no state tells anything. -/
theorem told?_of_unknown
    (unknown : KnownAttribute.find? key.cluster key.attributeId = none)
    (payload : String) : Bridge.told? payload key = none := by
  refine Option.bind_eq_none_iff.mpr fun state _ => ?_
  simp [Bridge.event?, unknown]

/-- It is the states of its own device alone that reach who listens to a key exactly if
the key is filed under no other name that states can come with, unless nothing ever
reaches them. -/
theorem reaching_eq_told_iff (named : b.friendlyName? key = some name)
    (apart : ¬ Bridge.bridgeTopic <+: name.toList) :
    (∀ messages, reaching b key messages = told (b.stateTopic name) key messages) ↔
      ∀ other, key ∈ b.keysAt other → ¬ Bridge.bridgeTopic <+: other.toList →
        other = name ∨ KnownAttribute.find? key.cluster key.attributeId = none := by
  have stated {other : String} (payload : String)
      (free : ¬ Bridge.bridgeTopic <+: other.toList) :
      Bridge.stated? b.baseTopic (b.stateTopic other) payload = some (other, payload) :=
    Bridge.stated?_eq_some.mpr ⟨rfl, free, rfl⟩
  constructor
  · intro same other filed free
    by_contra different
    obtain ⟨different, known⟩ := not_or.mp different
    have tells := told_tellingState (Option.isSome_iff_ne_none.mpr known)
    have both := same [(b.stateTopic other, tellingState)]
    simp [reaching, reaching?, told, stated tellingState free, tells, filed,
      b.stateTopic_inj, different] at both
  · intro alone messages
    refine List.filterMap_congr fun message _ => ?_
    simp only [reaching?]
    split
    · next other payload comes =>
        obtain ⟨topic, free, rfl⟩ := Bridge.stated?_eq_some.mp comes
        have topic : message.1 = b.stateTopic other := topic
        by_cases mine : other = name
        · simp [topic, mine, named]
        · by_cases filed : key ∈ b.keysAt other
          · have unknown := (alone other filed free).resolve_left mine
            simp [told?_of_unknown unknown]
          · have unnamed : b.friendlyName? key ≠ some other :=
              fun same => mine (Option.some.inj (same.symm.trans named))
            simp [topic, mine, unnamed, filed, b.stateTopic_inj]
    · next unstated =>
        rw [if_neg]
        intro mine
        rw [mine, stated message.2 apart] at unstated
        cases unstated

end

/-- Engines with keys of their own are opened on a bridge, and nothing else happens
meanwhile. -/
structure Opens (s : Bridge.Settings) (hb : Bridge.History) (b : Bridge) (capacity : Nat)
    (h : History) (p : Pipeline) : Prop where
  gateway : Bridge.RunOf s hb b
  room : 0 < capacity
  run : Run step (start b capacity) h p
  only : ∀ m ∈ h, m.event.opens = true
  distinct : (p.hub.engines.map (·.key)).Nodup

section
variable {s : Bridge.Settings} {hb : Bridge.History} {b₀ b : Bridge} {capacity : Nat}
  {h h₁ h₂ : History} {p q : Pipeline} {id : EngineId} {e : Engine} {name : String}

theorem Opens.apart (opens : Opens s hb b₀ capacity h p) (i j : EngineId) (a c : Engine)
    (here : p.hub.engine? i = some a) (there : p.hub.engine? j = some c)
    (same : a.key = c.key) : i = j := by
  have keyed {i : EngineId} {a : Engine} (here : p.hub.engine? i = some a) :
      (p.hub.engines.map (·.key))[i]? = some a.key := by
    rw [Hub.engine?] at here
    rw [List.getElem?_map, here, Option.map_some]
  have bound := (List.getElem?_eq_some_iff.mp (keyed here)).1
  exact (List.getElem?_inj bound opens.distinct).mp
    ((keyed here).trans (same ▸ (keyed there).symm))

/-- Events are routed to an engine that was opened exactly if they are of its key. -/
theorem Opens.route?_iff (opens : Opens s hb b₀ capacity h p)
    (here : p.hub.engine? id = some e) (opened : Opened h id) (key : Key) :
    p.hub.route? key = some id ↔ key = e.key := by
  obtain ⟨b, inv⟩ := opening_of_run opens.gateway opens.run opens.only
  obtain ⟨hh, run, agrees⟩ := inv.hub
  constructor
  · intro route
    obtain ⟨e', here', rfl⟩ := Hub.key_of_route? run route
    cases here.symm.trans here'
    rfl
  · rintro rfl
    obtain ⟨spec, usable⟩ := inv.new id e here
    exact Hub.route?_of_distinct_keys run opens.apart here
      (Engine.ofSpec?_eq_some usable).2.1 (agrees id opened)

/-- The key of an engine that was opened is filed under the name of its device, and
otherwise where it was filed before. -/
theorem Opening.filed (inv : Opening s b₀ capacity h p b)
    (here : p.hub.engine? id = some e) (opened : Opened h id) (other : String) :
    e.key ∈ b.keysAt other ↔
      b₀.friendlyName? e.key = some other ∨ e.key ∈ b₀.keysAt other := by
  constructor
  · intro member
    exact (inv.grows.added e.key other member).symm
  · rintro (named | member)
    · obtain ⟨e', here', name, named', filed⟩ := inv.opened id opened
      cases here.symm.trans here'
      rw [inv.grows.friendlyName?, named] at named'
      exact Option.some.inj named' ▸ filed
    · exact inv.grows.kept e.key other member

/-- What an engine publishes of events: the values that differ from the one right before
them. -/
def publications (e : Engine) (events : List AttributeEvent) : List Channel.Update :=
  (Value.changes (decoded e.decoder events)).map (⟨e.channel, ·⟩)

/-- Once everything is opened, an engine publishes what reaches those who listen to its
key: part of it while messages are under way, and all of it in the end, which is as many
turns away as there is work. Nobody else publishes on its channel, unless it shares the
channel. This is what the states of its device tell, and nothing else, exactly if no
earlier listener left the key under another name; a key of an attribute that the bridge
does not know makes an exception, since it has no events under any name. -/
theorem publishes_what_reaches_it (opens : Opens s hb b₀ capacity h₁ p)
    (run : Run step p h₂ q) (only : ∀ m ∈ h₂, m.event.opens = false)
    (here : p.hub.engine? id = some e) (opened : Opened h₁ id) :
    (q.AtRest → publishedBy id h₂ = publications e (reaching b₀ e.key (arrived h₂))) ∧
    (∃ early, early <+: reaching b₀ e.key (arrived h₂) ∧
      publishedBy id h₂ = publications e early) ∧
    (∃ name, b₀.friendlyName? e.key = some name ∧
      (¬ Bridge.bridgeTopic <+: name.toList →
        ((∀ messages, reaching b₀ e.key messages =
          told (b₀.stateTopic name) e.key messages) ↔
          ∀ other, e.key ∈ b₀.keysAt other → ¬ Bridge.bridgeTopic <+: other.toList →
            other = name ∨
              KnownAttribute.find? e.key.cluster e.key.attributeId = none))) ∧
    ((∀ id' e', p.hub.engine? id' = some e' → e'.channel = e.channel → id' = id) →
      (published h₂).filter (·.channel = e.channel) = publishedBy id h₂) ∧
    ∀ now, (∀ event : Event, event.isTurn = true →
        q.step now event = (q, []) ∨ (q.step now event).1.work + 1 = q.work) ∧
      (q.AtRest ∨ ∃ event : Event, event.isTurn = true ∧
        (q.step now event).1.work + 1 = q.work) := by
  obtain ⟨b, inv⟩ := opening_of_run opens.gateway opens.run opens.only
  obtain ⟨_, lived⟩ := inv.lived
  obtain ⟨events, waiting, backlog⟩ := inv.quiet
  have relays : Relays p b h₂ q :=
    ⟨inv.side, by rw [events], ⟨backlog, waiting, by rw [events]⟩, run, only⟩
  obtain ⟨b', relay⟩ := relay_of_run relays.side relays.isOpen relays.rest run only
  obtain ⟨spec, usable⟩ := inv.new id e here
  obtain ⟨_, _, -, life, -, readings, updates⟩ := relays.follows here usable
  obtain ⟨channel, decoder⟩ := (Engine.RunOf.start usable).channel_decoder
  have mine : (dispatched h₂).filter (p.hub.route? ·.key = some id) =
      (dispatched h₂).filter (·.key = e.key) := by
    simp only [opens.route?_iff here opened]
  have gives :
      publishedBy id h₂ = publications e ((dispatched h₂).filter (·.key = e.key)) := by
    rw [← updates, life.publications.1, readings, mine, publications, channel, decoder]
  have base : b.baseTopic = b₀.baseTopic := by
    rw [Bridge.baseTopic, Bridge.baseTopic, lived.settings, opens.gateway.settings]
  have flow := reaching_of_events lived base (inv.filed here opened) (arrived h₂)
  rw [relay.flow] at flow
  refine ⟨fun rest => ?_, ⟨_, ?_, gives⟩, ?_, relays.published_on_own inv.new here,
    relay.progress ?_⟩
  · obtain ⟨backlog, waiting, items⟩ := rest
    rw [gives, ← flow, items, waiting, backlog]
    simp
  · rw [← flow, List.append_assoc, List.append_assoc, List.filter_append]
    exact List.prefix_append ..
  · obtain ⟨e', here', name, named, -⟩ := inv.opened id opened
    cases here.symm.trans here'
    rw [inv.grows.friendlyName?] at named
    exact ⟨name, named, reaching_eq_told_iff named⟩
  · rw [events]
    exact opens.room

end

/-- A list in which the hall sensor has moved to the landing and another device is in the
hall. -/
def movedDevices : String :=
  "[\x7b\"ieee_address\":\"0x00158d0001a2b3c4\",\"friendly_name\":\"landing\"," ++
    "\"endpoints\":\x7b\"1\":\x7b\"clusters\":" ++
    "\x7b\"input\":[\"msOccupancySensing\"]\x7d\x7d\x7d\x7d," ++
    "\x7b\"ieee_address\":\"0xbb\",\"friendly_name\":\"hall\"\x7d]"

/-- Somebody listens to the sensor in the hall, and stops when it has moved. -/
def moved : List (Nat × Bridge.Event) :=
  [(0, .message "zigbee2mqtt/bridge/devices" (Bridge.hallNamed "hall")),
    (0, .call 0 Bridge.hallKey .listen),
    (1, .message "zigbee2mqtt/bridge/devices" movedDevices),
    (1, .call 0 Bridge.hallKey .unlisten)]

def openings : List (Nat × Event) :=
  [(2, .openEngine 0 Engine.hallSensor), (2, .proceed 0), (2, .proceed 0)]

/-- The sensor tells twice that somebody is there, with something that cannot be read and
a state of the other device in between, while there is room for one event at a time. -/
def traffic : List (Nat × Event) :=
  [(4, .arrive "zigbee2mqtt/landing" Bridge.occupied), (4, .handle), (4, .forward),
    (4, .arrive "zigbee2mqtt/landing" "?"), (5, .handle),
    (5, .arrive "zigbee2mqtt/hall" "\x7b\"occupancy\":false\x7d"), (5, .handle),
    (5, .forward), (6, .dispatch), (6, .forward),
    (7, .arrive "zigbee2mqtt/landing" Bridge.occupied), (7, .handle),
    (7, .dispatch), (7, .forward), (7, .dispatch)]

def movedBridge : Bridge := (play Bridge.step (Bridge.ofSettings {}) moved).2

def openedHistory : History := (play step (start movedBridge 1) openings).1

def openedPipeline : Pipeline := (play step (start movedBridge 1) openings).2

def relayedHistory : History := (play step openedPipeline traffic).1

def relayedPipeline : Pipeline := (play step openedPipeline traffic).2

/-- What the other device says of itself is published as what the sensor says, since the
sensor's key was left under the name that the other device has now. -/
theorem other_device_is_published :
    Run step openedPipeline relayedHistory relayedPipeline ∧ relayedPipeline.AtRest ∧
      movedBridge.friendlyName? Bridge.hallKey = some "landing" ∧
      publishedBy 0 relayedHistory =
        [⟨"occupancy", .onOff true⟩, ⟨"occupancy", .onOff false⟩,
          ⟨"occupancy", .onOff true⟩] ∧
      ∃ e ∈ openedPipeline.hub.engine? 0,
        publications e
          (told (movedBridge.stateTopic "landing") e.key (arrived relayedHistory)) =
          [⟨"occupancy", .onOff true⟩] := by
  obtain ⟨only, distinct, ⟨m, member, finishes⟩, named, ⟨e, here, reached, ownOnly⟩,
    relays, rest⟩ :
      (∀ m ∈ openedHistory, m.event.opens = true) ∧
      (openedPipeline.hub.engines.map (·.key)).Nodup ∧
      (∃ m ∈ openedHistory, .finish 0 (.opened 0) ∈ m.effects) ∧
      movedBridge.friendlyName? Bridge.hallKey = some "landing" ∧
      (∃ e ∈ openedPipeline.hub.engine? 0,
        publications e (reaching movedBridge e.key (arrived relayedHistory)) =
          [⟨"occupancy", .onOff true⟩, ⟨"occupancy", .onOff false⟩,
            ⟨"occupancy", .onOff true⟩] ∧
        publications e
          (told (movedBridge.stateTopic "landing") e.key (arrived relayedHistory)) =
          [⟨"occupancy", .onOff true⟩]) ∧
      (∀ m ∈ relayedHistory, m.event.opens = false) ∧ relayedPipeline.AtRest := by
    unfold AtRest
    decide +kernel
  have opens : Opens {} (play Bridge.step (Bridge.ofSettings {}) moved).1 movedBridge 1
      openedHistory openedPipeline :=
    ⟨.play {} moved, by decide, Run.nil.append_play openings, only, distinct⟩
  have run : Run step openedPipeline relayedHistory relayedPipeline :=
    Run.nil.append_play traffic
  have law := publishes_what_reaches_it opens run relays here ⟨m, member, 0, finishes⟩
  exact ⟨run, rest, named, (law.1 rest).trans reached, e, here, ownOnly⟩

end Pipeline
end MeshReadings
