import MeshReadings.Proofs.Engine.Cancellation
import MeshReadings.Proofs.Engine.Negotiation
import MeshReadings.Proofs.Engine.Outstanding
import MeshReadings.Proofs.Hub.Routing

/-!
Where an inspection stands, and how a step takes it along. It waits for one engine at a
time, first for the resolution, then for the two commands of the activation, and it has a
list of engines still to visit. Whatever happens to other engines leaves it where it is;
once its engine is done, it passes by all that have not failed.
-/

namespace MeshReadings
namespace Engine

section
variable {e : Engine} {now : Nat} {event : Event} {s : Step} {t : Ticket}

@[simp] theorem afterRead_channel (p : Option Nat) :
    (e.afterRead now t p).1.channel = e.channel := by
  cases p <;> rfl

theorem Move.channel (move : Move e now event s) : s.1.channel = e.channel := by
  cases move with
  | readSkipped | readNoted | readFailed | readOver => exact afterRead_channel _
  | _ => rfl

/-- Only the operation that an event is about makes a call. -/
theorem Move.ticket_of_call (move : Move e now event s) {c : Call}
    (call : .call t c ∈ s.2) : event.ticket? = some t := by
  obtain ⟨p, after, -, before⟩ := move.awaits_of_call call
  apply Classical.byContradiction
  intro other
  exact before ((move.stage?_of_ne other).symm.trans after)

theorem Move.ticket_of_finish (move : Move e now event s) {o : Outcome}
    (ends : .finish t o ∈ s.2) : event.ticket? = some t := by
  cases move with
  | idle | enqueued | bindSent | reportSent | resolveSent | bound | readSent | disposed
  | pollStarted | rested | noted =>
      simp at ends
  | turnedAway takes | stayedFailed takes | stored takes =>
      exact (mem_finish ends).1 ▸ takes.ticket
  | settled settles => exact (mem_finish ends).1 ▸ settles.ticket
  | dropped wakes => exact (mem_finish ends).1 ▸ ticket?_of_wakes wakes
  | resolveFailed | reopenedLate | reopened | disposedAgain | unlistened
  | pollerStopped =>
      exact (mem_finish ends).1 ▸ rfl
  | readSkipped reads =>
      exact (Effect.finish.inj (mem_afterRead.mp ends).1).1 ▸ reads.ticket
  | readOver wakes =>
      exact (Effect.finish.inj (mem_afterRead.mp ends).1).1 ▸ ticket?_of_wakes wakes
  | readFailed => exact (Effect.finish.inj (mem_afterRead.mp ends).1).1 ▸ rfl
  | readNoted =>
      have ends := (List.mem_append.mp ends).resolve_left (by simp)
      exact (Effect.finish.inj (mem_afterRead.mp ends).1).1 ▸ rfl

end
end Engine

namespace Hub

def channel? (h : Hub) (id : EngineId) : Option String := (h.engine? id).map (·.channel)

/-- Where an operation stands in an engine. -/
def stageAt (h : Hub) (id : EngineId) (t : Ticket) : Option Engine.Stage :=
  (h.engine? id).bind (·.stage? t)

/-- The engines that an inspection has yet to visit, which are none once it is over. -/
def todo (h : Hub) (t : Ticket) : List EngineId :=
  ((h.inspection? t).map (·.rest)).getD []

/-- Notes of each of some engines whether its readings are stale, unless it is
disposed. -/
def noteAll (h : Hub) (now : Nat) : List EngineId → Hub
  | [] => h
  | id :: ids =>
    match h.engine? id with
    | none => h.noteAll now ids
    | some e =>
        if e.disposed then h.noteAll now ids
        else (h.noteStale e.channel (e.isStale now)).noteAll now ids

/-- An inspection has nothing to do for an engine. -/
def Passes (h : Hub) (id : EngineId) : Prop :=
  ∀ e, h.engine? id = some e → e.disposed = true ∨ e.state ≠ .failed

/-- A visit to some engines passes them all by, or it stops at the first that has
failed. -/
inductive Tours (h : Hub) (now : Nat) (t : Ticket) : List EngineId → Step → Prop
  | ends {passed} (passes : ∀ id ∈ passed, h.Passes id) :
      Tours h now t passed
        ((h.noteAll now passed).dropInspection t, [.finish t .inspected])
  | stops {passed id later e} (passes : ∀ id ∈ passed, h.Passes id)
      (here : h.engine? id = some e)
      (live : e.disposed = false) (failed : e.state = .failed) :
      Tours h now t (passed ++ id :: later)
        ((h.noteAll now passed).startInspected now t e ⟨true, id, later⟩ .reopen)

section
variable {hub : Hub} {now : Nat} {t u : Ticket} {id : EngineId} {ids : List EngineId}

@[simp] theorem inspection?_dropInspection (hub : Hub) (t u : Ticket) :
    (hub.dropInspection t).inspection? u = if u = t then none else hub.inspection? u := by
  split
  · next same => simp [dropInspection, inspection?, same]
  · next other => simp only [dropInspection, inspection?, find?_removed_of_ne other]

@[simp] theorem inspection?_putInspection (hub : Hub) (t u : Ticket) (i : Inspection) :
    (hub.putInspection t i).inspection? u = if u = t then some i
      else hub.inspection? u := by
  split
  · next same => simp [putInspection, inspection?, same]
  · next other =>
      have rest := hub.inspection?_dropInspection t u
      rw [if_neg other] at rest
      rw [← rest]
      simp [putInspection, inspection?, Ne.symm other]

@[simp] theorem engine?_dropInspection (hub : Hub) (t : Ticket) (id : EngineId) :
    (hub.dropInspection t).engine? id = hub.engine? id := rfl

@[simp] theorem engine?_putInspection (hub : Hub) (t : Ticket) (i : Inspection)
    (id : EngineId) :
    (hub.putInspection t i).engine? id = hub.engine? id := rfl

@[simp] theorem opening?_dropInspection (hub : Hub) (t u : Ticket) :
    (hub.dropInspection t).opening? u = hub.opening? u := rfl

theorem engine?_setEngine {e : Engine} (here : hub.engine? id = some e) (e' : Engine)
    (other : EngineId) :
    (hub.setEngine id e').engine? other = if other = id then some e'
      else hub.engine? other := by
  have bound := (List.getElem?_eq_some_iff.mp here).1
  simp only [setEngine, engine?, List.getElem?_set]
  by_cases same : other = id
  · simp [same, bound]
  · simp [same, Ne.symm same]

theorem noteAll_eq (hub : Hub) (now : Nat) (ids : List EngineId) :
    hub.noteAll now ids = { hub with stale := (hub.noteAll now ids).stale } := by
  induction ids generalizing hub with
  | nil => rfl
  | cons id ids ih =>
      simp only [noteAll]
      split
      · exact ih hub
      · split
        · exact ih hub
        · exact ih (hub.noteStale _ _)

@[simp] theorem engine?_noteAll (hub : Hub) (now : Nat) (ids : List EngineId)
    (id : EngineId) : (hub.noteAll now ids).engine? id = hub.engine? id := by
  rw [noteAll_eq]
  rfl

@[simp] theorem inspection?_noteAll (hub : Hub) (now : Nat) (ids : List EngineId)
    (t : Ticket) : (hub.noteAll now ids).inspection? t = hub.inspection? t := by
  rw [noteAll_eq]
  rfl

@[simp] theorem opening?_noteAll (hub : Hub) (now : Nat) (ids : List EngineId)
    (t : Ticket) : (hub.noteAll now ids).opening? t = hub.opening? t := by
  rw [noteAll_eq]
  rfl

theorem contains_noteStale (hub : Hub) (channel c : String) (b : Bool) :
    (hub.noteStale channel b).stale.contains c = if c = channel then b
      else hub.stale.contains c := by
  simp only [noteStale]
  cases b with
  | true =>
      by_cases known : hub.stale.contains channel = true
      · simp only [known, if_true]
        split
        · next same => rw [same, known]
        · rfl
      · simp only [known, if_true, Bool.false_eq_true, if_false, List.contains_cons]
        by_cases same : c = channel <;> simp [same]
  | false =>
      simp only [Bool.false_eq_true, if_false]
      by_cases same : c = channel <;> simp [same]

theorem stale_noteAll_of_ne {c : String} (other : ∀ id ∈ ids, hub.channel? id ≠ some c) :
    (hub.noteAll now ids).stale.contains c = hub.stale.contains c := by
  induction ids generalizing hub with
  | nil => rfl
  | cons id ids ih =>
      have rest : ∀ id ∈ ids, hub.channel? id ≠ some c :=
        fun id member => other id (List.mem_cons_of_mem _ member)
      simp only [noteAll]
      split
      · exact ih rest
      · next e here =>
          split
          · exact ih rest
          · have apart : c ≠ e.channel := by
              intro same
              exact other id (by simp) (by simp [channel?, here, same])
            have noted := @ih (hub.noteStale e.channel (e.isStale now)) rest
            rw [noted, contains_noteStale, if_neg apart]

/-- What is noted of an engine is not changed by what is noted of others, if their
channels differ. -/
theorem stale_noteAll {e : Engine} (apart : (ids.map hub.channel?).Nodup)
    (member : id ∈ ids) (here : hub.engine? id = some e) :
    (hub.noteAll now ids).stale.contains e.channel =
      if e.disposed then hub.stale.contains e.channel else e.isStale now := by
  have channel : hub.channel? id = some e.channel := by simp [channel?, here]
  induction ids generalizing hub with
  | nil => cases member
  | cons first ids ih =>
      obtain ⟨fresh, apart⟩ := List.nodup_cons.mp apart
      obtain rfl | later := List.mem_cons.mp member
      · have other : ∀ u ∈ ids, hub.channel? u ≠ some e.channel := by
          intro u member same
          exact fresh (List.mem_map.mpr ⟨u, member, same.trans channel.symm⟩)
        simp only [noteAll, here]
        split
        · exact stale_noteAll_of_ne other
        · refine (stale_noteAll_of_ne ?_).trans (by rw [contains_noteStale, if_pos rfl])
          exact other
      · simp only [noteAll]
        split
        · exact ih apart later here channel
        · next e' here' =>
            split
            · exact ih apart later here channel
            · have other : e.channel ≠ e'.channel := by
                intro same
                exact fresh
                  (List.mem_map.mpr ⟨id, later, by simp [channel?, here, here', same]⟩)
              have noted :=
                @ih (hub.noteStale e'.channel (e'.isStale now)) apart later here channel
              rw [noted, contains_noteStale, if_neg other]

theorem stale_noteAll_congr {hub' : Hub} (stale : hub'.stale = hub.stale)
    (same : ∀ id ∈ ids, hub'.engine? id = hub.engine? id) :
    (hub'.noteAll now ids).stale = (hub.noteAll now ids).stale := by
  induction ids generalizing hub hub' with
  | nil => exact stale
  | cons id ids ih =>
      have rest : ∀ id ∈ ids, hub'.engine? id = hub.engine? id := fun id member =>
        same id (List.mem_cons_of_mem _ member)
      simp only [noteAll, same id (by simp)]
      split
      · exact ih stale rest
      · split
        · exact ih stale rest
        · refine ih ?_ rest
          simp only [noteStale, stale]

theorem Tours.pass {hub' : Hub} {s : Step} (tours : Tours hub' now t ids s)
    (engines : hub'.engines = hub.engines)
    (note : ∀ passed, hub'.noteAll now passed = hub.noteAll now (id :: passed))
    (passes : hub.Passes id) : Tours hub now t (id :: ids) s := by
  have before {passed : List EngineId} (rest : ∀ id ∈ passed, hub'.Passes id) :
      ∀ u ∈ id :: passed, hub.Passes u := by
    simpa [Passes, engine?, engines] using And.intro passes rest
  cases tours with
  | ends rest =>
      rw [note]
      exact .ends (before rest)
  | stops rest here live failed =>
      rw [note]
      simp only [engine?, engines] at here
      exact .stops (before rest) here live failed

theorem tours_visit (hub : Hub) (now : Nat) (t : Ticket) (ids : List EngineId) :
    Tours hub now t ids (hub.visit now t ids) := by
  induction ids generalizing hub with
  | nil => exact .ends (by simp)
  | cons id ids ih =>
      simp only [visit]
      split
      · next absent =>
            exact (ih hub).pass rfl (by simp [noteAll, absent]) (by simp [Passes, absent])
      · next e here =>
          split
          · next gone =>
                exact (ih hub).pass rfl (by simp [noteAll, here, gone])
                  (by simp [Passes, here, gone])
          · next live =>
              split
              · next failed =>
                  have stops : Tours hub now t ([] ++ id :: ids) _ :=
                    .stops (by simp) here (by simpa using live) failed
                  exact stops
              · next sound =>
                  exact (ih (hub.noteStale _ _)).pass rfl (by simp [noteAll, here, live])
                    (by simp [Passes, here, sound])

end

/-- What an inspection waits for on the engine that it has come to. -/
inductive Phase
  | reopening
  | binding
  | reporting
deriving DecidableEq

/-- The stage of an exchange in a phase. -/
def Phase.At : Phase → Engine.Stage → Prop
  | .reopening, .resolving | .binding, .binding .. | .reporting, .configuring .. => True
  | _, _ => False

/-- An engine that an inspection has for itself. -/
structure Visiting (t : Ticket) (phase : Phase) (e : Engine) : Prop where
  live : e.disposed = false
  lock : e.lock = ⟨some t, []⟩
  stage : ∃ s, e.stage? t = some s ∧ phase.At s

/-- What an event does to the exchange that an inspection waits for. -/
inductive Goes (e : Engine) (now : Nat) (t : Ticket) :
    Phase → Engine.Event → Engine.Step → Prop
  | unmoved {phase event}
      (silent : Engine.answer? t (.taken Engine.step e now event) = none) :
      Goes e now t phase event (e, [])
  | resolved {r} (success : ∀ f, r ≠ .fault f) :
      Goes e now t .reopening (.reply t r) ((e.transition Binding.reset).finish t .done)
  | accepted {r min max change p} (configuring : Phase.reporting.At p) :
      Goes e now t .binding (.reply t r)
        ((e.transition (·.mark .bound)).wait t p [.call t (.report min max change)])
  | ended {phase event e' o}
      (failed : phase = .reopening → ∃ f, event = .reply t (.fault f) ∧ o = .fault f)
      (same : e' = e ∨ ∃ f, e' = e.transition f) :
      Goes e now t phase event (e'.finish t o)

section
variable {e : Engine} {now : Nat} {t : Ticket} {phase : Phase} {event : Engine.Event}

theorem goes_of_idle (silent : Engine.answer? t (.taken Engine.step e now event) = none)
    (idle : e.step now event = (e, [])) :
    Goes e now t phase event (e.step now event) := by
  rw [idle]
  exact .unmoved silent

theorem goes_of_settle (other : phase ≠ .reopening) (f : Binding → Binding) :
    Goes e now t phase event (e.settle t f) := by
  simp only [Engine.settle]
  split
  · exact .ended (fun same => absurd same other) (.inl rfl)
  · exact .ended (fun same => absurd same other) (.inr ⟨f, rfl⟩)

theorem goes_of_settleFault (other : phase ≠ .reopening) (f : Fault) (period : Nat) :
    Goes e now t phase event (e.settleFault t f period) := by
  simp only [Engine.settleFault]
  split
  · exact .ended (fun same => absurd same other) (.inl rfl)
  · split
    · exact goes_of_settle other _
    · exact goes_of_settle other _

theorem goes_of_resolving (live : e.disposed = false)
    (stage : e.stage? t = some .resolving) (about : event.ticket? = some t) :
    Goes e now t .reopening event (e.step now event) := by
  cases event with
  | notify raw => cases about
  | reply u r =>
      cases about
      simp only [Engine.step, Engine.reply, stage, live, Bool.false_eq_true, if_false]
      cases r with
      | fault f => exact .ended (fun _ => ⟨f, rfl, rfl⟩) (.inl rfl)
      | ok | refused _ | reading _ => exact .resolved (by simp)
  | start u r | proceed u | cancel u | tick u | notice u | expire u =>
      cases about
      exact goes_of_idle (by simp [Engine.answer?, Moment.taken, Engine.deadline?, stage])
        (by simp [Engine.step, Engine.proceed, Engine.expire, Engine.cancel, Engine.tick,
        Engine.restart, stage])

theorem goes_of_binding (live : e.disposed = false) {min max d : Nat}
    {change : Option Binary64} (stage : e.stage? t = some (.binding min max change d))
    (about : event.ticket? = some t) :
    Goes e now t .binding event (e.step now event) := by
  have other : Phase.binding ≠ .reopening := by decide
  cases event with
  | notify raw => cases about
  | reply u r =>
      cases about
      simp only [Engine.step, Engine.reply, stage, live, Bool.false_eq_true, if_false]
      cases r with
      | refused _ => exact goes_of_settle other _
      | fault f => exact goes_of_settleFault other f _
      | ok | reading _ => exact .accepted trivial
  | expire u =>
      cases about
      by_cases late : d ≤ now
      · simp only [Engine.step, Engine.expire, stage, if_pos late]
        exact goes_of_settleFault other _ _
      · exact goes_of_idle (by simp [Engine.answer?, Moment.taken, Engine.deadline?,
          stage, late]) (by simp [Engine.step, Engine.expire, stage, late])
  | start u r | proceed u | cancel u | tick u | notice u =>
      cases about
      exact goes_of_idle rfl (by simp [Engine.step, Engine.proceed, Engine.cancel,
        Engine.tick, Engine.restart, stage, live])

theorem goes_of_configuring (live : e.disposed = false)
    {refusedPeriod faultPeriod max d : Nat}
    (stage : e.stage? t = some (.configuring refusedPeriod faultPeriod max d))
    (about : event.ticket? = some t) :
    Goes e now t .reporting event (e.step now event) := by
  have other : Phase.reporting ≠ .reopening := by decide
  cases event with
  | notify raw => cases about
  | reply u r =>
      cases about
      simp only [Engine.step, Engine.reply, stage]
      cases r with
      | refused _ | ok | reading _ => exact goes_of_settle other _
      | fault f => exact goes_of_settleFault other f _
  | expire u =>
      cases about
      by_cases late : d ≤ now
      · simp only [Engine.step, Engine.expire, stage, if_pos late]
        exact goes_of_settleFault other _ _
      · exact goes_of_idle (by simp [Engine.answer?, Moment.taken, Engine.deadline?,
          stage, late]) (by simp [Engine.step, Engine.expire, stage, late])
  | start u r | proceed u | cancel u | tick u | notice u =>
      cases about
      exact goes_of_idle rfl (by simp [Engine.step, Engine.proceed, Engine.cancel,
        Engine.tick, Engine.restart, stage, live])

theorem Visiting.goes (visiting : Visiting t phase e) (now : Nat)
    (about : event.ticket? = some t) : Goes e now t phase event (e.step now event) := by
  obtain ⟨s, stage, here⟩ := visiting.stage
  cases phase with
  | reopening =>
      cases s with
      | resolving => exact goes_of_resolving visiting.live stage about
      | _ => cases here
  | binding =>
      cases s with
      | binding => exact goes_of_binding visiting.live stage about
      | _ => cases here
  | reporting =>
      cases s with
      | configuring => exact goes_of_configuring visiting.live stage about
      | _ => cases here

end

/-- Where an inspection stands: the engine that it waits for, if it has come to one, and
those still to visit. -/
structure Position where
  visit? : Option (Phase × EngineId)
  todo : List EngineId

def Stands (h : Hub) (t : Ticket) (p : Position) : Prop :=
  match p.visit? with
  | none => h.inspection? t = none
  | some (phase, id) =>
    h.inspection? t = some ⟨phase = .reopening, id, p.todo⟩ ∧ ∃ e, h.engine? id = some e ∧
      Visiting t phase e

/-- No other inspection is in progress, and the ticket stands for nothing but this one. -/
structure Clear (h : Hub) (t : Ticket) : Prop where
  sole : ∀ u, u ≠ t → h.inspection? u = none
  unopened : h.opening? t = none
  absent : ∀ id, h.inspected? t ≠ some id → h.stageAt id t = none

def Effect.callOf? (t : Ticket) : Effect → Option Call
  | .call u _ c => if u = t then some c else none
  | _ => none

def callsIn (t : Ticket) (m : Moment) : List Call :=
  m.effects.filterMap (Effect.callOf? t)

/-- The engines that are to be visited as a step is taken. -/
def due (t : Ticket) (m : Moment) : List EngineId :=
  match m.event with
  | .inspect u ids => if u = t then ids else m.before.todo t
  | _ => m.before.todo t

/-- The engines that a step visits. -/
def visits (t : Ticket) (m : Moment) : List EngineId :=
  (due t m).take ((due t m).length - (m.after.todo t).length)

/-- The resolution of an engine succeeds. -/
def Resolves (t : Ticket) (id : EngineId) (m : Moment) : Prop :=
  ∃ r, m.event = .engine id (.reply t r) ∧ (∀ f, r ≠ .fault f) ∧
    m.before.stageAt id t = some .resolving

/-- The call that an inspection waits for ends, by a reply or in silence. -/
def answered (t : Ticket) (m : Moment) : Bool :=
  match m.event with
  | .engine id event => m.before.inspected? t == some id &&
    (m.before.engine? id).any fun e =>
      (Engine.answer? t (.taken Engine.step e m.now event)).isSome
  | _ => false

/-- Nobody else moves the engine that an inspection waits for, uses its ticket or
inspects. -/
structure Respects (t : Ticket) (m : Moment) : Prop where
  sole : ∀ u ids, m.event ≠ .inspect u ids
  unopened : ∀ spec, m.event ≠ .openEngine t spec
  own : ∀ id event, m.event = .engine id event → event.ticket? = some t →
      m.before.inspected? t = some id
  kept : ∀ id, m.before.inspected? t = some id →
    (∃ event, m.event = .engine id event ∧ event.ticket? = some t) ∨
    m.after.engine? id = m.before.engine? id

/-- The engines that failed are idle as they are visited. -/
def FindsIdle (t : Ticket) (m : Moment) : Prop :=
  ∀ id ∈ visits t m, ∀ e, m.before.engine? id = some e → e.disposed = false →
    e.state = .failed → e.lock = ⟨none, []⟩

/-- The ways a step can take an inspection. -/
inductive Turn (t : Ticket) (m : Moment) : Position → Position → Prop
  | stays {p} (calls : callsIn t m = []) (stale : m.after.stale = m.before.stale)
      (unresolved : ∀ id, ¬ Resolves t id m) (unanswered : answered t m = false) :
      Turn t m p p
  | resolved {id todo} (calls : callsIn t m = [.bind])
      (stale : m.after.stale = m.before.stale) (resolves : Resolves t id m) :
      Turn t m ⟨some (.reopening, id), todo⟩ ⟨some (.binding, id), todo⟩
  | accepted {id todo min max change} (calls : callsIn t m = [.report min max change])
      (stale : m.after.stale = m.before.stale) (unresolved : ∀ id, ¬ Resolves t id m) :
      Turn t m ⟨some (.binding, id), todo⟩ ⟨some (.reporting, id), todo⟩
  | ends {p} (passes : ∀ id ∈ p.todo, m.before.Passes id) (calls : callsIn t m = [])
      (stale : m.after.stale = (m.before.noteAll m.now p.todo).stale)
      (unresolved : ∀ id, ¬ Resolves t id m) : Turn t m p ⟨none, []⟩
  | stops {p passed id later e} (split : p.todo = passed ++ id :: later)
      (passes : ∀ id ∈ passed, m.before.Passes id) (here : m.before.engine? id = some e)
      (live : e.disposed = false) (failed : e.state = .failed)
      (calls : callsIn t m = [.resolve])
      (stale : m.after.stale = (m.before.noteAll m.now passed).stale)
      (unresolved : ∀ id, ¬ Resolves t id m) : Turn t m p ⟨some (.reopening, id), later⟩

/-- The calls of a step go out under the key of the engine that the inspection has come
to. -/
def Addressed (t : Ticket) (m : Moment) : Prop :=
  ∀ key c, .call t key c ∈ m.effects →
    ∃ id e, m.after.inspected? t = some id ∧ m.after.engine? id = some e ∧ e.key = key

/-- A step takes an inspection from where it stands to where it stands next. -/
structure Leads (t : Ticket) (m : Moment) (p p' : Position) : Prop where
  turn : Turn t m p p'
  clear : Clear m.after t
  stands : Stands m.after t p'
  channels : ∀ id c, m.before.channel? id = some c → m.after.channel? id = some c
  finished : p'.visit? = none → p'.todo = []
  addressed : Addressed t m

/-- A step that has nothing to do with the operation of a ticket. -/
structure Aside (t : Ticket) (h : Hub) (s : Step) : Prop where
  inspections : s.1.inspections = h.inspections
  stale : s.1.stale = h.stale
  calls : s.2.filterMap (Effect.callOf? t) = []
  unopened : s.1.opening? t = none
  stages : ∀ id, s.1.stageAt id t = h.stageAt id t
  channels : ∀ id c, h.channel? id = some c → s.1.channel? id = some c

section
variable {hub : Hub} {now : Nat} {t : Ticket} {id : EngineId} {e : Engine} {p : Position}

theorem todo_of_stands (stands : hub.Stands t p)
    (finished : p.visit? = none → p.todo = []) : hub.todo t = p.todo := by
  cases visit : p.visit? with
  | none =>
      simp only [Stands, visit] at stands
      simp [todo, stands, finished visit]
  | some v =>
      simp only [Stands, visit] at stands
      simp [todo, stands.1]

theorem inspected?_of_stands (stands : hub.Stands t p) :
    hub.inspected? t = p.visit?.map (·.2) := by
  cases visit : p.visit? with
  | none =>
      simp only [Stands, visit] at stands
      simp [inspected?, stands]
  | some v =>
      simp only [Stands, visit] at stands
      simp [inspected?, stands.1]

theorem addressed_of_silent {m : Moment} (silent : callsIn t m = []) : Addressed t m := by
  intro key c call
  have sent : c ∈ callsIn t m := List.mem_filterMap.mpr ⟨_, call, if_pos rfl⟩
  rw [silent] at sent
  cases sent

theorem addressed_of_stands {m : Moment} {phase : Phase} {c : Call}
    (stands : m.after.Stands t p) (visit : p.visit? = some (phase, id))
    (here : m.after.engine? id = some e) (effects : m.effects = [.call t e.key c]) :
    Addressed t m := by
  intro key c call
  rw [effects, List.mem_singleton] at call
  cases call
  exact ⟨id, e, by rw [inspected?_of_stands stands, visit]; rfl, here, rfl⟩

theorem absorb_aside (now : Nat) (clear : Clear hub t) {fs : List Engine.Effect}
    (mute : ∀ fx ∈ fs, (∀ c, fx ≠ .call t c) ∧ ∀ o, fx ≠ .finish t o) (channel : String)
    (key : Key) :
    (hub.absorb now channel key fs).1 =
      { hub with routes := (hub.absorb now channel key fs).1.routes } ∧
      (hub.absorb now channel key fs).2.filterMap (Effect.callOf? t) = [] := by
  induction fs generalizing hub with
  | nil => exact ⟨rfl, rfl⟩
  | cons fx fs ih =>
      obtain ⟨first, rest⟩ := List.forall_mem_cons.mp mute
      have ih (hub : Hub) (clear : Clear hub t) := ih clear rest
      cases fx with
      | call u c =>
          have other : u ≠ t := fun same => first.1 c (same ▸ rfl)
          simpa [absorb, absorb.before, Effect.callOf?, other] using ih hub clear
      | publish v => simpa [absorb, absorb.before, Effect.callOf?] using ih hub clear
      | unroute =>
          have unregistered :=
            ih (hub.unregister key) ⟨clear.sole, clear.unopened, clear.absent⟩
          exact ⟨unregistered.1.trans rfl, unregistered.2⟩
      | finish u o =>
          have other : u ≠ t := fun same => first.2 o (same ▸ rfl)
          simpa [absorb, absorb.before, clear.sole u other, Effect.callOf?]
            using ih hub clear

theorem channel?_setEngine (here : hub.engine? id = some e) {e' : Engine}
    (same : e'.channel = e.channel) (u : EngineId) :
    (hub.setEngine id e').channel? u = hub.channel? u := by
  simp only [channel?, engine?_setEngine here]
  split
  · next other => simp [other, here, same]
  · rfl

theorem stageAt_setEngine (here : hub.engine? id = some e) (e' : Engine) (u : EngineId) :
    (hub.setEngine id e').stageAt u t = if u = id then e'.stage? t
      else hub.stageAt u t := by
  simp only [stageAt, engine?_setEngine here]
  split <;> rfl

theorem aside_self (clear : Clear hub t) : Aside t hub (hub, []) :=
  ⟨rfl, rfl, rfl, clear.unopened, fun _ => rfl, fun _ _ same => same⟩

theorem aside_stepEngine (clear : Clear hub t) (here : hub.engine? id = some e)
    {event : Engine.Event}
    (mute : ∀ fx ∈ (e.step now event).2, (∀ c, fx ≠ .call t c) ∧ ∀ o, fx ≠ .finish t o)
    (stage : (e.step now event).1.stage? t = e.stage? t) :
    Aside t hub (hub.stepEngine now id event) := by
  have moved : Clear (hub.setEngine id (e.step now event).1) t := by
    refine ⟨clear.sole, clear.unopened, fun u other => ?_⟩
    rw [stageAt_setEngine here]
    split
    · next same =>
        have absent := clear.absent u other
        rwa [same, stageAt, here, Option.bind_some, ← stage] at absent
    · exact clear.absent u other
  obtain ⟨rest, calls⟩ :=
    absorb_aside now moved mute (e.step now event).1.channel (e.step now event).1.key
  simp only [stepEngine, here]
  refine ⟨congrArg (·.inspections) rest, congrArg (·.stale) rest, calls, ?_, ?_, ?_⟩
  · rw [rest]
    exact clear.unopened
  · intro u
    rw [rest]
    refine (stageAt_setEngine here _ u).trans ?_
    split
    · next same => rw [same, stageAt, here, Option.bind_some, stage]
    · rfl
  · intro u c channel
    rw [rest]
    exact (channel?_setEngine here (Engine.step_move e now event).channel u).trans channel

/-- Events that are about other operations have nothing to do with an inspection. -/
theorem aside_engine (clear : Clear hub t) {event : Engine.Event}
    (other : event.ticket? ≠ some t) : Aside t hub (hub.stepEngine now id event) := by
  cases here : hub.engine? id with
  | none =>
      rw [stepEngine_none hub now here]
      exact aside_self clear
  | some e =>
      have move := Engine.step_move e now event
      refine aside_stepEngine clear here (fun fx member => ⟨?_, ?_⟩)
        (move.stage?_of_ne other)
      · rintro c rfl
        exact other (move.ticket_of_call member)
      · rintro o rfl
        exact other (move.ticket_of_finish member)

theorem aside_reply (clear : Clear hub t) (u : Ticket) (r : Reply) :
    Aside t hub (hub.replyOpening u r) := by
  have dropped {hub' : Hub} (rest : hub' = { hub with routes := hub'.routes })
      (o : Outcome) :
      Aside t hub (hub'.dropOpening u, [.finish u o]) := by
    rw [rest]
    refine ⟨rfl, rfl, rfl, ?_, fun _ => rfl, fun _ _ same => same⟩
    rw [opening?_dropOpening]
    split
    · rfl
    · exact clear.unopened
  simp only [replyOpening]
  split
  · exact aside_self clear
  · exact dropped rfl _
  · next spec opening sound =>
      have other : u ≠ t := by
        rintro rfl
        cases clear.unopened.symm.trans opening
      split
      · exact dropped rfl _
      · next e opened =>
          have idle : e.stage? t = none := by
            simp [Engine.stage?, (Engine.ofSpec?_eq_some opened).1]
          refine ⟨rfl, rfl, by simp [Effect.callOf?, other], ?_, fun id => ?_,
            fun id c same => ?_⟩
          · rw [opening?_putOpening, if_neg (Ne.symm other)]
            exact clear.unopened
          · change ((hub.engines ++ [e])[id]?).bind _ = (hub.engines[id]?).bind _
            rw [List.getElem?_append]
            split
            · rfl
            · next beyond =>
                rw [List.getElem?_eq_none (Nat.le_of_not_lt beyond),
                  List.getElem?_singleton]
                split <;> simp [idle]
          · obtain ⟨e', here, channel⟩ := Option.map_eq_some_iff.mp same
            have bound := (List.getElem?_eq_some_iff.mp here).1
            exact Option.map_eq_some_iff.mpr
              ⟨e', (List.getElem?_append_left bound).trans here, channel⟩
  · refine dropped ?_ _
    simp only [unrouteEngine]
    split <;> rfl
  · exact dropped rfl _

theorem aside_step (clear : Clear hub t) {event : Event}
    (sole : ∀ u ids, event ≠ .inspect u ids)
    (unopened : ∀ spec, event ≠ .openEngine t spec)
    (other : ∀ id event', event = .engine id event' → event'.ticket? ≠ some t) :
    Aside t hub (hub.step now event) := by
  cases event with
  | inspect u ids => exact absurd rfl (sole u ids)
  | engine id event => exact aside_engine clear (other id event rfl)
  | deliver event =>
      simp only [step, deliver]
      split
      · exact aside_self clear
      · exact aside_engine clear (by simp [Engine.Event.ticket?, Engine.Event.wakes?])
  | reply u r => exact aside_reply clear u r
  | openEngine u spec =>
      have apart : u ≠ t := by
        rintro rfl
        exact unopened spec rfl
      simp only [step]
      split
      · exact aside_self clear
      · refine ⟨rfl, rfl, by simp [Effect.callOf?, apart], ?_, fun _ => rfl,
          fun _ _ same => same⟩
        rw [opening?_putOpening, if_neg (Ne.symm apart)]
        exact clear.unopened

theorem visits_of_split {m : Moment} {visited rest : List EngineId}
    (split : due t m = visited ++ rest) (after : m.after.todo t = rest) :
    visits t m = visited := by
  rw [visits, split, after, List.length_append, Nat.add_sub_cancel, List.take_left]

theorem start_reopening (live : e.disposed = false) (free : e.lock.holder = none)
    (fresh : e.stage? t = none) (now : Nat) :
    e.step now (.start t (.exchange .reopen)) =
      (e.claim t).wait t .resolving [.call t .resolve] := by
  rw [Engine.start_free free fresh]
  simp [Engine.commence, live]

/-- An engine whose lock is free is taken by an exchange that waits. -/
theorem visiting_of_start {s : Engine.Stage} {phase : Phase} {fx : List Engine.Effect}
    (live : e.disposed = false) (idle : e.lock = ⟨none, []⟩) (here : phase.At s) :
    Visiting t phase ((e.claim t).wait t s fx).1 := by
  refine ⟨live, ?_, s, by simp, here⟩
  change (⟨some t, e.lock.queue⟩ : Engine.CommandLock) = ⟨some t, []⟩
  rw [idle]

/-- A step that leaves an inspection at an engine which it has for itself, with one call
for that engine. -/
theorem leads_to_engine {m : Moment} (hub' : Hub) {e' : Engine} {phase : Phase}
    {later : List EngineId} {c : Call} (turn : Turn t m p ⟨some (phase, id), later⟩)
    (after : m.after = hub'.setEngine id e') (effects : m.effects = [.call t e'.key c])
    (here : hub'.engine? id = some e) (channel : e'.channel = e.channel)
    (visiting : Visiting t phase e')
    (inspecting : hub'.inspection? t = some ⟨phase = .reopening, id, later⟩)
    (sole : ∀ u, u ≠ t → hub'.inspection? u = none) (unopened : hub'.opening? t = none)
    (absent : ∀ u, u ≠ id → hub'.stageAt u t = none)
    (channels : ∀ u c, m.before.channel? u = some c → hub'.channel? u = some c) :
    Leads t m p ⟨some (phase, id), later⟩ := by
  have found : m.after.engine? id = some e' := by
    rw [after, engine?_setEngine here, if_pos rfl]
  have stands : Stands m.after t ⟨some (phase, id), later⟩ :=
    ⟨after ▸ inspecting, e', found, visiting⟩
  refine ⟨turn, ?_, stands, ?_, nofun, addressed_of_stands stands rfl found effects⟩
  · rw [after]
    refine ⟨sole, unopened, fun u other => ?_⟩
    have apart : u ≠ id := by
      rintro rfl
      exact other (congrArg (·.map Inspection.current) inspecting)
    rw [stageAt_setEngine here, if_neg apart]
    exact absent u apart
  · intro u c before
    rw [after, channel?_setEngine here channel]
    exact channels u c before

theorem callsIn_single {m : Moment} {key : Key} {c : Call}
    (effects : m.effects = [.call t key c]) : callsIn t m = [c] := by
  simp [callsIn, effects, Effect.callOf?]

theorem leads_to_end {m : Moment} (hub' : Hub) (turn : Turn t m p ⟨none, []⟩)
    (silent : callsIn t m = []) (after : m.after = hub'.dropInspection t)
    (sole : ∀ u, u ≠ t → hub'.inspection? u = none) (unopened : hub'.opening? t = none)
    (absent : ∀ id, hub'.stageAt id t = none)
    (channels : ∀ id c, m.before.channel? id = some c → hub'.channel? id = some c) :
    Leads t m p ⟨none, []⟩ := by
  refine ⟨turn, ⟨?_, ?_, ?_⟩, ?_, ?_, fun _ => rfl, addressed_of_silent silent⟩
  · intro u other
    simpa [after, other] using sole u other
  · simpa [after] using unopened
  · intro id _
    simpa [after, stageAt] using absent id
  · simp [after, Stands]
  · intro id c before
    simpa [after, channel?] using channels id c before

/-- An inspection that has nothing to wait for visits the engines that are due. -/
theorem leads_of_visit {m : Moment} (hub' : Hub)
    (sole : ∀ u, u ≠ t → hub'.inspection? u = none) (unopened : hub'.opening? t = none)
    (absent : ∀ id, hub'.stageAt id t = none) (next : due t m = p.todo)
    (agree : ∀ id ∈ p.todo, hub'.engine? id = m.before.engine? id)
    (stale : hub'.stale = m.before.stale)
    (channels : ∀ id c, m.before.channel? id = some c → hub'.channel? id = some c)
    (idle : FindsIdle t m) (unresolved : ∀ id, ¬ Resolves t id m)
    (after : m.after = (hub'.visit m.now t p.todo).1)
    (effects : m.effects = (hub'.visit m.now t p.todo).2) : ∃ p', Leads t m p p' := by
  have unopened (passed : List EngineId) :
      (hub'.noteAll m.now passed).opening? t = none := by
    simpa using unopened
  have absent (passed : List EngineId) (id : EngineId) :
      (hub'.noteAll m.now passed).stageAt id t = none := by
    simpa [stageAt] using absent id
  have channels (passed : List EngineId) (id : EngineId) (c : String)
      (before : m.before.channel? id = some c) :
      (hub'.noteAll m.now passed).channel? id = some c := by
    simpa [channel?] using channels id c before
  have tours := tours_visit hub' m.now t p.todo
  generalize hub'.visit m.now t p.todo = s at tours after effects
  generalize ids : p.todo = todo at tours next agree
  cases tours with
  | ends passes =>
      subst ids
      have silent : callsIn t m = [] := by
        rw [callsIn, effects]
        rfl
      have passes : ∀ id ∈ p.todo, m.before.Passes id := fun id member e here =>
        passes id member e ((agree id member).trans here)
      have noted : m.after.stale = (m.before.noteAll m.now p.todo).stale := by
        rw [after]
        exact stale_noteAll_congr stale agree
      exact ⟨_, leads_to_end _ (.ends passes silent noted unresolved) silent after
        (by simpa using sole) (unopened _) (absent _) (channels _)⟩
  | @stops passed id later e passes here live failed =>
      have member : id ∈ passed ++ id :: later := by simp
      have fresh : e.stage? t = none := by simpa [stageAt, here] using absent [] id
      have split : due t m = (passed ++ [id]) ++ later := by simp [next]
      have visited : id ∈ visits t m := by
        rw [visits_of_split split (by simp [after, startInspected, todo])]
        simp
      have found : m.before.engine? id = some e := (agree id member).symm.trans here
      have lock := idle id visited e found live failed
      have starts := start_reopening live (by rw [lock]) fresh m.now
      simp only [startInspected, starts] at after effects
      have passes : ∀ u ∈ passed, m.before.Passes u := fun u before e here =>
        passes u before e ((agree u (by simp [before])).trans here)
      have noted : m.after.stale = (m.before.noteAll m.now passed).stale := by
        rw [after]
        exact stale_noteAll_congr stale fun u before => agree u (by simp [before])
      refine ⟨_, leads_to_engine
        ((hub'.noteAll m.now passed).putInspection t ⟨true, id, later⟩) (.stops ids passes
        found live failed (callsIn_single effects) noted unresolved) after effects
        ((engine?_noteAll ..).trans here) rfl (visiting_of_start live lock trivial)
        (by simp) ?_ (unopened passed) (fun u _ => absent passed u) (channels passed)⟩
      intro u other
      simpa [other] using sole u other

theorem leads_start {ids : List EngineId} (clear : Clear hub t)
    (fresh : hub.inspection? t = none)
    (idle : FindsIdle t (.taken step hub now (.inspect t ids))) :
    ∃ p', Leads t (.taken step hub now (.inspect t ids)) ⟨none, ids⟩ p' := by
  have visit : hub.step now (.inspect t ids) = hub.visit now t ids := by
    simp [step, fresh]
  have unresolved (id : EngineId) :
      ¬ Resolves t id (.taken step hub now (.inspect t ids)) := by
    intro resolves
    obtain ⟨r, event, -⟩ := resolves
    cases event
  refine leads_of_visit hub clear.sole clear.unopened ?_ ?_ (fun _ _ => rfl) rfl
    (fun _ _ same => same) idle unresolved (congrArg (·.1) visit) (congrArg (·.2) visit)
  · exact fun id => clear.absent id (by simp [inspected?, fresh])
  · simp [due, Moment.taken]

/-- An inspection is left where it stands. -/
theorem leads_of_aside {event : Event} (clear : Clear hub t) (stands : Stands hub t p)
    (aside : Aside t hub (hub.step now event))
    (kept : ∀ id, hub.inspected? t = some id →
      (hub.step now event).1.engine? id = hub.engine? id)
    (unresolved : ∀ id, ¬ Resolves t id (.taken step hub now event))
    (unanswered : answered t (.taken step hub now event) = false)
    (finished : p.visit? = none → p.todo = []) :
    Leads t (.taken step hub now event) p p := by
  have inspections (u : Ticket) :
      (hub.step now event).1.inspection? u = hub.inspection? u := by
    simp only [inspection?, aside.inspections]
  refine ⟨.stays aside.calls aside.stale unresolved unanswered, ⟨?_, aside.unopened, ?_⟩,
    ?_, aside.channels, finished, addressed_of_silent aside.calls⟩
  · exact fun u other => (inspections u).trans (clear.sole u other)
  · intro id other
    refine (aside.stages id).trans (clear.absent id ?_)
    simpa [inspected?, Moment.taken, inspections] using other
  · simp only [Stands, Moment.taken, inspections] at stands ⊢
    split at stands
    · exact stands
    · next phase id _ =>
        rwa [kept id (by simp [inspected?, stands.1])]

theorem about_of_answered {m : Moment} (answered : answered t m = true) :
    ∃ id event, m.event = .engine id event ∧ event.ticket? = some t ∧
      m.before.inspected? t = some id := by
  cases event : m.event with
  | engine id event' =>
      simp only [Hub.answered, event, Bool.and_eq_true, beq_iff_eq,
        Option.any_eq_true] at answered
      obtain ⟨inspected, e, -, answer⟩ := answered
      refine ⟨id, event', rfl, ?_, inspected⟩
      cases event' with
      | reply u r | expire u =>
          by_cases same : u = t
          · exact same ▸ rfl
          · simp [Engine.answer?, Moment.taken, same] at answer
      | _ => cases answer
  | _ => simp [Hub.answered, event] at answered

theorem not_resolves {event : Engine.Event} (here : hub.engine? id = some e)
    (unfit : ∀ r, event = .reply t r → (∀ f, r ≠ .fault f) → e.stage? t ≠ some .resolving)
    (u : EngineId) : ¬ Resolves t u (.taken step hub now (.engine id event)) := by
  intro resolves
  obtain ⟨r, same, success, stage⟩ := resolves
  obtain ⟨rfl, rfl⟩ : id = u ∧ event = .reply t r := by simpa [Moment.taken] using same
  exact unfit r rfl success (by simpa [Moment.taken, stageAt, here] using stage)

theorem Visiting.not_resolving {phase : Phase} (visiting : Visiting t phase e)
    (other : phase ≠ .reopening) : e.stage? t ≠ some .resolving := by
  intro resolving
  obtain ⟨s, stage, fits⟩ := visiting.stage
  cases stage.symm.trans resolving
  cases phase with
  | reopening => exact other rfl
  | binding | reporting => cases fits

/-- An exchange that ends leaves its engine to the next one. -/
structure Freed (t : Ticket) (e e' : Engine) : Prop where
  live : e'.disposed = false
  lock : e'.lock = ⟨none, []⟩
  fresh : e'.stage? t = none
  channel : e'.channel = e.channel

theorem Visiting.freed {phase : Phase} {e' : Engine} (visiting : Visiting t phase e)
    (same : e' = e ∨ ∃ f, e' = e.transition f) (o : Engine.Outcome) :
    Freed t e (e'.finish t o).1 := by
  have lock : e'.lock = ⟨some t, []⟩ := by
    obtain rfl | ⟨f, rfl⟩ := same <;> exact visiting.lock
  refine ⟨?_, ?_, by simp, ?_⟩
  · obtain rfl | ⟨f, rfl⟩ := same <;> exact visiting.live
  · rw [Engine.finish_lock, lock, if_pos rfl, Engine.CommandLock.release]
  · obtain rfl | ⟨f, rfl⟩ := same <;> rfl

theorem step_ended {event : Engine.Event} {i : Inspection} {e' : Engine}
    {o : Engine.Outcome} (here : hub.engine? id = some e)
    (moved : e.step now event = e'.finish t o) (inspecting : hub.inspection? t = some i) :
    hub.step now (.engine id event) =
      (hub.setEngine id (e'.finish t o).1).resume now t i o := by
  have still (e' : Engine) : (hub.setEngine id e').inspection? t = some i := inspecting
  simp only [step, stepEngine, here, moved, Engine.finish_effects, absorb, still,
    absorb.before, List.append_nil]

section
variable {event : Engine.Event} {phase : Phase} {todo : List EngineId}
  (clear : Clear hub t)
  (inspecting : hub.inspection? t = some ⟨phase = .reopening, id, todo⟩)
  (here : hub.engine? id = some e) (visiting : Visiting t phase e)
include clear inspecting here visiting

/-- The inspection of an engine that is done with goes on to the next. -/
theorem leads_of_ended {e' : Engine} {o : Engine.Outcome}
    (moved : e.step now event = e'.finish t o)
    (failed : phase = .reopening → ∃ f, event = .reply t (.fault f) ∧ o = .fault f)
    (same : e' = e ∨ ∃ f, e' = e.transition f) (apart : id ∉ todo)
    (idle : FindsIdle t (.taken step hub now (.engine id event))) :
    ∃ p',
      Leads t (.taken step hub now (.engine id event)) ⟨some (phase, id), todo⟩ p' := by
  have freed := visiting.freed same o
  have visit : hub.step now (.engine id event) =
      (hub.setEngine id (e'.finish t o).1).visit now t todo := by
    rw [step_ended here moved inspecting]
    cases phase with
    | reopening =>
        obtain ⟨f, -, rfl⟩ := failed rfl
        simp [resume]
    | binding | reporting => simp [resume]
  have unresolved : ∀ u, ¬ Resolves t u (.taken step hub now (.engine id event)) := by
    refine not_resolves here fun r answer success => ?_
    by_cases reopening : phase = .reopening
    · obtain ⟨f, fault, -⟩ := failed reopening
      exact absurd (Engine.Event.reply.inj (answer.symm.trans fault)).2 (success f)
    · exact visiting.not_resolving reopening
  refine leads_of_visit (hub.setEngine id (e'.finish t o).1) clear.sole clear.unopened
    ?_ ?_ ?_ rfl ?_ idle unresolved (congrArg (·.1) visit) (congrArg (·.2) visit)
  · intro u
    rw [stageAt_setEngine here]
    split
    · exact freed.fresh
    · next other =>
          exact clear.absent u (by simpa [inspected?, inspecting] using Ne.symm other)
  · simp [due, Moment.taken, Hub.todo, inspecting]
  · intro u member
    have other : u ≠ id := by
      rintro rfl
      exact apart member
    rw [engine?_setEngine here, if_neg other]
    rfl
  · exact fun u c before => (channel?_setEngine here freed.channel u).trans before

/-- The inspection of an engine that is its own again goes on to activate it. -/
theorem leads_of_resolved {r : Reply}
    (moved : e.step now (.reply t r) = (e.transition Binding.reset).finish t .done)
    (success : ∀ f, r ≠ .fault f) (reopening : phase = .reopening)
    (stage : e.stage? t = some .resolving) :
    Leads t (.taken step hub now (.engine id (.reply t r))) ⟨some (.reopening, id), todo⟩
      ⟨some (.binding, id), todo⟩ := by
  subst reopening
  have freed := visiting.freed (.inr ⟨Binding.reset, rfl⟩) .done
  have ended := step_ended here moved inspecting
  generalize free : ((e.transition Binding.reset).finish t .done).1 = e₁ at freed ended
  have sound : e₁.state ≠ .failed := by
    rw [← free]
    exact nofun
  have starts :=
    Engine.start_activation freed.live (by rw [freed.lock]) freed.fresh sound now
  have known : (hub.setEngine id e₁).engine? id = some e₁ := by
    rw [engine?_setEngine here, if_pos rfl]
  have activation : hub.step now (.engine id (.reply t r)) =
      (hub.setEngine id e₁).startInspected now t e₁ ⟨false, id, todo⟩ .activate := by
    rw [ended]
    simp [resume, known]
  simp only [startInspected, starts] at activation
  have effects := congrArg (·.2) activation
  have resolves : Resolves t id (.taken step hub now (.engine id (.reply t r))) :=
    ⟨r, rfl, success, by simpa [Moment.taken, stageAt, here] using stage⟩
  refine leads_to_engine ((hub.setEngine id e₁).putInspection t ⟨false, id, todo⟩)
    (.resolved (callsIn_single effects) (congrArg (·.1.stale) activation) resolves)
    (congrArg (·.1) activation) effects known rfl
    (visiting_of_start freed.live freed.lock trivial) (by simp) ?_ clear.unopened ?_ ?_
  · intro u other
    rw [inspection?_putInspection, if_neg other]
    exact clear.sole u other
  · intro u other
    refine (stageAt_setEngine here e₁ u).trans ?_
    rw [if_neg other]
    exact clear.absent u (by simpa [inspected?, inspecting] using Ne.symm other)
  · exact fun u c before => (channel?_setEngine here freed.channel u).trans before

/-- The inspection of an engine that is bound waits for its configuration next. -/
theorem leads_of_accepted {r : Reply} {s : Engine.Stage} {min max : Nat}
    {change : Option Binary64}
    (moved : e.step now (.reply t r) =
      (e.transition (·.mark .bound)).wait t s [.call t (.report min max change)])
    (fits : Phase.reporting.At s) (binding : phase = .binding) :
    Leads t (.taken step hub now (.engine id (.reply t r))) ⟨some (.binding, id), todo⟩
      ⟨some (.reporting, id), todo⟩ := by
  subst binding
  generalize sent : ((e.transition (·.mark .bound)).wait t s
    [.call t (.report min max change)]).1 = e₁ at moved
  have visiting' : Visiting t .reporting e₁ := by
    subst sent
    exact ⟨visiting.live, visiting.lock, s, by simp, fits⟩
  have stepped : hub.step now (.engine id (.reply t r)) =
      (hub.setEngine id e₁, [.call t e₁.key (.report min max change)]) := by
    simp only [step, stepEngine, here, moved, Engine.wait_effects, absorb, absorb.before,
      List.append_nil, sent]
  have effects := congrArg (·.2) stepped
  refine leads_to_engine hub (.accepted (callsIn_single effects) (congrArg (·.1.stale)
    stepped) (not_resolves here fun _ _ _ => visiting.not_resolving (by decide)))
    (congrArg (·.1) stepped) effects here (by rw [← sent]; rfl) visiting' inspecting
    clear.sole clear.unopened ?_ fun _ _ before => before
  exact fun u other =>
    clear.absent u (by simpa [inspected?, inspecting] using Ne.symm other)

theorem leads_of_visiting (about : event.ticket? = some t) (apart : id ∉ todo)
    (idle : FindsIdle t (.taken step hub now (.engine id event))) :
    ∃ p',
      Leads t (.taken step hub now (.engine id event)) ⟨some (phase, id), todo⟩ p' := by
  have goes := visiting.goes now about
  generalize moved : e.step now event = s at goes
  cases goes with
  | unmoved silent =>
      have aside : Aside t hub (hub.step now (.engine id event)) :=
        aside_stepEngine clear here (by rw [moved]; simp) (by rw [moved])
      refine ⟨_,
        leads_of_aside clear ⟨inspecting, e, here, visiting⟩ aside ?_ ?_ ?_ nofun⟩
      · intro u inspected
        obtain rfl : id = u := by simpa [inspected?, inspecting] using inspected
        simp only [step, stepEngine, here, moved, absorb]
        rw [engine?_setEngine here, if_pos rfl]
      · refine not_resolves here fun r answer _ => ?_
        subst answer
        simp [Engine.answer?, Moment.taken] at silent
      · simp only [answered, Moment.taken, here, Option.any_some] at silent ⊢
        simp [silent]
  | resolved success =>
      obtain ⟨s, stage, fits⟩ := visiting.stage
      cases s with
      | resolving =>
          exact ⟨_,
            leads_of_resolved clear inspecting here visiting moved success rfl stage⟩
      | _ => cases fits
  | accepted configuring =>
      exact ⟨_, leads_of_accepted clear inspecting here visiting moved configuring rfl⟩
  | ended failed same =>
      exact leads_of_ended clear inspecting here visiting moved failed same apart idle

end

theorem leads_step {event : Event} (clear : Clear hub t) (stands : Stands hub t p)
    (apart : ∀ phase id, p.visit? = some (phase, id) → id ∉ p.todo)
    (finished : p.visit? = none → p.todo = [])
    (respects : Respects t (.taken step hub now event))
    (idle : FindsIdle t (.taken step hub now event)) :
    ∃ p', Leads t (.taken step hub now event) p p' := by
  by_cases about : ∃ id event', event = .engine id event' ∧ event'.ticket? = some t
  · obtain ⟨id, event', rfl, about⟩ := about
    have inspected := respects.own id event' rfl about
    cases visit : p.visit? with
    | none =>
        simp only [Stands, visit] at stands
        simp [Moment.taken, inspected?, stands] at inspected
    | some at_ =>
        obtain ⟨phase, u⟩ := at_
        simp only [Stands, visit] at stands
        obtain ⟨inspecting, e, here, visiting⟩ := stands
        obtain rfl : u = id := by
          simpa [Moment.taken, inspected?, inspecting] using inspected
        have same : p = ⟨some (phase, u), p.todo⟩ := by rw [← visit]
        rw [same]
        exact leads_of_visiting clear inspecting here visiting about
          (apart phase u visit) idle
  · have other (id : EngineId) (event' : Engine.Event)
        (same : event = .engine id event') :
        event'.ticket? ≠ some t := fun ticket => about ⟨id, event', same, ticket⟩
    refine ⟨p, leads_of_aside clear stands
      (aside_step clear respects.sole respects.unopened other) ?_ ?_ ?_ finished⟩
    · intro id inspected
      refine (respects.kept id inspected).resolve_left ?_
      rintro ⟨event', same, ticket⟩
      exact other id event' same ticket
    · intro id resolves
      obtain ⟨r, same, -⟩ := resolves
      exact other id _ same rfl
    · apply Bool.eq_false_iff.mpr
      intro answered
      obtain ⟨id, event', same, ticket, -⟩ := about_of_answered answered
      exact other id event' same ticket

end
end Hub
end MeshReadings
