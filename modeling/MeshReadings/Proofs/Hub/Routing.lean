import MeshReadings.Proofs.Hub.Frame
import MeshReadings.Proofs.Run

/-!
Which engine takes the events of a key. Engines are routed to by key alone: one that is
opened takes the key over from whatever engine had it, and one that is given up or
disposed leaves the key routed nowhere. So an engine takes the events of its key for as
long as it has the key for itself.
-/

namespace MeshReadings
namespace Hub

abbrev Moment := MeshReadings.Moment Hub Event Effect

abbrev History := List Moment

/-- A key is resolved and routed to its new engine. -/
def Registers (m : Moment) (key : Key) (id : EngineId) : Prop :=
  ∃ t r spec e, m.event = .reply t r ∧ (∀ f, r ≠ .fault f) ∧
    m.before.opening? t = some (.resolving spec) ∧
    Engine.ofSpec? spec = some e ∧ e.key = key ∧ id = m.before.engines.length

/-- The gateway says whether it listens for a new engine. -/
def Answers (m : Moment) (id : EngineId) (r : Reply) : Prop :=
  ∃ t, m.event = .reply t r ∧ m.before.opening? t = some (.listening id)

def Opens (m : Moment) (id : EngineId) : Prop := ∃ r, (∀ f, r ≠ .fault f) ∧ Answers m id r

/-- An engine was opened with success. -/
def Opened (h : History) (id : EngineId) : Prop := ∃ m ∈ h, Opens m id

/-- The opening of an engine fails after its key was routed. -/
def GivesUp (m : Moment) (id : EngineId) : Prop := ∃ f, Answers m id (.fault f)

def Disposes (m : Moment) (id : EngineId) : Prop :=
  ∃ event t e, m.event = .engine id event ∧ m.before.engine? id = some e ∧
    e.disposed = false ∧ Engine.begins? e event t = some .dispose

/-- An engine with the key is opened, given up or disposed. -/
def Touches (m : Moment) (key : Key) (id : EngineId) : Prop :=
  Registers m key id ∨
  (GivesUp m id ∨ Disposes m id) ∧ ∃ e, m.before.engine? id = some e ∧ e.key = key

section
variable (hub : Hub) (now : Nat) (key : Key)

theorem unroute_mem_iff (e : Engine) (event : Engine.Event) :
    .unroute ∈ (e.step now event).2 ↔
      e.disposed = false ∧ ∃ t, Engine.begins? e event t = some .dispose := by
  constructor
  · intro unroutes
    obtain ⟨live, t, rfl, fresh⟩ := (Engine.step_move e now event).unroutes unroutes
    exact ⟨live, t, Engine.begins?_start fresh _⟩
  · intro both
    obtain ⟨live, t, begins⟩ := both
    cases event with
    | start u r =>
        simp only [Engine.begins?, Option.ite_none_right_eq_some,
          Option.some.injEq] at begins
        obtain ⟨⟨rfl, fresh⟩, rfl⟩ := begins
        simp [Engine.step, Engine.start, fresh, live]
    | _ => cases begins

theorem stepEngine_none {id : EngineId} (none : hub.engine? id = none)
    (event : Engine.Event) : hub.stepEngine now id event = (hub, []) := by
  simp [stepEngine, none]

theorem route?_stepEngine {id : EngineId} {e : Engine} (here : hub.engine? id = some e)
    (event : Engine.Event) :
    (hub.stepEngine now id event).1.route? key =
      if .unroute ∈ (e.step now event).2 ∧ key = e.key then none else hub.route? key := by
  have same : (e.step now event).1.key = e.key := (Engine.step_move e now event).key
  simp only [stepEngine, here, route?_absorb, route?_setEngine, same]

theorem route?_untouched {event : Event}
    (untouched : ∀ id, ¬ Touches (.taken step hub now event) key id) :
    (hub.step now event).1.route? key = hub.route? key := by
  cases event with
  | openEngine t spec =>
      simp only [step]
      split <;> rfl
  | inspect t ids =>
      simp only [step]
      split
      · rfl
      · exact hub.route?_visit key now t ids
  | deliver event =>
      simp only [step, deliver]
      split
      · rfl
      · next id route =>
          cases here : hub.engine? id with
          | none => rw [stepEngine_none hub now here]
          | some e =>
              have kept : .unroute ∉ (e.step now (.notify event.raw)).2 := by
                rw [unroute_mem_iff]
                intro both
                obtain ⟨-, t, begins⟩ := both
                cases begins
              rw [hub.route?_stepEngine now key here, if_neg (fun both => kept both.1)]
  | engine id event =>
      simp only [step]
      cases here : hub.engine? id with
      | none => rw [stepEngine_none hub now here]
      | some e =>
          rw [hub.route?_stepEngine now key here, if_neg]
          intro both
          obtain ⟨unroutes, same⟩ := both
          obtain ⟨live, t, begins⟩ := (unroute_mem_iff now e event).mp unroutes
          exact untouched id
            (.inr ⟨.inr ⟨event, t, e, rfl, here, live, begins⟩, e, here, same.symm⟩)
  | reply t r =>
      simp only [step, replyOpening]
      split
      · rfl
      · rfl
      · next spec opening sound =>
          split
          · rfl
          · next e opened =>
              have other : key ≠ e.key := by
                intro same
                exact untouched _
                  (.inl ⟨t, _, spec, e, rfl, sound, opening, opened, same.symm, rfl⟩)
              rw [route?_putOpening, route?_register, if_neg other]
              rfl
      · next id f opening =>
          simp only [unrouteEngine]
          split
          · rfl
          · next e here =>
              have other : key ≠ e.key := by
                intro same
                exact untouched id (.inr ⟨.inl ⟨f, t, rfl, opening⟩, e, here, same.symm⟩)
              rw [route?_dropOpening, route?_unregister, if_neg other]
      · rfl

variable {hub now key} {event : Event} {id : EngineId}

theorem step_resolved {t : Ticket} {r : Reply} {spec : Spec} {e : Engine}
    (sound : ∀ f, r ≠ .fault f) (opening : hub.opening? t = some (.resolving spec))
    (opened : Engine.ofSpec? spec = some e) :
    (hub.step now (.reply t r)).1 =
      ({ hub with engines := hub.engines ++ [e] }.register e.key
        hub.engines.length).putOpening t (.listening hub.engines.length) := by
  cases r with
  | fault f => exact absurd rfl (sound f)
  | _ => simp [step, replyOpening, opening, opened]

theorem route?_registered (registers : Registers (.taken step hub now event) key id) :
    (hub.step now event).1.route? key = some id := by
  obtain ⟨t, r, spec, e, rfl, sound, opening, opened, rfl, rfl⟩ := registers
  dsimp only [Moment.taken] at opening ⊢
  rw [step_resolved sound opening opened, route?_putOpening, route?_register, if_pos rfl]

theorem route?_abandoned
    (leaves : GivesUp (.taken step hub now event) id ∨
      Disposes (.taken step hub now event) id)
    {e : Engine} (here : hub.engine? id = some e) :
    (hub.step now event).1.route? e.key = none := by
  rcases leaves with ⟨f, t, rfl, opening⟩ | ⟨event, t, e', rfl, here', live, begins⟩
  · dsimp only [Moment.taken] at opening
    simp [step, replyOpening, opening, unrouteEngine, here]
  · cases here.symm.trans here'
    have unroutes := (unroute_mem_iff now e event).mpr ⟨live, t, begins⟩
    simp only [step]
    rw [hub.route?_stepEngine now e.key here, if_pos ⟨unroutes, rfl⟩]

theorem route?_step : (hub.step now event).1.route? key = some id ↔
    Registers (.taken step hub now event) key id ∨
      hub.route? key = some id ∧
      ∀ other, ¬ Touches (.taken step hub now event) key other := by
  constructor
  · intro route
    by_cases untouched : ∀ other, ¬ Touches (.taken step hub now event) key other
    · rw [hub.route?_untouched now key untouched] at route
      exact Or.inr ⟨route, untouched⟩
    · simp only [Classical.not_forall, Classical.not_not] at untouched
      obtain ⟨other, registers | ⟨leaves, e, here, rfl⟩⟩ := untouched
      · rw [route?_registered registers] at route
        cases route
        exact Or.inl registers
      · rw [route?_abandoned leaves here] at route
        contradiction
  · intro either
    obtain registers | ⟨route, untouched⟩ := either
    · exact route?_registered registers
    · rw [hub.route?_untouched now key untouched]
      exact route

/-- An engine that is listened to after a step was so before and was not answered, or it
is new. -/
theorem listening_step {t : Ticket}
    (listening : (hub.step now event).1.opening? t = some (.listening id)) :
    hub.opening? t = some (.listening id) ∧ (∀ r, event ≠ .reply t r) ∨
      id = hub.engines.length ∧
        ∃ r key, event = .reply t r ∧ Registers (.taken step hub now event) key id := by
  have kept {s : Step} (openings : s.1.openings = hub.openings)
      (after : s.1.opening? t = some (.listening id)) :
      hub.opening? t = some (.listening id) := by
    rwa [opening?, openings] at after
  cases event with
  | openEngine u spec =>
      simp only [step] at listening
      split at listening
      · exact Or.inl ⟨listening, by simp⟩
      · rw [opening?_putOpening] at listening
        split at listening
        · cases listening
        · exact Or.inl ⟨listening, by simp⟩
  | engine id event => exact Or.inl ⟨kept (openings_stepEngine ..) listening, by simp⟩
  | deliver event =>
      simp only [step, deliver] at listening
      split at listening
      · exact Or.inl ⟨listening, by simp⟩
      · exact Or.inl ⟨kept (openings_stepEngine ..) listening, by simp⟩
  | inspect u ids =>
      simp only [step] at listening
      split at listening
      · exact Or.inl ⟨listening, by simp⟩
      · exact Or.inl ⟨kept (openings_visit ..) listening, by simp⟩
  | reply u r =>
      have spared (other : t ≠ u) (r' : Reply) : Event.reply u r ≠ .reply t r' := by
        intro same
        exact other (Event.reply.inj same).1.symm
      have dropped {hub' : Hub} (openings : hub'.openings = hub.openings)
          (after : (hub'.dropOpening u).opening? t = some (.listening id)) :
          hub.opening? t = some (.listening id) ∧
          ∀ r', Event.reply u r ≠ .reply t r' := by
        rw [opening?_dropOpening] at after
        split at after
        · contradiction
        · next other =>
            rw [opening?, openings] at after
            exact ⟨after, spared other⟩
      simp only [step, replyOpening] at listening
      split at listening
      · next none =>
          refine Or.inl ⟨listening, spared fun same => ?_⟩
          subst same
          cases none.symm.trans listening
      · exact Or.inl (dropped rfl listening)
      · next spec opening sound =>
          split at listening
          · exact Or.inl (dropped rfl listening)
          · next e opened =>
              rw [opening?_putOpening] at listening
              split at listening
              · next same =>
                  cases listening
                  subst same
                  exact Or.inr ⟨rfl, _, e.key, rfl, t, _, spec, e, rfl, sound, opening,
                    opened, rfl, rfl⟩
              · next other => exact Or.inl ⟨listening, spared other⟩
      · refine Or.inl (dropped ?_ listening)
        simp only [unrouteEngine]
        split <;> rfl
      · exact Or.inl (dropped rfl listening)

/-- What the openings of a hub and its history have to do with each other. -/
structure Orderly (h : History) (hub : Hub) : Prop where
  pending : ∀ t id, hub.opening? t = some (.listening id) → id < hub.engines.length ∧
    (∀ u, hub.opening? u = some (.listening id) → u = t) ∧ ∀ m ∈ h, ∀ r, ¬ Answers m id r
  answered : ∀ m ∈ h, ∀ id r, Answers m id r → id < hub.engines.length
  registered : ∀ m ∈ h, ∀ key id, Registers m key id → id < hub.engines.length
  disposed : ∀ m ∈ h, ∀ id, Disposes m id →
      ∃ e, hub.engine? id = some e ∧ e.disposed = true
  once : ∀ id, Opened h id → ∀ m ∈ h, ¬ GivesUp m id

theorem disposed_after (disposes : Disposes (.taken step hub now event) id) :
    ∃ e, (hub.step now event).1.engine? id = some e ∧ e.disposed = true := by
  obtain ⟨event, t, e, rfl, here, -, begins⟩ := disposes
  dsimp only [Moment.taken] at here
  have gone : (e.step now event).1.disposed = true := Engine.disposed_of_begins begins
  have set :
      (hub.setEngine id (e.step now event).1).engine? id = some (e.step now event).1 := by
    have bound := (List.getElem?_eq_some_iff.mp here).1
    simp [setEngine, engine?, bound]
  obtain ⟨e', here', -, kept⟩ :=
    retains_absorb _ now (e.step now event).1.channel (e.step now event).1.key
      (e.step now event).2 id _ set
  refine ⟨e', ?_, kept gone⟩
  simpa only [step, stepEngine, here] using here'

theorem registered_lt (registers : Registers (.taken step hub now event) key id) :
    id < (hub.step now event).1.engines.length := by
  obtain ⟨t, r, spec, e, rfl, sound, opening, opened, -, rfl⟩ := registers
  dsimp only [Moment.taken] at opening ⊢
  rw [step_resolved sound opening opened]
  simp [putOpening, register]

section
variable {h : History}

theorem pending_step (inv : Orderly h hub) {t : Ticket}
    (listening : (hub.step now event).1.opening? t = some (.listening id)) :
    id < (hub.step now event).1.engines.length ∧
      (∀ u, (hub.step now event).1.opening? u = some (.listening id) → u = t) ∧
      ∀ m ∈ h ++ [.taken step hub now event], ∀ r, ¬ Answers m id r := by
  have grows := (hub.retains_step now event).length_le
  obtain ⟨before, unanswered⟩ | ⟨new, r, key, answer, registers⟩ :=
    listening_step listening
  · obtain ⟨bound, alone, silent⟩ := inv.pending t id before
    refine ⟨Nat.lt_of_lt_of_le bound grows, fun u listening' => ?_,
      fun m member r answers => ?_⟩
    · obtain ⟨before', -⟩ | ⟨new, -⟩ := listening_step listening'
      · exact alone u before'
      · exact absurd new (Nat.ne_of_lt bound)
    · rcases List.mem_append.mp member with earlier | latest
      · exact silent m earlier r answers
      · rw [List.mem_singleton.mp latest] at answers
        obtain ⟨u, answer, listening'⟩ := answers
        rw [alone u listening'] at answer
        exact unanswered r answer
  · refine ⟨registered_lt registers, fun u listening' => ?_,
      fun m member r' answers => ?_⟩
    · obtain ⟨before', -⟩ | ⟨-, r', -, answer', -⟩ := listening_step listening'
      · exact absurd new (Nat.ne_of_lt (inv.pending u id before').1)
      · exact (Event.reply.inj (answer'.symm.trans answer)).1
    · rcases List.mem_append.mp member with earlier | latest
      · exact absurd new (Nat.ne_of_lt (inv.answered m earlier id r' answers))
      · rw [List.mem_singleton.mp latest] at answers
        obtain ⟨u, -, listening'⟩ := answers
        exact absurd new (Nat.ne_of_lt (inv.pending u id listening').1)

theorem orderly_step (inv : Orderly h hub) :
    Orderly (h ++ [.taken step hub now event]) (hub.step now event).1 := by
  have retains := hub.retains_step now event
  have answered_before {id : EngineId} {r : Reply}
      (answers : Answers (.taken step hub now event) id r) :
      id < hub.engines.length ∧ ∀ m ∈ h, ∀ r, ¬ Answers m id r := by
    obtain ⟨t, -, listening⟩ := answers
    obtain ⟨bound, -, silent⟩ := inv.pending t id listening
    exact ⟨bound, silent⟩
  refine ⟨fun t id => pending_step inv, ?_, ?_, ?_, ?_⟩ <;>
    simp only [Opened, List.mem_append, List.mem_singleton]
  · intro m member id r answers
    obtain earlier | rfl := member
    · exact Nat.lt_of_lt_of_le (inv.answered m earlier id r answers) retains.length_le
    · exact Nat.lt_of_lt_of_le (answered_before answers).1 retains.length_le
  · intro m member key id registers
    obtain earlier | rfl := member
    · exact Nat.lt_of_lt_of_le (inv.registered m earlier key id registers)
        retains.length_le
    · exact registered_lt registers
  · intro m member id disposes
    obtain earlier | rfl := member
    · obtain ⟨e, here, gone⟩ := inv.disposed m earlier id disposes
      obtain ⟨e', here', -, kept⟩ := retains id e here
      exact ⟨e', here', kept gone⟩
    · exact disposed_after disposes
  · rintro id ⟨m, earlier | rfl, r, sound, answers⟩ m' (earlier' | rfl) ⟨f, failure⟩
    · exact inv.once id ⟨m, earlier, r, sound, answers⟩ m' earlier' ⟨f, failure⟩
    · exact (answered_before failure).2 m earlier r answers
    · exact (answered_before answers).2 m' earlier' _ failure
    · obtain ⟨t, event, -⟩ := answers
      obtain ⟨t', event', -⟩ := failure
      exact sound f (Event.reply.inj (event.symm.trans event')).2

theorem orderly (run : Run step empty h hub) : Orderly h hub := by
  induction run with
  | nil => exact ⟨by simp [empty, opening?], by simp, by simp, by simp, by simp⟩
  | snoc run now event ih => exact orderly_step ih

end

end

section
variable {h : History} {hub : Hub} {key : Key} {id : EngineId} {e : Engine}

theorem route?_eq_some_iff (run : Run step empty h hub) : hub.route? key = some id ↔
    Since (fun _ m => Registers m key id)
      (fun m => ∀ other, ¬ Touches m key other) h := by
  induction run with
  | nil => simp [empty, route?, not_since_nil]
  | snoc run now event ih => rw [since_snoc, route?_step, ih]

/-- Since an engine was routed to, no other engine with its key was opened, given up or
disposed. -/
def Undisturbed (h : History) (key : Key) (id : EngineId) : Prop :=
  Since (fun _ m => Registers m key id)
    (fun m => ∀ other, other ≠ id → ¬ Touches m key other) h

theorem untouched_by_itself {h₁ h₂ : History} {m m' : Moment}
    (run : Run step empty (h₁ ++ m :: h₂) hub) (registers : Registers m key id)
    (here : hub.engine? id = some e) (live : e.disposed = false)
    (opened : Opened (h₁ ++ m :: h₂) id) (later : m' ∈ h₂) : ¬ Touches m' key id := by
  have inv := orderly run
  have member : m' ∈ h₁ ++ m :: h₂ := by simp [later]
  intro touches
  obtain again | ⟨gives | disposes, -⟩ := touches
  · obtain ⟨h₃, h₄, rfl⟩ := List.append_of_mem later
    rw [← List.cons_append, ← List.append_assoc] at run
    have bound := (orderly run.reaches_before.1).registered m (by simp) key id registers
    obtain ⟨-, -, -, -, -, -, -, -, -, rfl⟩ := again
    exact Nat.lt_irrefl _ bound
  · exact inv.once id opened m' member gives
  · obtain ⟨e', here', gone⟩ := inv.disposed m' member id disposes
    cases here.symm.trans here'
    rw [live] at gone
    contradiction

theorem engine?_notified {now : Nat} {raw : Raw} {other : EngineId}
    (different : other ≠ id) :
    (hub.stepEngine now other (.notify raw)).1.engine? id = hub.engine? id := by
  cases here : hub.engine? other with
  | none => rw [stepEngine_none hub now here]
  | some e =>
      have set : (hub.stepEngine now other (.notify raw)).1 =
          hub.setEngine other (e.step now (.notify raw)).1 := by
        simp only [stepEngine, here, Engine.step]
        cases (e.notice now raw).2 <;> rfl
      rw [set]
      exact List.getElem?_set_ne different

theorem route?_iff_undisturbed (run : Run step empty h hub)
    (here : hub.engine? id = some e) (live : e.disposed = false) (opened : Opened h id) :
    hub.route? e.key = some id ↔ Undisturbed h e.key id := by
  rw [route?_eq_some_iff run]
  constructor
  · intro since
    obtain ⟨h₁, m, h₂, split, registers, untouched⟩ := since
    exact ⟨h₁, m, h₂, split, registers, fun m' later other _ => untouched m' later other⟩
  · intro since
    obtain ⟨h₁, m, h₂, rfl, registers, untouched⟩ := since
    refine ⟨h₁, m, h₂, rfl, registers, fun m' later other => ?_⟩
    by_cases same : other = id
    · exact same ▸ untouched_by_itself run registers here live opened later
    · exact untouched m' later other same

/-- A live engine that was opened with success is handed the events of its key exactly as
long as no other engine with that key is opened, given up or disposed. -/
theorem takes_events_iff_undisturbed (run : Run step empty h hub)
    (here : hub.engine? id = some e) (live : e.disposed = false) (opened : Opened h id) :
    (hub.route? e.key = some id ↔ Undisturbed h e.key id) ∧
    (Undisturbed h e.key id →
      ∀ now raw, hub.deliver now ⟨e.key, raw⟩ = hub.stepEngine now id (.notify raw)) ∧
    (¬ Undisturbed h e.key id →
      ∀ now raw, (hub.deliver now ⟨e.key, raw⟩).1.engine? id = some e) := by
  have routed := route?_iff_undisturbed run here live opened
  refine ⟨routed, fun undisturbed now raw => ?_, fun disturbed now raw => ?_⟩
  · simp only [deliver, routed.mpr undisturbed]
  · simp only [deliver]
    split
    · exact here
    · next other route =>
        have different : other ≠ id := by
          intro same
          subst same
          exact disturbed (routed.mp route)
        rw [engine?_notified different]
        exact here

/-- Two engines of the hall sensor are opened, and then the first is disposed. -/
def sharedKey : List (Nat × Event) :=
  [(0, .openEngine 0 Engine.hallSensor), (0, .reply 0 .ok), (0, .reply 0 .ok),
    (1, .openEngine 1 { Engine.hallSensor with channel := "landing" }),
    (1, .reply 1 .ok), (1, .reply 1 .ok), (2, .engine 0 (.start 2 .dispose))]

theorem disposal_disturbs_shared_key :
    let (h, hub) := play step empty sharedKey
    ∃ e, Run step empty h hub ∧ hub.engine? 1 = some e ∧ e.disposed = false ∧ Opened h 1 ∧
      ∀ now raw, (hub.deliver now ⟨e.key, raw⟩).1.engine? 1 = some e := by
  have run : Run step empty (play step empty sharedKey).1 (play step empty sharedKey).2 :=
    Run.nil.append_play sharedKey
  have opened : Opened (play step empty sharedKey).1 1 :=
    ⟨_, List.mem_of_getElem? (i := 5) rfl, .ok, by simp, 1, rfl, rfl⟩
  have unrouted : (play step empty sharedKey).2.route? Engine.hallSensor.key = none := rfl
  have here : (play step empty sharedKey).2.engine? 1 = some _ := rfl
  obtain ⟨routed, -, elsewhere⟩ := takes_events_iff_undisturbed run here rfl opened
  refine ⟨_, run, here, rfl, opened, elsewhere fun undisturbed => ?_⟩
  cases unrouted.symm.trans (routed.mpr undisturbed)

theorem retains_run (run : Run step empty h hub) {m : Moment} (member : m ∈ h) :
    Retains m.before hub ∧ Retains m.after hub := by
  induction run with
  | nil => simp at member
  | @snoc h hub run now event ih =>
      have retains := hub.retains_step now event
      rcases List.mem_append.mp member with earlier | latest
      · exact ⟨(ih earlier).1.trans retains, (ih earlier).2.trans retains⟩
      · rw [List.mem_singleton.mp latest]
        exact ⟨retains, .refl _⟩

theorem engine?_registered (run : Run step empty h hub) {m : Moment} (member : m ∈ h)
    (registers : Registers m key id) : ∃ e, hub.engine? id = some e ∧ e.key = key := by
  obtain ⟨h₁, h₂, rfl⟩ := List.append_of_mem member
  obtain ⟨-, taken⟩ := run.reaches_before
  obtain ⟨-, after⟩ := retains_run run member
  obtain ⟨t, r, spec, e, event, sound, opening, opened, rfl, rfl⟩ := registers
  have new : m.after.engine? m.before.engines.length = some e := by
    rw [taken, event]
    simp only [Moment.taken]
    rw [step_resolved sound opening opened]
    simp [putOpening, register, engine?]
  obtain ⟨e', here, same, -⟩ := after _ e new
  exact ⟨e', here, same⟩

theorem registered_of_listening (run : Run step empty h hub) {t : Ticket}
    (listening : hub.opening? t = some (.listening id)) :
    ∃ m ∈ h, ∃ key, Registers m key id := by
  induction run generalizing t with
  | nil => simp [empty, opening?] at listening
  | snoc run now event ih =>
      obtain ⟨before, -⟩ | ⟨-, r, key, -, registers⟩ := listening_step listening
      · obtain ⟨m, member, registered⟩ := ih before
        exact ⟨m, by simp [member], registered⟩
      · exact ⟨_, by simp, key, registers⟩

/-- A key is routed to an engine of that key. -/
theorem key_of_route? (run : Run step empty h hub) (route : hub.route? key = some id) :
    ∃ e, hub.engine? id = some e ∧ e.key = key := by
  obtain ⟨_, _, _, rfl, registers, -⟩ := (route?_eq_some_iff run).mp route
  exact engine?_registered run (by simp) registers

/-- Engines that share no keys keep them for themselves. -/
theorem route?_of_distinct_keys (run : Run step empty h hub)
    (distinct : ∀ i j a b, hub.engine? i = some a → hub.engine? j = some b →
      a.key = b.key → i = j)
    (here : hub.engine? id = some e) (live : e.disposed = false) (opened : Opened h id) :
    hub.route? e.key = some id := by
  have alone {m : Moment} (member : m ∈ h) {other : EngineId}
      (touches : Touches m e.key other) :
      other = id := by
    obtain registers | ⟨-, e', there, key⟩ := touches
    · obtain ⟨e', there, key⟩ := engine?_registered run member registers
      exact distinct other id e' e there here key
    · obtain ⟨e'', there', key', -⟩ := (retains_run run member).1 other e' there
      exact distinct other id e'' e there' here (key'.trans key)
  refine (route?_iff_undisturbed run here live opened).mpr ?_
  obtain ⟨m, member, r, -, t, -, listening⟩ := opened
  obtain ⟨h₁, h₂, rfl⟩ := List.append_of_mem member
  obtain ⟨m', member', key, registers⟩ :=
    registered_of_listening run.reaches_before.1 listening
  have member' : m' ∈ h₁ ++ m :: h₂ := by simp [member']
  obtain ⟨e', here', rfl⟩ := engine?_registered run member' registers
  cases here.symm.trans here'
  obtain ⟨h₃, h₄, split⟩ := List.append_of_mem member'
  refine ⟨h₃, m', h₄, split, registers,
    fun later follows other different touches => different ?_⟩
  exact alone (by rw [split]; simp [follows]) touches

/-- Engines that share no keys take all events of their own. -/
theorem takes_events_of_distinct_keys (run : Run step empty h hub)
    (distinct : ∀ i j a b, hub.engine? i = some a → hub.engine? j = some b →
      a.key = b.key → i = j)
    (here : hub.engine? id = some e) (live : e.disposed = false) (opened : Opened h id)
    (now : Nat) (raw : Raw) :
    hub.deliver now ⟨e.key, raw⟩ = hub.stepEngine now id (.notify raw) := by
  simp only [deliver, route?_of_distinct_keys run distinct here live opened]

end

end Hub
end MeshReadings
