import MeshReadings.Proofs.Hub.Routing

/-!
Openings that fail. One that fails while its attribute is resolved has touched no route.
One that fails when its key is to be listened to has routed the key to its engine by then,
over whatever engine had it, and in the end removes the route instead of putting the
former one back.
-/

namespace MeshReadings
namespace Hub

/-- How far the opening of an engine has come, and where a key is routed meanwhile. -/
inductive Attempting (start : Hub) (t : Ticket) (spec : Spec) (key : Key) (hub : Hub) :
    Prop
  | resolving (opening : hub.opening? t = some (.resolving spec))
      (kept : hub.route? key = start.route? key)
  | listening {id : EngineId} {e : Engine}
      (opening : hub.opening? t = some (.listening id))
      (here : hub.engine? id = some e) (own : e.key = spec.key)
      (routed : hub.route? key = if key = spec.key then some id else start.route? key)

/-- Only the opening itself, if anybody, touches the routes of a key. -/
def Leaves (t : Ticket) (key : Key) (m : Moment) : Prop :=
  (∃ r, m.event = .reply t r) ∨ ∀ id, ¬ Touches m key id

section
variable (h : Hub) (now : Nat) {t u : Ticket} {f : Fault}

theorem not_finish_calls (key : Key) (fs : List Engine.Effect) (o : Outcome) :
    .finish t o ∉ calls key fs := by
  induction fs with
  | nil => exact List.not_mem_nil
  | cons first rest ih => cases first <;> simp [calls, ih]

theorem not_fault_visit (ids : List EngineId) :
    .finish t (.fault f) ∉ (h.visit now u ids).2 := by
  induction ids generalizing h with
  | nil => simp [visit]
  | cons id rest ih =>
      simp only [visit]
      split
      · exact ih h
      · split
        · exact ih h
        · split
          · exact not_finish_calls _ _ _
          · exact ih _

theorem not_fault_resume (i : Inspection) (o : Engine.Outcome) :
    .finish t (.fault f) ∉ (h.resume now u i o).2 := by
  simp only [resume]
  split
  · exact not_finish_calls _ _ _
  · exact h.not_fault_visit now i.rest

theorem not_fault_absorb (channel : String) (key : Key) (fs : List Engine.Effect) :
    .finish t (.fault f) ∉ (h.absorb now channel key fs).2 := by
  induction fs generalizing h with
  | nil => exact List.not_mem_nil
  | cons first rest ih =>
      cases first with
      | call _ _ | publish _ => simp [absorb, absorb.before, ih]
      | unroute => exact ih _
      | finish v o =>
          simp only [absorb]
          split
          · simp [absorb.before, ih]
          · simp [absorb.before, ih, not_fault_resume]

theorem not_fault_stepEngine (id : EngineId) (event : Engine.Event) :
    .finish t (.fault f) ∉ (h.stepEngine now id event).2 := by
  simp only [stepEngine]
  split
  · exact List.not_mem_nil
  · exact not_fault_absorb _ now _ _ _

/-- An opening fails when the gateway answers it with a fault. -/
theorem event_of_fault {event : Event}
    (failed : .finish t (.fault f) ∈ (h.step now event).2) :
    event = .reply t (.fault f) := by
  cases event with
  | openEngine u spec =>
      simp only [step] at failed
      split at failed <;> simp at failed
  | engine id event => exact absurd failed (h.not_fault_stepEngine now id event)
  | deliver event =>
      simp only [step, deliver] at failed
      split at failed
      · simp at failed
      · exact absurd failed (h.not_fault_stepEngine now _ _)
  | inspect u ids =>
      simp only [step] at failed
      split at failed
      · simp at failed
      · exact absurd failed (h.not_fault_visit now ids)
  | reply u r =>
      have told {g : Fault}
          (failed : Effect.finish t (.fault f) ∈ [.finish u (.fault g)]) :
          Event.reply u (.fault g) = .reply t (.fault f) := by
        cases List.mem_singleton.mp failed
        rfl
      simp only [step, replyOpening] at failed
      split at failed
      · simp at failed
      · exact told failed
      · split at failed <;> simp at failed
      · exact told failed
      · simp at failed

end

section
variable {start hub : Hub} {now : Nat} {event : Event} {t : Ticket} {spec : Spec}
  {key : Key}

/-- An opening stays as it is until the gateway answers it. -/
theorem opening?_unanswered {o : Opening} (opening : hub.opening? t = some o)
    (other : ∀ r, event ≠ .reply t r) : (hub.step now event).1.opening? t = some o := by
  have kept {s : Step} (openings : s.1.openings = hub.openings) :
      s.1.opening? t = some o := by
    rwa [opening?, openings]
  cases event with
  | openEngine u spec =>
      simp only [step]
      split
      · exact opening
      · next free =>
          have apart : t ≠ u := by
            rintro rfl
            simp [opening] at free
          rwa [opening?_putOpening, if_neg apart]
  | engine id event => exact kept (openings_stepEngine ..)
  | deliver event =>
      simp only [step, deliver]
      split
      · exact opening
      · exact kept (openings_stepEngine ..)
  | inspect u ids =>
      simp only [step]
      split
      · exact opening
      · exact kept (openings_visit ..)
  | reply u r =>
      have apart : t ≠ u := by
        rintro rfl
        exact other r rfl
      have dropped {hub' : Hub} (openings : hub'.openings = hub.openings) :
          (hub'.dropOpening u).opening? t = some o := by
        rwa [opening?_dropOpening, if_neg apart, opening?, openings]
      cases asked : hub.opening? u with
      | none => rwa [step_reply_of_none asked]
      | some a =>
          simp only [step, replyOpening, asked]
          split
          · contradiction
          · exact dropped rfl
          · split
            · exact dropped rfl
            · rwa [opening?_putOpening, if_neg apart]
          · apply dropped
            simp only [unrouteEngine]
            split <;> rfl
          · exact dropped rfl

/-- Events of a key that is routed nowhere are dropped. -/
theorem deliver_of_unrouted (unrouted : hub.route? key = none) (now : Nat) (raw : Raw) :
    hub.deliver now ⟨key, raw⟩ = (hub, []) := by
  simp [deliver, unrouted]

/-- The second answer is the last. -/
theorem opening?_listened {id : EngineId}
    (opening : hub.opening? t = some (.listening id)) (r : Reply) :
    (hub.step now (.reply t r)).1.opening? t = none := by
  cases r <;> simp [step, replyOpening, opening]

/-- The first answer ends an opening or routes the key to its engine. -/
theorem Attempting.resolved {r : Reply}
    (opening : hub.opening? t = some (.resolving spec))
    (kept : hub.route? key = start.route? key)
    (busy : (hub.step now (.reply t r)).1.opening? t ≠ none) :
    Attempting start t spec key (hub.step now (.reply t r)).1 := by
  have sound : ∀ f, r ≠ .fault f := by
    rintro f rfl
    simp [step, replyOpening, opening] at busy
  cases opened : Engine.ofSpec? spec with
  | none => cases r <;> simp [step, replyOpening, opening, opened] at busy
  | some e =>
      have own : e.key = spec.key := by
        obtain ⟨c, -, rfl⟩ := Option.map_eq_some_iff.mp opened
        rfl
      have stepped : (hub.step now (.reply t r)).1 = _ :=
        step_resolved sound opening opened
      have begun : (hub.step now (.reply t r)).1.opening? t =
          some (.listening hub.engines.length) := by
        simp [stepped]
      have new : (hub.step now (.reply t r)).1.engine? hub.engines.length = some e := by
        simp [stepped, putOpening, register, engine?]
      refine .listening begun new own ?_
      rw [stepped, route?_putOpening, route?_register, own]
      split
      · rfl
      · exact kept

/-- An opening that goes on has its key routed to its engine as soon as there is one. -/
theorem Attempting.step (attempting : Attempting start t spec key hub)
    (leaves : Leaves t key (.taken step hub now event))
    (busy : (hub.step now event).1.opening? t ≠ none) :
    Attempting start t spec key (hub.step now event).1 := by
  by_cases answered : ∃ r, event = .reply t r
  · obtain ⟨r, rfl⟩ := answered
    cases attempting with
    | resolving opening kept => exact .resolved opening kept busy
    | listening opening => exact absurd (opening?_listened opening r) busy
  · have other : ∀ r, event ≠ .reply t r := fun r same => answered ⟨r, same⟩
    have same := hub.route?_untouched now key (leaves.resolve_left answered)
    cases attempting with
    | resolving opening kept =>
        exact .resolving (opening?_unanswered opening other) (same.trans kept)
    | listening opening here own routed =>
        obtain ⟨e', here', key', -⟩ := hub.retains_step now event _ _ here
        exact .listening (opening?_unanswered opening other) here' (key'.trans own)
          (same.trans routed)

theorem attempting_of_run {h : History} (fresh : start.opening? t = none)
    (run : Run Hub.step (start.step now (.openEngine t spec)).1 h hub)
    (busy : ∀ m ∈ h, m.after.opening? t ≠ none) (leaves : ∀ m ∈ h, Leaves t key m) :
    Attempting start t spec key hub := by
  induction run with
  | nil =>
      have begins : (start.step now (.openEngine t spec)).1 =
          start.putOpening t (.resolving spec) := by
        simp [Hub.step, fresh]
      rw [begins]
      exact .resolving (by simp) rfl
  | @snoc h hub run later event ih =>
      obtain ⟨busy, still⟩ := List.forall_mem_append.mp busy
      obtain ⟨leaves, spares⟩ := List.forall_mem_append.mp leaves
      exact (ih busy leaves).step (spares _ (List.mem_singleton_self _))
        (still _ (List.mem_singleton_self _))

/-- An opening that fails while its attribute is resolved leaves a key routed as it was,
as long as nobody else touches the key meanwhile. One that fails when it is to be listened
to leaves its own key routed nowhere, and all others as they were. So every key is back
where it was exactly if the failure came first or the key was free. -/
theorem failed_opening_restores_iff_free {h : History} {f : Fault} (key : Key)
    (fresh : start.opening? t = none)
    (run : Run Hub.step (start.step now (.openEngine t spec)).1 h hub)
    (busy : ∀ m ∈ h, m.after.opening? t ≠ none) (leaves : ∀ m ∈ h, Leaves t key m)
    (later : Nat) (failed : .finish t (.fault f) ∈ (hub.step later event).2) :
    let hub' := (hub.step later event).1
    let resolving := hub.opening? t = some (.resolving spec)
    (resolving → hub'.route? key = start.route? key) ∧
    (¬ resolving → (∃ id, hub.opening? t = some (.listening id)) ∧
      hub'.route? key = if key = spec.key then none else start.route? key) ∧
    (hub'.route? key = start.route? key ↔
      resolving ∨ key ≠ spec.key ∨ start.route? key = none) := by
  obtain rfl := hub.event_of_fault later failed
  cases attempting_of_run fresh run busy leaves with
  | resolving opening kept =>
      have same :
          (hub.step later (.reply t (.fault f))).1.route? key = start.route? key := by
        simpa [Hub.step, replyOpening, opening] using kept
      exact ⟨fun _ => same, fun late => absurd opening late,
        iff_of_true same (.inl opening)⟩
  | @listening id e opening here own routed =>
      have late : hub.opening? t ≠ some (.resolving spec) := by simp [opening]
      have left : (hub.step later (.reply t (.fault f))).1.route? key =
          if key = spec.key then none else start.route? key := by
        by_cases mine : key = spec.key
        · simp [Hub.step, replyOpening, opening, unrouteEngine, here, own, mine]
        · simpa [Hub.step, replyOpening, opening, unrouteEngine, here, own, mine]
            using routed
      refine ⟨fun early => absurd early late, fun _ => ⟨⟨id, opening⟩, left⟩, ?_⟩
      simp only [left, late, false_or]
      by_cases mine : key = spec.key
      · simp [mine, eq_comm]
      · simp [mine]

end

/-- The hall sensor has an engine. -/
def opened : List (Nat × Event) :=
  [(0, .openEngine 0 Engine.hallSensor), (0, .reply 0 .ok), (0, .reply 0 .ok)]

/-- It is to have a second one, whose opening comes as far as listening. -/
def landing : Spec := { Engine.hallSensor with channel := "landing" }

def resolved : List (Nat × Event) := [(2, .reply 1 .ok)]

/-- The second opening fails, and nobody takes the events of the sensor any more. -/
theorem failed_opening_silences_first :
    let start := (play step empty opened).2
    let (h, hub) := play step (start.step 1 (.openEngine 1 landing)).1 resolved
    let hub' := (hub.step 3 (.reply 1 (.fault .gatewayClosed))).1
    start.opening? 1 = none ∧ Run step (start.step 1 (.openEngine 1 landing)).1 h hub ∧
      (∀ m ∈ h, m.after.opening? 1 ≠ none) ∧ (∀ m ∈ h, Leaves 1 landing.key m) ∧
      .finish 1 (.fault .gatewayClosed) ∈
        (hub.step 3 (.reply 1 (.fault .gatewayClosed))).2 ∧
      start.route? landing.key = some 0 ∧ hub'.route? landing.key = none ∧
      ∀ now raw, hub'.deliver now ⟨landing.key, raw⟩ = (hub', []) := by
  let start := (play step empty opened).2
  let here := play step (start.step 1 (.openEngine 1 landing)).1 resolved
  have fresh : start.opening? 1 = none := rfl
  have run : Run step (start.step 1 (.openEngine 1 landing)).1 here.1 here.2 :=
    Run.nil.append_play resolved
  have busy : ∀ m ∈ here.1, m.after.opening? 1 ≠ none := by
    intro m member
    cases List.mem_singleton.mp member
    exact Option.some_ne_none (Opening.listening 1)
  have leaves : ∀ m ∈ here.1, Leaves 1 landing.key m := by
    intro m member
    cases List.mem_singleton.mp member
    exact .inl ⟨.ok, rfl⟩
  have failed : .finish 1 (.fault .gatewayClosed) ∈
      (here.2.step 3 (.reply 1 (.fault .gatewayClosed))).2 :=
    List.mem_cons_self
  obtain ⟨-, late, -⟩ :=
    failed_opening_restores_iff_free landing.key fresh run busy leaves 3 failed
  have silent := (late nofun).2
  rw [if_pos rfl] at silent
  exact ⟨fresh, run, busy, leaves, failed, rfl, silent, deliver_of_unrouted silent⟩

end Hub
end MeshReadings
