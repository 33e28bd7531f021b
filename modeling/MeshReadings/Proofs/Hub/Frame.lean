import MeshReadings.Hub.Step
import MeshReadings.Proofs.Engine.Disposal

/-!
What the building blocks of the hub leave alone. Routes change only where keys are
registered or unregistered, openings only where one begins or is answered, and engines are
never forgotten, given another key or brought back once they are disposed.
-/

namespace MeshReadings

@[simp] theorem Engine.afterRead_key (e : Engine) (now : Nat) (t : Ticket)
    (p : Option Nat) : (e.afterRead now t p).1.key = e.key := by
  cases p <;> rfl

theorem Engine.Move.key {e : Engine} {now : Nat} {event : Engine.Event} {s : Engine.Step}
    (move : Engine.Move e now event s) : s.1.key = e.key := by
  cases move with
  | readSkipped | readNoted | readFailed | readOver => exact afterRead_key ..
  | _ => rfl

namespace Hub

section
variable (h : Hub) (key k : Key)

@[simp] theorem route?_setEngine (id : EngineId) (e : Engine) :
    (h.setEngine id e).route? k = h.route? k := rfl

@[simp] theorem route?_putOpening (t : Ticket) (o : Opening) :
    (h.putOpening t o).route? k = h.route? k :=
  rfl
@[simp] theorem route?_dropOpening (t : Ticket) :
    (h.dropOpening t).route? k = h.route? k :=
  rfl
@[simp] theorem route?_noteStale (c : String) (b : Bool) :
    (h.noteStale c b).route? k = h.route? k :=
  rfl

@[simp] theorem route?_startInspected (now : Nat) (t : Ticket) (e : Engine)
    (i : Inspection) (x : Engine.Exchange) :
    (h.startInspected now t e i x).1.route? k = h.route? k :=
  rfl

@[simp] theorem route?_unregister :
    (h.unregister key).route? k = if k = key then none else h.route? k := by
  split
  · next same => rw [same, route_unregister]
  · next other =>
      simp only [unregister, route?, find?_removed_of_ne other]

@[simp] theorem route?_register (id : EngineId) :
    (h.register key id).route? k = if k = key then some id else h.route? k := by
  split
  · next same => rw [same, route_register]
  · next other =>
      have rest := h.route?_unregister key k
      rw [if_neg other] at rest
      rw [← rest]
      simp [register, route?, Ne.symm other]

@[simp] theorem route?_visit (now : Nat) (t : Ticket) (ids : List EngineId) :
    (h.visit now t ids).1.route? k = h.route? k := by
  induction ids generalizing h with
  | nil => rfl
  | cons id rest ih =>
      simp only [visit]
      repeat' split
      all_goals simp [ih]

@[simp] theorem route?_resume (now : Nat) (t : Ticket) (i : Inspection)
    (o : Engine.Outcome) : (h.resume now t i o).1.route? k = h.route? k := by
  simp only [resume]
  split
  · rfl
  · exact h.route?_visit k now t i.rest

theorem route?_absorb (now : Nat) (channel : String) (fs : List Engine.Effect) :
    (h.absorb now channel key fs).1.route? k = if .unroute ∈ fs ∧ k = key then none
      else h.route? k := by
  induction fs generalizing h with
  | nil => simp [absorb]
  | cons f fs ih =>
      cases f with
      | call _ _ | publish _ => simp [absorb, absorb.before, ih]
      | unroute =>
          simp only [absorb, ih, route?_unregister]
          by_cases same : k = key <;> simp [same]
      | finish t o =>
          simp only [absorb]
          split <;> simp [absorb.before, ih]

end

section
variable (h : Hub) (now : Nat)

@[simp] theorem opening?_dropOpening (t u : Ticket) :
    (h.dropOpening t).opening? u = if u = t then none else h.opening? u := by
  split
  · next same => simp [dropOpening, opening?, same]
  · next other =>
      simp only [dropOpening, opening?, find?_removed_of_ne other]

@[simp] theorem opening?_putOpening (t : Ticket) (o : Opening) (u : Ticket) :
    (h.putOpening t o).opening? u = if u = t then some o else h.opening? u := by
  split
  · next same => simp [putOpening, opening?, same]
  · next other =>
      have rest := h.opening?_dropOpening t u
      rw [if_neg other] at rest
      rw [← rest]
      simp [putOpening, opening?, Ne.symm other]

theorem openings_visit (t : Ticket) (ids : List EngineId) :
    (h.visit now t ids).1.openings = h.openings := by
  induction ids generalizing h with
  | nil => rfl
  | cons id rest ih =>
      simp only [visit]
      repeat' split
      all_goals first | rfl | exact ih _

theorem openings_resume (t : Ticket) (i : Inspection) (o : Engine.Outcome) :
    (h.resume now t i o).1.openings = h.openings := by
  simp only [resume]
  split
  · rfl
  · exact h.openings_visit now t i.rest

theorem openings_absorb (channel : String) (key : Key) (fs : List Engine.Effect) :
    (h.absorb now channel key fs).1.openings = h.openings := by
  induction fs generalizing h with
  | nil => rfl
  | cons f fs ih =>
      cases f with
      | call _ _ | publish _ | unroute => exact ih _
      | finish t o =>
          simp only [absorb]
          split
          · exact ih _
          · exact (ih _).trans (h.openings_resume now t _ o)

theorem openings_stepEngine (id : EngineId) (event : Engine.Event) :
    (h.stepEngine now id event).1.openings = h.openings := by
  simp only [stepEngine]
  split
  · rfl
  · exact openings_absorb ..

end

/-- No engine is forgotten, gets another key or comes back from its disposal. -/
def Retains (h h' : Hub) : Prop :=
  ∀ id e, h.engine? id = some e →
    ∃ e', h'.engine? id = some e' ∧ e'.key = e.key ∧
      (e.disposed = true → e'.disposed = true)

section
variable {h h' h'' : Hub}

theorem Retains.of_engines (same : h'.engines = h.engines) : Retains h h' := by
  intro id e here
  exact ⟨e, by rwa [engine?, same], rfl, fun was => was⟩

theorem Retains.refl (h : Hub) : Retains h h := .of_engines rfl

theorem Retains.trans (first : Retains h h') (second : Retains h' h'') :
    Retains h h'' := by
  intro id e here
  obtain ⟨e', here', key, gone⟩ := first id e here
  obtain ⟨e'', here'', key', gone'⟩ := second id e' here'
  exact ⟨e'', here'', key'.trans key, fun was => gone' (gone was)⟩

theorem Retains.length_le (retains : Retains h h') :
    h.engines.length ≤ h'.engines.length := by
  rcases Nat.eq_zero_or_pos h.engines.length with none | some
  · omega
  · have last : h.engines.length - 1 < h.engines.length := by omega
    obtain ⟨e', here, -⟩ := retains _ _ (List.getElem?_eq_getElem last)
    have bound := (List.getElem?_eq_some_iff.mp here).1
    omega

theorem retains_setEngine {id : EngineId} {e e' : Engine} (here : h.engine? id = some e)
    (key : e'.key = e.key) (gone : e.disposed = true → e'.disposed = true) :
    Retains h (h.setEngine id e') := by
  intro other o there
  simp only [setEngine, engine?, List.getElem?_set] at *
  split
  · next same =>
      subst same
      rw [here] at there
      cases there
      have bound := (List.getElem?_eq_some_iff.mp here).1
      exact ⟨e', by simp [bound], key, gone⟩
  · exact ⟨o, there, rfl, fun was => was⟩

/-- A step of one of its engines is kept by the hub. -/
theorem retains_moved {id : EngineId} {e : Engine} (here : h.engine? id = some e)
    (now : Nat) (event : Engine.Event) :
    Retains h (h.setEngine id (e.step now event).1) := by
  have move := Engine.step_move e now event
  exact retains_setEngine here move.key fun was => (move.after_disposal was).1

theorem retains_startInspected {i : Inspection} {e : Engine}
    (here : h.engine? i.current = some e) (now : Nat) (t : Ticket) (x : Engine.Exchange) :
    Retains h (h.startInspected now t e i x).1 :=
  (retains_moved here now (.start t (.exchange x))).trans (.of_engines rfl)

end

section
variable (h : Hub) (now : Nat)

theorem retains_visit (t : Ticket) (ids : List EngineId) :
    Retains h (h.visit now t ids).1 := by
  induction ids generalizing h with
  | nil => exact .refl h
  | cons id rest ih =>
      simp only [visit]
      split
      · exact ih h
      · next here =>
          split
          · exact ih h
          · split
            · exact retains_startInspected here now t .reopen
            · exact (Retains.of_engines rfl).trans (ih (h.noteStale _ _))

theorem retains_resume (t : Ticket) (i : Inspection) (o : Engine.Outcome) :
    Retains h (h.resume now t i o).1 := by
  simp only [resume]
  split
  · next here => exact retains_startInspected here now t .activate
  · exact h.retains_visit now t i.rest

theorem retains_absorb (channel : String) (key : Key) (fs : List Engine.Effect) :
    Retains h (h.absorb now channel key fs).1 := by
  induction fs generalizing h with
  | nil => exact .refl h
  | cons f fs ih =>
      cases f with
      | call _ _ | publish _ => exact ih h
      | unroute => exact (Retains.of_engines rfl).trans (ih (h.unregister key))
      | finish t o =>
          simp only [absorb]
          split
          · exact ih h
          · exact (h.retains_resume now t _ o).trans (ih _)

theorem retains_stepEngine (id : EngineId) (event : Engine.Event) :
    Retains h (h.stepEngine now id event).1 := by
  simp only [stepEngine]
  split
  · exact .refl h
  · next here => exact (retains_moved here now event).trans (retains_absorb _ now _ _ _)

theorem retains_replyOpening (t : Ticket) (r : Reply) :
    Retains h (h.replyOpening t r).1 := by
  simp only [replyOpening]
  split
  · exact .refl h
  · exact .refl h
  · split
    · exact .refl h
    · intro id e here
      have bound := (List.getElem?_eq_some_iff.mp here).1
      refine ⟨e, ?_, rfl, fun was => was⟩
      exact (List.getElem?_append_left bound).trans here
  · simp only [unrouteEngine]
    split <;> exact .refl h
  · exact .refl h

theorem retains_step (event : Event) : Retains h (h.step now event).1 := by
  cases event with
  | openEngine t spec =>
      simp only [step]
      split <;> exact .refl h
  | reply t r => exact h.retains_replyOpening t r
  | engine id event => exact h.retains_stepEngine now id event
  | deliver event =>
      simp only [step, deliver]
      split
      · exact .refl h
      · exact h.retains_stepEngine now _ _
  | inspect t ids =>
      simp only [step]
      split
      · exact .refl h
      · exact h.retains_visit now t ids

end

end Hub
end MeshReadings
