import MeshReadings.Proofs.Hub.Visits

/-!
New engines. From its opening until somebody asks something of it, an engine does nothing
but take in readings, whatever becomes of other engines meanwhile and however often all of
them are inspected. So what a user asks of reporting first is stored and nothing more.
-/

namespace MeshReadings

/-- An engine as it was made for a spec, but for its readings. -/
structure Engine.New (spec : Spec) (e : Engine) : Prop where
  channel : e.channel = spec.channel
  config : Reporting.Config.ofDefaults? spec.defaults = some e.config
  live : e.disposed = false
  state : e.state = .unbound
  lock : e.lock = ⟨none, []⟩
  operations : e.operations = []

namespace Engine.New
variable {spec : Spec} {e : Engine}

theorem of_made (made : ofSpec? spec = some e) : New spec e := by
  obtain ⟨c, config, rfl⟩ := Option.map_eq_some_iff.mp made
  exact ⟨rfl, config, rfl, rfl, rfl, rfl⟩

theorem notice (new : New spec e) (now : Nat) (raw : Raw) :
    New spec (e.notice now raw).1 := by
  obtain nothing | ⟨v, -, -, something⟩ := notice_cases e now raw
  · rw [nothing]
    exact new
  · rw [something]
    exact ⟨new.channel, new.config, new.live, new.state, new.lock, new.operations⟩

/-- A request is stored, and there is nothing to tell the device. -/
theorem step_reconcile (new : New spec e) (now : Nat) (t : Ticket)
    (u : Reporting.Update) :
    e.step now (.start t (.exchange (.reconcile u))) =
      ((e.claim t).configure u).finish t (.settled .unbound) := by
  have free : e.lock.holder = none := by rw [new.lock]
  have fresh : e.stage? t = none := by simp [stage?, new.operations]
  have quiet := start_quiet new.live free fresh (u := u) (Or.inr (Or.inl new.state)) now
  rwa [new.state] at quiet

end Engine.New

namespace Hub

/-- An engine is made for a spec, whose attribute was resolved. -/
def Creates (spec : Spec) (id : EngineId) (m : Moment) : Prop :=
  ∃ t r, m.event = .reply t r ∧ (∀ f, r ≠ .fault f) ∧
    m.before.opening? t = some (.resolving spec) ∧
    (Engine.ofSpec? spec).isSome = true ∧ id = m.before.engines.length

/-- An engine was opened for a spec with success, and nobody has asked anything of it so
far. -/
structure Initialized (spec : Spec) (id : EngineId) (h : History) : Prop where
  created : ∃ m ∈ h, Creates spec id m
  opened : Opened h id
  unasked : ∀ m ∈ h, ∀ event, m.event ≠ .engine id event

/-- An engine stays as it is, and no inspection comes to wait for it. -/
structure Avoids (id : EngineId) (h h' : Hub) : Prop where
  engine : h'.engine? id = h.engine? id
  inspected : (∀ t, h.inspected? t ≠ some id) → ∀ t, h'.inspected? t ≠ some id

section
variable {h h' h'' : Hub} {id : EngineId} {now : Nat} {t : Ticket}

theorem Avoids.refl (h : Hub) : Avoids id h h := ⟨rfl, fun alone => alone⟩

theorem Avoids.trans (first : Avoids id h h') (second : Avoids id h' h'') :
    Avoids id h h'' :=
  ⟨second.engine.trans first.engine,
    fun alone => second.inspected (first.inspected alone)⟩

theorem Avoids.of_same (engines : h'.engines = h.engines)
    (inspections : h'.inspections = h.inspections) : Avoids id h h' := by
  refine ⟨by rw [engine?, engine?, engines], fun alone t => ?_⟩
  have same : h'.inspected? t = h.inspected? t := by
    rw [inspected?, inspected?, inspection?, inspection?, inspections]
  exact same ▸ alone t

theorem avoids_setEngine {other : EngineId} (apart : other ≠ id) (e : Engine) :
    Avoids id h (h.setEngine other e) :=
  ⟨List.getElem?_set_ne apart, fun alone => alone⟩

theorem avoids_dropInspection : Avoids id h (h.dropInspection t) := by
  refine ⟨rfl, fun alone u => ?_⟩
  simp only [inspected?, inspection?_dropInspection]
  split
  · simp
  · exact alone u

theorem avoids_putInspection {i : Inspection} (apart : i.current ≠ id) :
    Avoids id h (h.putInspection t i) := by
  refine ⟨rfl, fun alone u => ?_⟩
  simp only [inspected?, inspection?_putInspection]
  split
  · simpa using apart
  · exact alone u

theorem avoids_noteAll (ids : List EngineId) : Avoids id h (h.noteAll now ids) := by
  rw [noteAll_eq]
  exact .of_same rfl rfl

theorem avoids_startInspected {i : Inspection} (apart : i.current ≠ id) (e : Engine)
    (x : Engine.Exchange) : Avoids id h (h.startInspected now t e i x).1 :=
  (avoids_setEngine apart _).trans (avoids_putInspection apart)

section
variable (sound : ∀ e, h.engine? id = some e → e.state ≠ .failed)
include sound

/-- A visit stops at engines that have failed only. -/
theorem avoids_visit (ids : List EngineId) : Avoids id h (h.visit now t ids).1 := by
  have tours := tours_visit h now t ids
  generalize h.visit now t ids = s at tours
  cases tours with
  | ends => exact (avoids_noteAll _).trans avoids_dropInspection
  | stops passes here live failed =>
      refine (avoids_noteAll _).trans (avoids_startInspected ?_ _ _)
      rintro rfl
      exact sound _ here failed

theorem avoids_resume {i : Inspection} (apart : i.current ≠ id) (o : Engine.Outcome) :
    Avoids id h (h.resume now t i o).1 := by
  simp only [resume]
  split
  · exact avoids_startInspected (i := { i with isReopening := false }) apart _ _
  · exact avoids_visit sound i.rest

theorem avoids_absorb (alone : ∀ t, h.inspected? t ≠ some id) (channel : String)
    (key : Key) (fs : List Engine.Effect) :
    Avoids id h (h.absorb now channel key fs).1 := by
  -- The end of an exchange may take an inspection further, so the next effect meets
  -- another hub, which still has the engine unfailed and unvisited.
  induction fs generalizing h with
  | nil => exact .refl h
  | cons f fs ih =>
      cases f with
      | call _ _ | publish _ => exact ih sound alone
      | unroute =>
          have unrouted : Avoids id h (h.unregister key) := .of_same rfl rfl
          exact unrouted.trans (ih sound alone)
      | finish t o =>
          simp only [absorb]
          split
          · exact ih sound alone
          · next i inspection =>
              have apart : i.current ≠ id :=
                fun same => alone t (by simp [inspected?, inspection, same])
              have resumed : Avoids id h (h.resume now t i o).1 :=
                avoids_resume sound apart o
              refine resumed.trans (ih ?_ (resumed.inspected alone))
              rw [resumed.engine]
              exact sound

theorem avoids_stepEngine (alone : ∀ t, h.inspected? t ≠ some id) {other : EngineId}
    (apart : other ≠ id) (event : Engine.Event) :
    Avoids id h (h.stepEngine now other event).1 := by
  simp only [stepEngine]
  split
  · exact .refl h
  · next e here =>
      have moved := avoids_setEngine (h := h) apart (e.step now event).1
      exact moved.trans
        (avoids_absorb (moved.engine ▸ sound) (moved.inspected alone) _ _ _)

end

/-- Nobody has asked anything of an engine, if it is there, and no inspection waits for
it. -/
structure Unasked (id : EngineId) (h : Hub) : Prop where
  alone : ∀ t, h.inspected? t ≠ some id
  new : ∀ e, h.engine? id = some e → ∃ spec, e.New spec

theorem Unasked.sound (unasked : Unasked id h) :
    ∀ e, h.engine? id = some e → e.state ≠ .failed := by
  intro e here failed
  obtain ⟨spec, new⟩ := unasked.new e here
  cases new.state.symm.trans failed

end

/-- A hub leads to another without anything asked of an engine: a new one stays new. -/
structure KeepsNew (id : EngineId) (h h' : Hub) : Prop where
  unasked : Unasked id h'
  new : ∀ spec e, h.engine? id = some e → e.New spec →
      ∃ e', h'.engine? id = some e' ∧ e'.New spec

section
variable {h h' : Hub} {id : EngineId} {now : Nat} {event : Event}

theorem Avoids.keepsNew (avoids : Avoids id h h') (unasked : Unasked id h) :
    KeepsNew id h h' :=
  ⟨⟨avoids.inspected unasked.alone, avoids.engine ▸ unasked.new⟩,
    fun _ e here new => ⟨e, avoids.engine.trans here, new⟩⟩

theorem keepsNew_notify (unasked : Unasked id h) (raw : Raw) :
    KeepsNew id h (h.stepEngine now id (.notify raw)).1 := by
  cases here : h.engine? id with
  | none =>
      rw [stepEngine_none h now here]
      exact (Avoids.refl h).keepsNew unasked
  | some e =>
      have stepped : (h.stepEngine now id (.notify raw)).1 =
          h.setEngine id (e.notice now raw).1 := by
        simp only [stepEngine, here, Engine.step]
        cases (e.notice now raw).2 <;> rfl
      have there : (h.setEngine id (e.notice now raw).1).engine? id =
          some (e.notice now raw).1 := by
        rw [engine?_setEngine here, if_pos rfl]
      rw [stepped]
      refine ⟨⟨unasked.alone, fun e' same => ?_⟩, fun spec e' same new => ⟨_, there, ?_⟩⟩
      · cases there.symm.trans same
        obtain ⟨spec, new⟩ := unasked.new e here
        exact ⟨spec, new.notice now raw⟩
      · cases here.symm.trans same
        exact new.notice now raw

theorem engine?_made (h : Hub) (e : Engine) (t : Ticket) (o : Opening) (key : Key)
    (own : EngineId) :
    (({ h with engines := h.engines ++ [e] }.register key own).putOpening t o).engine?
      id =
      if id = h.engines.length then some e else h.engine? id := by
  simp only [engine?, putOpening, register]
  grind

theorem keepsNew_reply (unasked : Unasked id h) (t : Ticket) (r : Reply) :
    KeepsNew id h (h.replyOpening t r).1 := by
  have kept {h' : Hub} (engines : h'.engines = h.engines)
      (inspections : h'.inspections = h.inspections) :
      KeepsNew id h h' := (Avoids.of_same engines inspections).keepsNew unasked
  simp only [replyOpening]
  split
  · exact kept rfl rfl
  · exact kept rfl rfl
  · split
    · exact kept rfl rfl
    · next e made =>
        refine ⟨⟨unasked.alone, fun e' here => ?_⟩, fun spec e' here new => ⟨e', ?_, new⟩⟩
        · rw [engine?_made] at here
          split at here
          · cases here
            exact ⟨_, .of_made made⟩
          · exact unasked.new e' here
        · rw [engine?_made, if_neg, here]
          rintro rfl
          simp [engine?] at here
  · simp only [unrouteEngine]
    split <;> exact kept rfl rfl
  · exact kept rfl rfl

/-- Whatever happens, nobody asks anything of an engine but by asking it. -/
theorem keepsNew_step (unasked : Unasked id h)
    (other : ∀ asked, event ≠ .engine id asked) : KeepsNew id h (h.step now event).1 := by
  have kept := (Avoids.refl h).keepsNew unasked
  cases event with
  | openEngine t spec =>
      simp only [step]
      split
      · exact kept
      · have opens : Avoids id h (h.putOpening t (.resolving spec)) := .of_same rfl rfl
        exact opens.keepsNew unasked
  | reply t r => exact keepsNew_reply unasked t r
  | engine asked event =>
      have apart : asked ≠ id := by
        rintro rfl
        exact other event rfl
      exact (avoids_stepEngine unasked.sound unasked.alone apart event).keepsNew unasked
  | deliver event =>
      simp only [step, deliver]
      split
      · exact kept
      · next routed _ =>
          by_cases mine : routed = id
          · subst mine
            exact keepsNew_notify unasked event.raw
          · exact (avoids_stepEngine unasked.sound unasked.alone mine _).keepsNew unasked
  | inspect t ids =>
      simp only [step]
      split
      · exact kept
      · exact (avoids_visit unasked.sound ids).keepsNew unasked

theorem new_of_creates {spec : Spec}
    (creates : Creates spec id (.taken step h now event)) :
    ∃ e, (h.step now event).1.engine? id = some e ∧ e.New spec := by
  obtain ⟨t, r, rfl, sound, opening, made, rfl⟩ := creates
  obtain ⟨e, made⟩ := Option.isSome_iff_exists.mp made
  dsimp only [Moment.taken] at opening ⊢
  refine ⟨e, ?_, .of_made made⟩
  rw [step_resolved sound opening made, engine?_made, if_pos rfl]

/-- An engine that was made for a spec is new until somebody asks something of it. -/
theorem new_of_run {history : History} (run : Run step empty history h)
    (unasked : ∀ m ∈ history, ∀ asked, m.event ≠ .engine id asked) :
    Unasked id h ∧ ∀ spec, (∃ m ∈ history, Creates spec id m) →
      ∃ e, h.engine? id = some e ∧ e.New spec := by
  induction run with
  | nil =>
      exact ⟨⟨by simp [inspected?, inspection?, empty], by simp [engine?, empty]⟩,
        by simp⟩
  | @snoc history h run later event ih =>
      obtain ⟨before, latest⟩ := List.forall_mem_append.mp unasked
      obtain ⟨still, made⟩ := ih before
      have keeps : KeepsNew id h (h.step later event).1 :=
        keepsNew_step still (latest _ (List.mem_singleton_self _))
      refine ⟨keeps.unasked, fun spec creation => ?_⟩
      obtain ⟨m, member, creates⟩ := creation
      obtain earlier | last := List.mem_append.mp member
      · obtain ⟨e, here, new⟩ := made spec ⟨m, earlier, creates⟩
        exact keeps.new spec e here new
      · cases List.mem_singleton.mp last
        exact new_of_creates creates

/-- What is asked of reporting first is stored at once, over the defaults of the spec, and
the device is told nothing. -/
theorem Initialized.reconcile {history : History} {spec : Spec}
    (init : Initialized spec id history) (run : Run step empty history h) {t : Ticket}
    (free : h.inspection? t = none) (now : Nat) (u : Reporting.Update) :
    let (h', effects) := h.step now (.engine id (.start t (.exchange (.reconcile u))))
    effects = [.finish t (.engine (.settled .unbound))] ∧
      ∃ e c, h'.engine? id = some e ∧ e.channel = spec.channel ∧
        Reporting.Config.ofDefaults? spec.defaults = some c ∧ e.config = c.update u := by
  obtain ⟨e, here, new⟩ := (new_of_run run init.unasked).2 spec init.created
  have free' (e' : Engine) : (h.setEngine id e').inspection? t = none := free
  simp only [step, stepEngine, here, new.step_reconcile, Engine.finish, absorb, free',
    absorb.before, engine?_setEngine here, if_true]
  exact ⟨rfl, _, _, rfl, new.channel, new.config, rfl⟩

end
end Hub
end MeshReadings
