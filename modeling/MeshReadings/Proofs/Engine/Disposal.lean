import MeshReadings.Proofs.Engine.Operations

/-!
Disposal is final. A live engine that is disposed lets go of its binding, asks the gateway
once to stop listening, and from then on only brings its operations to their ends: nothing
is called, published or bound any more, and an exchange that ends later ends with a fault.
-/

namespace MeshReadings
namespace Engine

def Effect.isUnlisten : Effect → Bool
  | .call _ .unlisten => true
  | _ => false

/-- A request that negotiates binding and reporting with the device. -/
def Request.Negotiates (r : Request) : Prop :=
  r = .exchange .activate ∨ ∃ u, r = .exchange (.reconcile u)

def Outcome.Concludes (o : Outcome) (gone : Bool) : Prop :=
  gone = true ∧ o = .fault .disposed ∨ gone = false ∧ ∃ s, o = .settled s

/-- How an operation may end, given whether its engine is disposed. -/
def Outcome.Fits (o : Outcome) (gone : Bool) (r : Request) : Prop :=
  (r.Negotiates → o.Concludes gone) ∧
  (r = .exchange .reopen → gone = true → ∃ f, o = .fault f)

section
variable {e : Engine} {now : Nat} {event : Event} {s : Step}

theorem serves_command {s : Stage} {r : Request} (command : s.isCommand = true)
    (serves : s.Serves r) : r.Negotiates := by
  cases s with
  | binding _ _ _ _ => exact Or.inl serves
  | configuring _ _ _ _ => exact serves
  | _ => simp [Stage.isCommand] at command

theorem Outcome.Concludes.fits {o : Outcome} {gone : Bool} {r : Request}
    (concludes : o.Concludes gone) (negotiates : r.Negotiates) : o.Fits gone r := by
  refine ⟨fun _ => concludes, ?_⟩
  intro same
  subst same
  obtain bad | ⟨u, bad⟩ := negotiates <;> cases bad

theorem fits_of_no_exchange {o : Outcome} {gone : Bool} {r : Request}
    (other : ∀ x, r ≠ .exchange x) : o.Fits gone r := by
  refine ⟨?_, fun same => absurd same (other _)⟩
  intro negotiates
  obtain same | ⟨u, same⟩ := negotiates <;> exact absurd same (other _)

theorem Settles.stage {t : Ticket} {m : Binding.Mark}
    (settles : Settles e now event t m) :
    ∃ s, e.stage? t = some s ∧ s.isCommand = true := by
  cases settles <;> exact ⟨_, ‹_›, rfl⟩

theorem mem_finish {t u : Ticket} {o o' : Outcome}
    (ends : .finish t o ∈ (e.finish u o').2) : t = u ∧ o = o' := by
  simpa using ends

/-- A disposed engine only finishes operations. -/
theorem Move.after_disposal (move : Move e now event s) (gone : e.disposed = true) :
    s.1.disposed = true ∧ s.1.binding = e.binding ∧
    ∀ fx ∈ s.2, ∃ t o, fx = .finish t o := by
  cases move with
  | idle => exact ⟨gone, rfl, by simp⟩
  | enqueued | pollStarted | rested => exact ⟨gone, rfl, by simp⟩
  | turnedAway | dropped | resolveFailed | reopenedLate | disposedAgain | unlistened
  | pollerStopped =>
      exact ⟨gone, rfl, by simp⟩
  | readSkipped | readOver =>
      exact ⟨by simpa using gone, by simp,
        fun fx member => ⟨_, _, (mem_afterRead.mp member).1⟩⟩
  | stayedFailed _ live | bindSent _ live | stored _ live | reportSent _ live
  | resolveSent _ live | bound _ _ live | settled _ live | reopened _ live
  | readSent _ live | readNoted _ live | readFailed _ live | disposed _ live
  | noted live =>
      simp [live] at gone

theorem Move.live_before (move : Move e now event s) (live : s.1.disposed = false) :
    e.disposed = false := by
  cases was : e.disposed with
  | false => rfl
  | true =>
      rw [(move.after_disposal was).1] at live
      contradiction

/-- A live engine stays live without touching its listener, or it is disposed and stops
listening. -/
theorem Move.before_disposal (move : Move e now event s) (live : e.disposed = false) :
    s.1.disposed = false ∧ (∀ fx ∈ s.2, fx.isUnlisten = false) ∨
      ∃ t, s.1.disposed = true ∧ s.1.binding = e.binding.release ∧
        s.2 = [.unroute, .call t .unlisten] := by
  cases move with
  | disposed => exact Or.inr ⟨_, rfl, rfl, rfl⟩
  | idle | enqueued | pollStarted | rested => exact Or.inl ⟨live, by simp⟩
  | turnedAway | stayedFailed | stored | settled | dropped | resolveFailed | reopenedLate
  | reopened | disposedAgain | unlistened | pollerStopped | bindSent | resolveSent | bound
  | readSent =>
      exact Or.inl ⟨live, by simp [Effect.isUnlisten]⟩
  | reportSent => exact Or.inl ⟨live, by simp [Effect.isUnlisten, report]⟩
  | readSkipped | readFailed | readOver =>
      refine Or.inl ⟨by simpa using live, fun fx member => ?_⟩
      rw [(mem_afterRead.mp member).1]
      rfl
  | readNoted =>
      refine Or.inl ⟨by simpa [noting] using live, fun fx member => ?_⟩
      rcases List.mem_append.mp member with said | after
      · rw [(mem_news.mp said).1]
        rfl
      · rw [(mem_afterRead.mp after).1]
        rfl
  | noted =>
      refine Or.inl ⟨live, fun fx member => ?_⟩
      rw [(mem_news.mp member).1]
      rfl

theorem Move.unroutes (move : Move e now event s) (unroutes : .unroute ∈ s.2) :
    e.disposed = false ∧ ∃ t, event = .start t .dispose ∧ e.stage? t = none := by
  cases move with
  | disposed fresh live => exact ⟨live, _, rfl, fresh⟩
  | idle | enqueued | pollStarted | rested | turnedAway | stayedFailed | stored | settled
  | dropped | resolveFailed | reopenedLate | reopened | disposedAgain | unlistened
  | pollerStopped | bindSent | reportSent | resolveSent | bound | readSent | readSkipped
  | readNoted | readFailed | readOver | noted =>
      simp at unroutes

variable {request? : Ticket → Option Request}

/-- An operation that ends answers its request in a way that fits whether the engine is
disposed. -/
theorem Move.outcome_fits (move : Move e now event s) (inv : Serving e request?)
    (honest : ∀ t, event ≠ .reply t (.fault .disposed)) {t : Ticket} {o : Outcome}
    (ends : .finish t o ∈ s.2) {r : Request}
    (requested : (begins? e event t).or (request? t) = some r) :
    o.Fits s.1.disposed r := by
  have at_stage {u : Ticket} {p : Stage} (stage : e.stage? u = some p) (same : t = u) :
      p.Serves r := by
    obtain ⟨r', requested', serves⟩ := inv u p stage
    rw [same, begins?_eq_none stage, Option.none_or, requested'] at requested
    exact Option.some.inj requested ▸ serves
  have of_takes {u : Ticket} {x : Exchange} (takes : Takes e event u x) (same : t = u) :
      r = .exchange x := by
    rw [same, takes.requested inv] at requested
    exact (Option.some.inj requested).symm
  cases move with
  | idle | enqueued | bindSent | reportSent | resolveSent | bound | readSent | disposed
  | pollStarted | rested | noted =>
      simp at ends
  | turnedAway takes gone =>
      obtain ⟨-, rfl⟩ := mem_finish ends
      exact ⟨fun _ => Or.inl ⟨gone, rfl⟩, fun _ _ => ⟨_, rfl⟩⟩
  | stayedFailed takes live =>
      obtain ⟨same, rfl⟩ := mem_finish ends
      exact Outcome.Concludes.fits (Or.inr ⟨live, _, rfl⟩) (Or.inl (of_takes takes same))
  | stored takes live =>
      obtain ⟨same, rfl⟩ := mem_finish ends
      exact Outcome.Concludes.fits (Or.inr ⟨live, _, rfl⟩)
        (Or.inr ⟨_, of_takes takes same⟩)
  | settled settles live =>
      obtain ⟨same, rfl⟩ := mem_finish ends
      obtain ⟨p, stage, command⟩ := settles.stage
      exact Outcome.Concludes.fits (Or.inr ⟨live, _, rfl⟩)
        (serves_command command (at_stage stage same))
  | dropped _ stage command why =>
      obtain ⟨same, rfl⟩ := mem_finish ends
      have gone : e.disposed = true := why.resolve_right (honest _)
      exact Outcome.Concludes.fits (Or.inl ⟨gone, rfl⟩)
        (serves_command command (at_stage stage same))
  | resolveFailed stage | reopenedLate stage =>
      obtain ⟨same, rfl⟩ := mem_finish ends
      have reopens : r = .exchange .reopen := at_stage stage same
      exact ⟨fun negotiates => by simp [Request.Negotiates, reopens] at negotiates,
        fun _ _ => ⟨_, rfl⟩⟩
  | reopened stage live =>
      obtain ⟨same, rfl⟩ := mem_finish ends
      have reopens : r = .exchange .reopen := at_stage stage same
      exact ⟨fun negotiates => by simp [Request.Negotiates, reopens] at negotiates,
        by simp [live]⟩
  | disposedAgain fresh =>
      obtain ⟨same, rfl⟩ := mem_finish ends
      have disposes : r = .dispose := by
        simpa [same, begins?_start fresh] using requested.symm
      exact fits_of_no_exchange (by simp [disposes])
  | unlistened stage =>
      obtain ⟨same, rfl⟩ := mem_finish ends
      have disposes : r = .dispose := at_stage stage same
      exact fits_of_no_exchange (by simp [disposes])
  | pollerStopped stage pause =>
      obtain ⟨same, rfl⟩ := mem_finish ends
      have polls : r = .poll := serves_pause pause (at_stage stage same)
      exact fits_of_no_exchange (by simp [polls])
  | readSkipped reads =>
      obtain ⟨ended, unpolled⟩ := mem_afterRead.mp ends
      have same : t = _ := (Effect.finish.inj ended).1
      rw [same, reads.requested inv, unpolled] at requested
      have refreshes : r = .refresh := by simpa using requested.symm
      exact fits_of_no_exchange (by simp [refreshes])
  | readFailed stage | readOver _ stage =>
      obtain ⟨ended, unpolled⟩ := mem_afterRead.mp ends
      have refreshes := serves_reading.mp (at_stage stage (Effect.finish.inj ended).1)
      exact fits_of_no_exchange (by simp [refreshes, unpolled])
  | readNoted stage =>
      obtain ⟨ended, unpolled⟩ :=
        mem_afterRead.mp ((List.mem_append.mp ends).resolve_left (by simp))
      have refreshes := serves_reading.mp (at_stage stage (Effect.finish.inj ended).1)
      exact fits_of_no_exchange (by simp [refreshes, unpolled])

end

section
variable {spec : Spec} {h : History} {e : Engine}

/-- Disposed engines hold on to nothing. -/
def Released (e : Engine) : Prop :=
  e.disposed = true → e.state = .unbound ∧ e.binding.lastValue = none

theorem Released.live (released : Released e) (attached : e.state ≠ .unbound) :
    e.disposed = false := by
  cases gone : e.disposed with
  | false => rfl
  | true => exact absurd (released gone).1 attached

theorem released_move {now : Nat} {event : Event} {s : Step} (move : Move e now event s)
    (inv : Released e) : Released s.1 := by
  intro gone
  cases was : e.disposed with
  | true =>
      obtain ⟨-, same, -⟩ := move.after_disposal was
      rw [state, same]
      exact inv was
  | false =>
      obtain ⟨live, -⟩ | ⟨t, -, released, -⟩ := move.before_disposal was
      · rw [live] at gone
        contradiction
      · rw [state, released]
        exact ⟨rfl, rfl⟩

theorem RunOf.released (run : RunOf spec h e) : Released e := by
  refine run.invariant ?_ fun e now event s => released_move
  intro e opened gone
  rw [(ofSpec?_eq_some opened).2.1] at gone
  contradiction

theorem disposed_of_begins {now : Nat} {event : Event} {t : Ticket}
    (begins : begins? e event t = some .dispose) :
    (e.step now event).1.disposed = true := by
  cases event with
  | start u r =>
      simp only [begins?] at begins
      split at begins
      · next fresh =>
          cases begins
          simp only [step, fresh.1, fresh.2, start, Option.isSome_none,
            Bool.false_eq_true, if_false]
          split
          · next gone => exact gone
          · rfl
      · contradiction
  | _ => simp [begins?] at begins

def unlistens (h : History) : Nat := (h.flatMap (·.effects)).countP Effect.isUnlisten

theorem unlistens_snoc (h : History) (m : Moment) :
    unlistens (h ++ [m]) = unlistens h + m.effects.countP Effect.isUnlisten := by
  simp [unlistens]

theorem RunOf.unlistens_eq (run : RunOf spec h e) :
    unlistens h = if e.disposed then 1 else 0 := by
  refine run.induct (P := fun h e => unlistens h = if e.disposed then 1 else 0) ?_ ?_
  · intro e opened
    simp [unlistens, (ofSpec?_eq_some opened).2.1]
  · intro h e now event _ ih
    have move := step_move e now event
    rw [unlistens_snoc, ih]
    simp only [Moment.taken]
    cases was : e.disposed with
    | true =>
        obtain ⟨still, -, ends⟩ := move.after_disposal was
        have none : (e.step now event).2.countP Effect.isUnlisten = 0 := by
          rw [List.countP_eq_zero]
          intro fx member
          obtain ⟨t, o, rfl⟩ := ends fx member
          simp [Effect.isUnlisten]
        simp [none, still]
    | false =>
        obtain ⟨live, quiet⟩ | ⟨t, gone, -, effects⟩ := move.before_disposal was
        · have none : (e.step now event).2.countP Effect.isUnlisten = 0 := by
            rw [List.countP_eq_zero]
            intro fx member
            simp [quiet fx member]
          simp [none, live]
        · simp [effects, gone, Effect.isUnlisten]

/-- Disposing an engine takes effect at once. From that step on it stays disposed and
unbound without a reading, publishes nothing and calls nothing but that its listener be
dropped, which happens once. Activations and reconciliations end with a fault exactly when
the engine is disposed as they end, and that fault says so; an engine that is disposed
while it is opened anew ends that with a fault as well. -/
theorem disposal_is_final (run : RunOf spec h e) (honest : Honest h) :
    (∀ m ∈ h, m.before.disposed = true ∨
      (∃ t, begins? m.before m.event t = some .dispose) → m.after.disposed = true) ∧
    (∀ m ∈ h, m.after.disposed = true →
      m.after.state = .unbound ∧ m.after.binding.lastValue = none ∧
      (∀ v, .publish v ∉ m.effects) ∧ ∀ t c, .call t c ∈ m.effects → c = .unlisten) ∧
    unlistens h = (if e.disposed then 1 else 0) ∧
    ∀ h₁ m h₂ t o, h = h₁ ++ m :: h₂ → .finish t o ∈ m.effects →
      ((requested? t (h₁ ++ [m]) = some (.exchange .activate) ∨
          ∃ u, requested? t (h₁ ++ [m]) = some (.exchange (.reconcile u))) →
        ((∃ f, o = .fault f) ↔ m.after.disposed = true) ∧ ∀ f, o = .fault f →
          f = .disposed) ∧
      (requested? t (h₁ ++ [m]) = some (.exchange .reopen) →
        m.after.disposed = true → ∃ f, o = .fault f) := by
  have passed (m : Moment) (member : m ∈ h) :
      Move m.before m.now m.event (m.after, m.effects) ∧ Released m.after := by
    obtain ⟨h₁, h₂, rfl⟩ := List.append_of_mem member
    obtain ⟨before, taken⟩ := run.reaches_before
    have move := step_move m.before m.now m.event
    rw [taken]
    exact ⟨move, released_move move before.released⟩
  refine ⟨?_, ?_, run.unlistens_eq, ?_⟩
  · intro m member before
    obtain was | ⟨t, begins⟩ := before
    · exact ((passed m member).1.after_disposal was).1
    · obtain ⟨h₁, h₂, rfl⟩ := List.append_of_mem member
      rw [run.reaches_before.2]
      exact disposed_of_begins begins
  · intro m member gone
    obtain ⟨move, released⟩ := passed m member
    obtain ⟨unbound, forgotten⟩ := released gone
    refine ⟨unbound, forgotten, ?_⟩
    cases was : m.before.disposed with
    | true =>
        obtain ⟨-, -, ends⟩ := move.after_disposal was
        constructor
        · intro v member
          obtain ⟨t, o, bad⟩ := ends _ member
          cases bad
        · intro t c member
          obtain ⟨t', o, bad⟩ := ends _ member
          cases bad
    | false =>
        obtain ⟨live, -⟩ | ⟨t, -, -, effects⟩ := move.before_disposal was
        · rw [live] at gone
          contradiction
        · have effects : m.effects = [.unroute, .call t .unlisten] := effects
          simp [effects]
  · intro h₁ m h₂ t o split ends
    subst split
    obtain ⟨before, -⟩ := run.reaches_before
    have member : m ∈ h₁ ++ m :: h₂ := by simp
    have fits {r : Request} (requested : requested? t (h₁ ++ [m]) = some r) :
        o.Fits m.after.disposed r :=
      (passed m member).1.outcome_fits before.serving (fun u => honest m member u) ends
        (requested?_snoc t h₁ m ▸ requested)
    have concluded {r : Request} (requested : requested? t (h₁ ++ [m]) = some r)
        (negotiates : r.Negotiates) :
        ((∃ f, o = .fault f) ↔ m.after.disposed = true) ∧ ∀ f, o = .fault f →
          f = .disposed := by
      obtain ⟨gone, rfl⟩ | ⟨live, p, rfl⟩ := (fits requested).1 negotiates
      · simp [gone]
      · simp [live]
    refine ⟨?_, fun requested => (fits requested).2 rfl⟩
    intro either
    obtain requested | ⟨u, requested⟩ := either
    · exact concluded requested (Or.inl rfl)
    · exact concluded requested (Or.inr ⟨u, rfl⟩)

/-- The hall sensor is disposed while its bind is in flight, and the activation ends
before the gateway answers. -/
def disposalDuringBind : List (Nat × Event) :=
  [(0, .start 0 (.exchange .activate)), (0, .start 1 .dispose), (0, .cancel 0),
    (5, .reply 0 .ok), (5, .reply 1 .ok)]

theorem disposal_during_bind :
    let (h, e) := play step hallEngine disposalDuringBind
    RunOf hallSensor h e ∧ Honest h ∧ e.disposed = true ∧ unlistens h = 1 := by
  have run := RunOf.play_hall disposalDuringBind
  have honest : Honest (play step hallEngine disposalDuringBind).1 := by
    simp [Honest, play, disposalDuringBind, Moment.taken]
  have final := disposal_is_final run honest
  exact ⟨run, honest, rfl, final.2.2.1⟩

end
end Engine
end MeshReadings
