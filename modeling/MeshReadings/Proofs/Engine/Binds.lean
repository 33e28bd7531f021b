import MeshReadings.Proofs.Engine.Commands

/-!
Whether a device that reports was bound. An activation sends a reporting configuration
only after the device accepted a bind, but a reconciliation sends one as soon as there was
any activation. So an engine believes in reports without a bind exactly when a
reconciliation was accepted after a bind that was refused or got lost.
-/

namespace MeshReadings
namespace Engine
open Binding (Mark)

/-- The device accepts a bind. -/
def BindAccepted (m : Moment) : Prop :=
  ∃ t r min max change d, m.event = .reply t r ∧ r.isSuccess = true ∧
    m.before.stage? t = some (.binding min max change d)

def Reopened (m : Moment) : Prop :=
  ∃ t, m.before.stage? t = some .resolving ∧ .finish t .done ∈ m.effects

/-- A bind was accepted, and the engine was not opened anew after that. -/
def BoundSince (h : History) : Prop :=
  Since (fun _ m => BindAccepted m) (fun m => ¬ Reopened m) h

/-- A polled device that was not bound accepts the reporting configuration of a
reconciliation. -/
def UnboundRetry (h : History) (m : Moment) : Prop :=
  ¬ BoundSince h ∧ m.before.state = .polling ∧
    ∃ t r u s, m.event = .reply t r ∧ r.isSuccess = true ∧ m.before.stage? t = some s ∧
      s.isConfiguring = true ∧ requested? t h = some (.exchange (.reconcile u))

theorem boundSince_snoc (h : History) (m : Moment) :
    BoundSince (h ++ [m]) ↔ BindAccepted m ∨ BoundSince h ∧ ¬ Reopened m :=
  since_snoc h m

/-- What a history must tell of a live engine. -/
structure Accounted (e : Engine) (h : History) : Prop where
  bound : e.state = .bound → BoundSince h
  attached : ∀ t s, e.command? t = some s → s.isConfiguring = true → e.state ≠ .unbound
  activated : ∀ t s, e.command? t = some s → s.isConfiguring = true →
    requested? t h = some (.exchange .activate) → BoundSince h

section
variable {e : Engine} {now : Nat} {event : Event} {s : Step} {h : History}

theorem Move.reopening (move : Move e now event s) (exclusive : Exclusive e)
    (reopened : Reopened ⟨now, event, e, s.1, s.2⟩) :
    s.1.state = .unbound ∧ Quiet s.1 := by
  obtain ⟨t, resolving, ends⟩ := reopened
  dsimp only at resolving ends
  have awaited {u : Ticket} {p : Option Stage} (stage : e.stage? u = p) (same : t = u) :
      p = some .resolving := by
    rw [← stage, ← same]
    exact resolving
  cases move with
  | reopened stage =>
      refine ⟨rfl, quiet_finish ?_ _⟩
      intro u other
      exact exclusive.alone stage rfl other
  | idle | enqueued | bindSent | reportSent | resolveSent | bound | readSent | disposed
  | pollStarted | rested | noted =>
      simp at ends
  | turnedAway | stayedFailed | stored | settled | dropped | resolveFailed
  | reopenedLate =>
      simp at ends
  | disposedAgain stage | unlistened stage => cases awaited stage (mem_finish ends).1
  | pollerStopped stage pause =>
      cases awaited stage (mem_finish ends).1
      simp [Stage.isPause] at pause
  | readSkipped reads =>
      have same : t = _ := (Effect.finish.inj (mem_afterRead.mp ends).1).1
      cases reads with
      | asked stage | due stage => cases awaited stage same
  | readFailed stage | readOver _ stage =>
      cases awaited stage (Effect.finish.inj (mem_afterRead.mp ends).1).1
  | readNoted stage =>
      have after := (List.mem_append.mp ends).resolve_left (by simp)
      cases awaited stage (Effect.finish.inj (mem_afterRead.mp after).1).1

theorem BoundSince.kept {m : Moment} (bound : BoundSince h) (other : ¬ Reopened m) :
    BoundSince (h ++ [m]) :=
  (boundSince_snoc h m).mpr (.inr ⟨bound, other⟩)

theorem Course.accounted (course : Course e now event s) (exclusive : Exclusive e)
    (serving : Serving e (requested? · h))
    (reopening : Reopened ⟨now, event, e, s.1, s.2⟩ → s.1.state = .unbound ∧ Quiet s.1)
    (inv : Accounted e h) (live : s.1.disposed = false) :
    Accounted s.1 (h ++ [⟨now, event, e, s.1, s.2⟩]) := by
  have kept (bound : BoundSince h) (attached : s.1.state ≠ .unbound) :
      BoundSince (h ++ [⟨now, event, e, s.1, s.2⟩]) :=
    bound.kept fun reopened => attached (reopening reopened).1
  have unconfigured (none : ∀ t p, s.1.command? t = some p → p.isConfiguring = false)
      (bound : s.1.state = .bound → e.state = .bound) :
      Accounted s.1 (h ++ [⟨now, event, e, s.1, s.2⟩]) := by
    refine ⟨fun state => kept (inv.bound (bound state)) (by simp [state]), ?_, ?_⟩ <;>
      intro t p command configuring <;> simp [none t p command] at configuring
  have idle (quiet : Quiet s.1) (bound : s.1.state = .bound → e.state = .bound) :
      Accounted s.1 (h ++ [⟨now, event, e, s.1, s.2⟩]) := by
    refine unconfigured (fun t p command => ?_) bound
    rw [quiet t] at command
    contradiction
  cases course with
  | aside same mute =>
      refine ⟨fun state => ?_, fun t p command configuring => ?_,
        fun t p command configuring requested => ?_⟩
      · obtain failed | ⟨state', -⟩ := same.binding
        · simp [failed] at state
        · exact kept (inv.bound (state' ▸ state)) (by simp [state])
      · rw [same.commands] at command
        obtain failed | ⟨state, -⟩ := same.binding
        · simp [failed]
        · exact state ▸ inv.attached t p command configuring
      · have flying : e.command? t = some p := same.commands t ▸ command
        rw [requested?_snoc, begins?_eq_none (stage?_of_command? flying).1] at requested
        refine (inv.activated t p flying configuring requested).kept fun reopened => ?_
        rw [(reopening reopened).2 t] at command
        contradiction
  | claimedGone stage command =>
      refine idle (quiet_finish ?_ _) id
      intro u other
      exact exclusive.alone stage (holdsLock_of_command command) other
  | disposed gone =>
      rw [live] at gone
      contradiction
  | bindSent takes =>
      refine unconfigured (fun u p flying => ?_) id
      obtain ⟨-, rfl⟩ := command?_put_alone (fun u _ => takes.quiet exclusive u) flying
      rfl
  | stored takes why =>
      refine idle (quiet_finish ?_ _) id
      intro u _
      exact takes.quiet exclusive u
  | reportSent takes attached =>
      refine ⟨fun state => kept (inv.bound state) (by simpa using attached),
        fun _ _ _ _ => attached, ?_⟩
      intro u p flying _ requested
      obtain ⟨rfl, -⟩ := command?_put_alone (fun u _ => takes.quiet exclusive u) flying
      rw [requested?_snoc, takes.requested serving] at requested
      simp at requested
  | @bound t r _ _ _ _ stage success =>
      have accepted (after : Engine) (fx : List Effect) :
          BoundSince (h ++ [⟨now, .reply t r, e, after, fx⟩]) :=
        (boundSince_snoc h _).mpr (.inl ⟨t, r, _, _, _, _, rfl, success, stage⟩)
      refine ⟨fun _ => accepted _ _, fun _ _ _ _ => ?_, fun _ _ _ _ _ => accepted _ _⟩
      rw [wait_state, transition_state, Binding.mark_state]
      split <;> simp [Mark.state]
  | settled settles =>
      obtain ⟨p, stage, command⟩ := settles.stage
      refine idle (quiet_finish ?_ _) fun state => ?_
      · intro u other
        exact exclusive.alone stage (holdsLock_of_command command) other
      · rw [finish_state, transition_state, Binding.mark_state] at state
        split at state
        · cases state
        · cases settles <;> cases state
  | reopened stage =>
      refine idle (quiet_finish ?_ _) fun state => ?_
      · intro u other
        exact exclusive.alone stage rfl other
      · cases state

theorem Course.unbound_reports (course : Course e now event s)
    (serving : Serving e (requested? · h)) (inv : Accounted e h)
    (unbound : ¬ BoundSince h) (reporting : s.1.state = .reporting) :
    e.state = .reporting ∨ UnboundRetry h ⟨now, event, e, s.1, s.2⟩ := by
  cases course with
  | aside same =>
      obtain failed | ⟨state, -⟩ := same.binding
      · rw [failed] at reporting
        contradiction
      · exact Or.inl (state ▸ reporting)
  | claimedGone | bindSent | stored | reportSent => exact Or.inl reporting
  | disposed _ released =>
      rw [state, released] at reporting
      cases reporting
  | reopened => cases reporting
  | bound =>
      rw [wait_state, transition_state, Binding.mark_state] at reporting
      split at reporting <;> cases reporting
  | settled settles =>
      rw [finish_state, transition_state, Binding.mark_state] at reporting
      split at reporting
      · cases reporting
      · next sound =>
          cases settles with
          | bindRefused | bindLost | bindExpired | bindFailed | reportRefused | reportLost
          | reportExpired | reportFailed =>
              cases reporting
          | reportAccepted stage success =>
              have command := command?_of_stage stage
              cases was : e.state with
              | reporting => exact Or.inl rfl
              | failed => exact absurd was sound
              | unbound => exact absurd was (inv.attached _ _ command rfl)
              | bound => exact absurd (inv.bound was) unbound
              | polling =>
                  obtain ⟨r, requested, activation | ⟨u, rfl⟩⟩ := serving _ _ stage
                  · rw [activation] at requested
                    exact absurd (inv.activated _ _ command rfl requested) unbound
                  · exact Or.inr
                      ⟨unbound, was, _, _, u, _, rfl, success, stage, rfl, requested⟩

theorem state_of_bind_accepted {t : Ticket} {r : Reply} {min max d : Nat}
    {change : Option Binary64} (stage : e.stage? t = some (.binding min max change d))
    (success : r.isSuccess = true) (live : e.disposed = false) :
    (e.step now (.reply t r)).1.state = (e.binding.mark .bound).state := by
  cases r with
  | ok | reading _ => simp [step, reply, stage, live]
  | refused _ | fault _ => cases success

theorem state_of_report_accepted {t : Ticket} {r : Reply}
    {refusedPeriod faultPeriod max d : Nat}
    (stage : e.stage? t = some (.configuring refusedPeriod faultPeriod max d))
    (success : r.isSuccess = true) (live : e.disposed = false) :
    (e.step now (.reply t r)).1.state = (e.binding.mark (.reporting max)).state := by
  cases r with
  | ok | reading _ => simp [step, reply, stage, settle, live]
  | refused _ | fault _ => cases success

end

section
variable {spec : Spec} {h : History} {e : Engine}

theorem RunOf.accounted (run : RunOf spec h e) (live : e.disposed = false) :
    Accounted e h := by
  refine run.induct (P := fun h e => e.disposed = false → Accounted e h) ?_ ?_ live
  · intro e opened _
    obtain ⟨none, -, state, -⟩ := ofSpec?_eq_some opened
    refine ⟨by simp [state], ?_, ?_⟩ <;> intro t s command
      <;> simp [command?, stage?, none] at command
  · intro h e now event run ih live
    have move := step_move e now event
    have before := move.live_before live
    have course := move.course before
    exact course.accounted run.exclusive run.serving (move.reopening run.exclusive)
      (ih before) live

/-- An engine counts on reports of a device that was not bound exactly from an unbound
retry on, for as long as its state stays so. -/
theorem reports_unbound_iff (run : RunOf spec h e) :
    e.state = .reporting ∧ ¬ BoundSince h ↔
      Since UnboundRetry (fun m => m.after.state = .reporting) h := by
  refine run.induct
    (P := fun h e => e.state = .reporting ∧ ¬ BoundSince h ↔
      Since UnboundRetry (fun m => m.after.state = .reporting) h) ?_ ?_
  · intro e opened
    have state := (ofSpec?_eq_some opened).2.2.1
    simp [state, not_since_nil]
  · intro h e now event run ih
    have move := step_move e now event
    rw [since_snoc, boundSince_snoc]
    constructor
    · intro both
      obtain ⟨reporting, unbound⟩ := both
      have kept : ¬ Reopened (.taken step e now event) := by
        intro reopened
        rw [(move.reopening run.exclusive reopened).1] at reporting
        contradiction
      have earlier : ¬ BoundSince h := fun bound => unbound (.inr ⟨bound, kept⟩)
      have before :=
        move.live_before ((run.next now event).released.live (by simp [reporting]))
      have course := move.course before
      obtain was | retry :=
        course.unbound_reports run.serving (run.accounted before) earlier reporting
      · exact Or.inr ⟨ih.mp ⟨was, earlier⟩, reporting⟩
      · exact Or.inl retry
    · intro either
      obtain ⟨unbound, polling, t, r, u, p, rfl, success, stage, configuring, requested⟩ |
        ⟨since, reporting⟩ := either
      · dsimp only [Moment.taken] at polling stage
        have live := run.released.live (by simp [polling])
        cases p with
        | configuring _ _ max _ =>
            refine ⟨?_, ?_⟩
            · have sound : e.binding.state ≠ .failed := by
                change e.state ≠ .failed
                simp [polling]
              rw [state_of_report_accepted stage success live,
                Binding.mark_state, if_neg sound]
              rfl
            · intro bound
              obtain ⟨t', r', min, max, change, d, same, -, binding⟩ | ⟨bound, -⟩ := bound
              · cases same
                cases stage.symm.trans binding
              · exact unbound bound
        | _ => cases configuring
      · obtain ⟨was, unbound⟩ := ih.mpr since
        refine ⟨reporting, ?_⟩
        intro bound
        obtain ⟨t, r, min, max, change, d, rfl, success, binding⟩ | ⟨bound, -⟩ := bound
        · have live := run.released.live (by simp [was])
          dsimp only [Moment.taken] at reporting binding
          rw [state_of_bind_accepted binding success live,
            Binding.mark_state] at reporting
          split at reporting <;> cases reporting
        · exact unbound bound

/-- The hall sensor refuses to be bound, but then takes the reporting configuration of a
reconciliation. -/
def retriedUnbound : List (Nat × Event) :=
  [(0, .start 0 (.exchange .activate)), (1, .reply 0 (.refused "NOT_SUPPORTED")),
    (2, .start 1 (.exchange (.reconcile { minInterval := some 30 })))]

theorem retry_reports_unbound :
    let (h, e) := play step hallEngine (retriedUnbound ++ [(3, .reply 1 .ok)])
    RunOf hallSensor h e ∧ e.state = .reporting ∧ ¬ BoundSince h := by
  have run := RunOf.play_hall (retriedUnbound ++ [(3, .reply 1 .ok)])
  have unbound : ¬ BoundSince (play step hallEngine retriedUnbound).1 := by
    intro bound
    obtain ⟨h₁, m, h₂, split, ⟨t, r, min, max, change, d, event, success, stage⟩, -⟩ :=
      bound
    have member : m ∈ (play step hallEngine retriedUnbound).1 := by simp [split]
    simp only [retriedUnbound, play, List.mem_cons, List.not_mem_nil, or_false] at member
    rcases member with rfl | rfl | rfl <;> cases event
    cases success
  refine ⟨run, (reports_unbound_iff run).mpr ?_⟩
  refine ⟨(play step hallEngine retriedUnbound).1, _, [], rfl, ?_, by simp⟩
  exact ⟨unbound, rfl, 1, .ok, { minInterval := some 30 }, _, rfl, rfl, rfl, rfl, rfl⟩

end

end Engine
end MeshReadings
