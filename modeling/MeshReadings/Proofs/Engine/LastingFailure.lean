import MeshReadings.Proofs.Engine.Binds
import MeshReadings.Proofs.Engine.Failures
import MeshReadings.Proofs.Engine.Outstanding

/-!
A failed binding stays failed. Every mark on it is lost, so only opening the engine anew
or disposing of it ends its failure, and whatever was in flight when it failed is told of
the failure, however the device answers.
-/

namespace MeshReadings
namespace Engine
open Binding (Mark)

/-- The binding fails. -/
def Fails (m : Moment) : Prop := m.before.state ≠ .failed ∧ m.after.state = .failed

def Revives (m : Moment) : Prop :=
  Reopened m ∨ ∃ t, begins? m.before m.event t = some .dispose

/-- The binding failed while it had some period, and nothing has revived it since. -/
def FailedWith (period : Nat) (h : History) : Prop :=
  Since (fun _ m => Fails m ∧ m.before.binding.period = period) (fun m => ¬ Revives m) h

/-- Who watches the signal sees the state. -/
def Signalled (e : Engine) : Prop := e.signal.value = e.state

section
variable {e : Engine} {now : Nat} {event : Event} {s : Step}

theorem signalled_move (move : Move e now event s) (inv : Signalled e) :
    Signalled s.1 := by
  cases move with
  | settled | reopened | bound | disposed => rfl
  | readSkipped | readNoted | readOver =>
      simpa [Signalled, state, noting, Binding.record] using inv
  | readFailed => simp [Signalled, state, transition]
  | _ => exact inv

theorem Settles.fails {t : Ticket} {m : Mark} (settles : Settles e now event t m)
    (fails : m.state = .failed) :
    m = .failed ∧ ∃ p f c, event = .reply t (.fault f) ∧ f.isRecoverable = false ∧
      e.stage? t = some p ∧ p.Awaits c ∧ c.isCommand = true := by
  cases settles with
  | bindFailed stage _ fatal => exact ⟨rfl, _, _, .bind, rfl, fatal, stage, rfl, rfl⟩
  | @reportFailed _ _ _ max _ _ stage _ fatal =>
      exact ⟨rfl, _, _, .report 0 max none, rfl, fatal, stage, ⟨0, none, rfl⟩, rfl⟩
  | bindRefused | bindLost | bindExpired | reportAccepted | reportRefused | reportLost
  | reportExpired =>
      cases fails

/-- The binding fails by a fault that answers a command, and keeps its period. -/
theorem Move.fails (move : Move e now event s) (fails : Fails ⟨now, event, e, s.1, s.2⟩) :
    s.1.binding.period = e.binding.period ∧
      ∃ t p f c, event = .reply t (.fault f) ∧ f.isRecoverable = false ∧
        e.stage? t = some p ∧ p.Awaits c ∧ c.isCommand = true := by
  obtain ⟨sound, failed⟩ : e.binding.state ≠ .failed ∧ s.1.state = .failed := fails
  cases move with
  | idle | enqueued | turnedAway | stayedFailed | bindSent | stored | reportSent
  | resolveSent | dropped | resolveFailed | reopenedLate | readSent | disposedAgain
  | unlistened | pollStarted | rested | pollerStopped | noted =>
      exact absurd failed sound
  | readSkipped | readNoted | readOver =>
      refine absurd ?_ sound
      simpa [state, noting, Binding.record] using failed
  | reopened | disposed => cases failed
  | bound =>
      rw [wait_state, transition_state, Binding.mark_state, if_neg sound] at failed
      cases failed
  | settled settles =>
      rw [finish_state, transition_state, Binding.mark_state, if_neg sound] at failed
      obtain ⟨rfl, p, f, c, cause⟩ := settles.fails failed
      exact ⟨Binding.mark_period _ _ sound, _, p, f, c, cause⟩
  | readFailed stage _ fatal =>
      refine ⟨?_, _, _, _, .read, rfl, fatal, stage, rfl, rfl⟩
      rw [afterRead_binding]
      exact Binding.mark_period _ _ sound

/-- A failed binding takes no mark. -/
theorem Move.stays_failed (move : Move e now event s) (failed : e.state = .failed)
    (unrevived : ¬ Revives ⟨now, event, e, s.1, s.2⟩) :
    s.1.state = .failed ∧ s.1.binding.period = e.binding.period := by
  cases move with
  | idle | enqueued | turnedAway | stayedFailed | bindSent | stored | reportSent
  | resolveSent | dropped | resolveFailed | reopenedLate | readSent | disposedAgain
  | unlistened | pollStarted | rested | pollerStopped | noted =>
      exact ⟨failed, rfl⟩
  | readSkipped | readNoted | readOver =>
      simpa [state, noting, Binding.record] using failed
  | bound | settled =>
      have same := Binding.mark_of_failed failed
      exact ⟨congrArg Binding.state (same _) |>.trans failed,
        congrArg Binding.period (same _)⟩
  | readFailed =>
      rw [state, afterRead_binding]
      have same := Binding.mark_of_failed failed .failed
      exact ⟨congrArg Binding.state same |>.trans failed, congrArg Binding.period same⟩
  | reopened stage => exact absurd (.inl ⟨_, stage, List.mem_singleton_self _⟩) unrevived
  | disposed fresh => exact absurd (.inr ⟨_, begins?_start fresh _⟩) unrevived

/-- An exchange is told the state that it leaves behind. -/
theorem Move.state_of_settled (move : Move e now event s) {t : Ticket}
    {told : BindingState} (ends : .finish t (.settled told) ∈ s.2) :
    told = s.1.state := by
  cases move with
  | idle | enqueued | bindSent | reportSent | resolveSent | bound | readSent | disposed
  | pollStarted | rested | turnedAway | dropped | resolveFailed | reopenedLate | reopened
  | disposedAgain | unlistened | pollerStopped | readSkipped | readNoted | readFailed
  | readOver | noted =>
      simp at ends
  | stayedFailed _ _ failed =>
      exact (Outcome.settled.inj (mem_finish ends).2).trans failed.symm
  | stored | settled => exact Outcome.settled.inj (mem_finish ends).2

end

section
variable {spec : Spec} {h : History} {e : Engine}

theorem RunOf.signalled (run : RunOf spec h e) : Signalled e := by
  refine run.invariant ?_ fun e now event s => signalled_move
  intro e opened
  obtain ⟨c, -, rfl⟩ := Option.map_eq_some_iff.mp opened
  rfl

theorem RunOf.failed_with (run : RunOf spec h e) {period : Nat}
    (failed : FailedWith period h) : e.state = .failed ∧ e.binding.period = period := by
  refine run.since_induct
    (I := fun _ e => e.state = .failed ∧ e.binding.period = period) ?_ ?_ failed
  · intro h e now event _ failing
    obtain ⟨fails, period⟩ := failing
    exact ⟨fails.2, ((step_move e now event).fails fails).1.trans period⟩
  · intro h e now event _ _ failed unrevived
    obtain ⟨was, period⟩ := failed
    obtain ⟨still, same⟩ := (step_move e now event).stays_failed was unrevived
    exact ⟨still, same.trans period⟩

theorem RunOf.not_failed_of_revives (run : RunOf spec h e) (now : Nat) (event : Event)
    (revives : Revives (.taken step e now event)) :
    (e.step now event).1.state = .unbound := by
  obtain reopened | ⟨t, begins⟩ := revives
  · exact ((step_move e now event).reopening run.exclusive reopened).1
  · exact ((run.next now event).released (disposed_of_begins begins)).1

/-- A binding is failed from the moment at which it fails until the engine is revived. -/
theorem RunOf.failed_iff (run : RunOf spec h e) :
    e.state = .failed ↔ ∃ period, FailedWith period h := by
  refine ⟨fun failed => ?_,
    fun failed => failed.elim fun _ since => (run.failed_with since).1⟩
  refine run.induct (P := fun h e => e.state = .failed →
    ∃ period, FailedWith period h) ?_ ?_ failed
  · intro e opened failed
    cases (ofSpec?_eq_some opened).2.2.1.symm.trans failed
  · intro h e now event run ih failed
    by_cases was : e.state = .failed
    · obtain ⟨period, since⟩ := ih was
      refine ⟨period, (since_snoc ..).mpr (.inr ⟨since, fun revives => ?_⟩)⟩
      cases (run.not_failed_of_revives now event revives).symm.trans failed
    · exact ⟨e.binding.period, (since_snoc ..).mpr (.inl ⟨⟨was, failed⟩, rfl⟩)⟩

/-- A binding is failed exactly from the moment at which it fails until the engine is
opened anew or disposed. All that time it is failed for whoever looks and keeps its
period, and every activation and reconciliation that ends is told so, also one whose
commands were in flight when the binding failed. -/
theorem failed_lasts (run : RunOf spec h e) (honest : Honest h) :
    (e.state = .failed ↔ ∃ period, FailedWith period h) ∧
    ∀ h₁ m h₂ period, h = h₁ ++ m :: h₂ → FailedWith period (h₁ ++ [m]) →
      m.after.state = .failed ∧ m.after.signal.value = .failed ∧
      m.after.binding.period = period ∧
      ∀ t o r, .finish t o ∈ m.effects → requested? t (h₁ ++ [m]) = some r →
        r.Negotiates → o = .settled .failed := by
  refine ⟨run.failed_iff, fun h₁ m h₂ period split failed => ?_⟩
  subst split
  obtain ⟨before, taken⟩ := run.reaches_before
  have move := step_move m.before m.now m.event
  have after : RunOf spec (h₁ ++ [m]) m.after := by
    rw [taken]
    exact before.next m.now m.event
  obtain ⟨state, same⟩ := after.failed_with failed
  have live := after.released.live (by simp [state])
  refine ⟨state, after.signalled.trans state, same,
    fun t o r ends requested negotiates => ?_⟩
  rw [taken] at ends state live
  have fits := move.outcome_fits before.serving (fun u => honest m (by simp) u) ends
    (requested?_snoc t h₁ m ▸ requested)
  obtain ⟨gone, -⟩ | ⟨-, told, rfl⟩ := fits.1 negotiates
  · cases live.symm.trans gone
  · rw [move.state_of_settled ends]
    exact congrArg Outcome.settled state

/-- The gateway closes under a read of the hall sensor, whose bind and configuration then
succeed. -/
def answeredTooLate : List (Nat × Event) :=
  failedDuringBind ++ [(3, .reply 0 .ok), (4, .reply 0 .ok)]

theorem success_told_of_failure :
    let (h, e) := play step hallEngine answeredTooLate
    RunOf hallSensor h e ∧ Honest h ∧ FailedWith 7200 h ∧
      ∃ h₁ m, h = h₁ ++ [m] ∧ m.event = .reply 0 .ok ∧ (∃ o, .finish 0 o ∈ m.effects) ∧
        ∀ o, .finish 0 o ∈ m.effects → o = .settled .failed := by
  have run := RunOf.play_hall answeredTooLate
  have honest : Honest (play step hallEngine answeredTooLate).1 := by
    simp [Honest, play, answeredTooLate, failedDuringBind, Moment.taken]
  obtain ⟨exactly, lasts⟩ := failed_lasts run honest
  obtain ⟨period, failed⟩ := exactly.mp rfl
  obtain ⟨-, -, rfl, told⟩ := lasts [_, _, _, _] _ [] period rfl failed
  refine ⟨run, honest, failed, [_, _, _, _], _, rfl, rfl, ⟨_, List.mem_singleton_self _⟩,
    fun o ends => ?_⟩
  exact told 0 o (.exchange .activate) ends rfl (.inl rfl)

end
end Engine
end MeshReadings
