import MeshReadings.Proofs.Engine.Commands

/-!
Commands that are sent while the binding is failed. Every operation looks at the binding
before its first command, but an activation does not look again between its bind and the
reporting configuration that follows. So a command goes to a device whose binding is
failed exactly when a read failed it while a bind was in flight, and the device then
accepts that bind.
-/

namespace MeshReadings

/-- What goes to the device itself. -/
def Call.isCommand : Call → Bool
  | .bind | .report .. | .read => true
  | .resolve | .listen | .unlisten => false

namespace Engine

def CommandsFailed (m : Moment) : Prop :=
  m.after.state = .failed ∧ ∃ t c, .call t c ∈ m.effects ∧ c.isCommand = true

/-- A read ends with a fault that polling cannot make up for. -/
def ReadFails (m : Moment) : Prop :=
  ∃ t d p f, m.event = .reply t (.fault f) ∧ f.isRecoverable = false ∧
    m.before.stage? t = some (.reading d p)

def Binds (e : Engine) (t : Ticket) : Prop :=
  ∃ min max change d, e.stage? t = some (.binding min max change d)

/-- A read failed the binding while the bind of `t` was in flight, and that still is. -/
def FailedMeanwhile (t : Ticket) (h : History) : Prop :=
  Since (fun _ m => ReadFails m ∧ m.before.Binds t) (fun m => m.before.Binds t) h

theorem failedMeanwhile_snoc (t : Ticket) (h : History) (m : Moment) :
    FailedMeanwhile t (h ++ [m]) ↔
      (ReadFails m ∨ FailedMeanwhile t h) ∧ m.before.Binds t :=
  (since_snoc h m).trans or_and_right.symm

section
variable {e : Engine} {now : Nat} {event : Event} {s : Step} {t : Ticket}

/-- A bind begins only while the binding has not failed. -/
theorem Move.binds_before (move : Move e now event s) (binds : s.1.Binds t) :
    e.Binds t ∨ s.1.state ≠ .failed := by
  obtain ⟨min, max, change, d, binding⟩ := binds
  cases move with
  | bindSent _ _ sound => exact Or.inr sound
  | idle | noted => exact Or.inl ⟨min, max, change, d, binding⟩
  | turnedAway | stayedFailed | stored | settled | dropped | resolveFailed | reopenedLate
  | reopened | disposedAgain | unlistened | pollerStopped =>
      have before := stage?_of_finish binding
      exact Or.inl ⟨min, max, change, d, before⟩
  | enqueued | reportSent | resolveSent | bound | readSent | disposed | pollStarted
  | rested =>
      obtain ⟨-, same⟩ | before := stage?_of_wait binding
      · cases same
      · exact Or.inl ⟨min, max, change, d, before⟩
  | readSkipped | readNoted | readFailed | readOver =>
      obtain ⟨_, _, _, same⟩ | before := stage?_of_afterRead binding
      · cases same
      · exact Or.inl ⟨min, max, change, d, before⟩

theorem not_binds_wait {p : Stage} (fx : List Effect)
    (other : ∀ min max change d, p ≠ .binding min max change d) :
    ¬ (e.wait t p fx).1.Binds t := by
  intro binds
  obtain ⟨min, max, change, d, stage⟩ := binds
  rw [stage?_wait, if_pos rfl] at stage
  exact other min max change d (Option.some.inj stage)

/-- While a bind is in flight nobody else has the lock, so only a read can fail the
binding. -/
theorem Move.state_while_binding (move : Move e now event s) (exclusive : Exclusive e)
    (live : s.1.disposed = false) (before : e.Binds t) (after : s.1.Binds t) :
    s.1.state = e.state ∨ s.1.state = .failed ∧ ReadFails ⟨now, event, e, s.1, s.2⟩ := by
  obtain ⟨min, max, change, d, binding⟩ := before
  have same {u : Ticket} {p : Stage} (stage : e.stage? u = some p)
      (holds : p.holdsLock = true) : u = t :=
    exclusive.same stage holds binding rfl
  cases move with
  | idle | enqueued | turnedAway | stayedFailed | bindSent | stored | reportSent
  | resolveSent | dropped | resolveFailed | reopenedLate | readSent | disposedAgain
  | unlistened | pollStarted | rested | pollerStopped | noted =>
      exact Or.inl rfl
  | readSkipped | readNoted | readOver =>
      refine Or.inl ?_
      simp [state, noting, Binding.record]
  | readFailed stage _ fatal =>
      refine Or.inr ⟨?_, ⟨_, _, _, _, rfl, fatal, stage⟩⟩
      simp only [state, afterRead_binding, transition, Binding.mark_state]
      split <;> rfl
  | bound stage =>
      cases same stage rfl
      exact absurd after (not_binds_wait _ (by simp))
  | settled settles =>
      obtain ⟨p, stage, command⟩ := settles.stage
      cases same stage (holdsLock_of_command command)
      obtain ⟨_, _, _, _, stage⟩ := after
      simp at stage
  | reopened stage =>
      cases same stage rfl
      cases binding.symm.trans stage
  | disposed => cases live

theorem state_of_read_fails (live : e.disposed = false)
    (fails : ReadFails (.taken step e now event)) :
    (e.step now event).1.state = .failed := by
  obtain ⟨t, d, p, f, rfl, fatal, stage⟩ := fails
  dsimp only [Moment.taken] at stage
  simp only [step, reply, stage, fatal, live, state, Bool.not_false, Bool.and_self,
    if_true, afterRead_binding, transition, Binding.mark_state]
  split <;> rfl

/-- Only an activation goes on without another look at the binding. -/
theorem Move.commands_failed (move : Move e now event s)
    (commands : CommandsFailed ⟨now, event, e, s.1, s.2⟩) :
    e.disposed = false ∧ e.state = .failed ∧ ∃ t r, event = .reply t r ∧
      r.isSuccess = true ∧ e.Binds t := by
  obtain ⟨failed, t, c, call, command⟩ := commands
  cases move with
  | bound stage success live =>
      refine ⟨live, ?_, _, _, rfl, success, ⟨_, _, _, _, stage⟩⟩
      simp only [wait_state, transition_state, Binding.mark_state] at failed
      split at failed
      · assumption
      · contradiction
  | bindSent _ _ sound | reportSent _ _ _ _ sound | readSent _ _ sound =>
      exact absurd failed sound
  | resolveSent => simp_all [Call.isCommand]
  | disposed => simp_all [Call.isCommand]
  | idle | enqueued | turnedAway | stayedFailed | stored | settled | dropped
  | resolveFailed | reopenedLate | reopened | disposedAgain | unlistened | pollStarted
  | rested | pollerStopped | readSkipped | readNoted | readFailed | readOver | noted =>
      simp at call

theorem commands_failed_of_bound {r : Reply} (live : e.disposed = false)
    (failed : e.state = .failed) (binds : e.Binds t) (success : r.isSuccess = true) :
    CommandsFailed (.taken step e now (.reply t r)) := by
  obtain ⟨min, max, change, d, stage⟩ := binds
  have marked : (e.binding.mark .bound).state = .failed :=
    (Binding.mark_state ..).trans (if_pos failed)
  cases r with
  | ok | reading _ =>
      simp only [CommandsFailed, Moment.taken, step, reply, stage, live,
        Bool.false_eq_true, if_false, wait_state, transition_state, wait_effects]
      exact ⟨marked, t, _, List.mem_singleton_self _, rfl⟩
  | refused _ | fault _ => cases success

end

section
variable {spec : Spec} {h : History} {e : Engine}

theorem RunOf.failed_while_binding_iff (run : RunOf spec h e) (live : e.disposed = false)
    {t : Ticket} (binds : e.Binds t) : e.state = .failed ↔ FailedMeanwhile t h := by
  refine run.induct (P := fun h e => e.disposed = false → ∀ t, e.Binds t →
    (e.state = .failed ↔ FailedMeanwhile t h)) ?_ ?_ live t binds
  · intro e opened _ t binds
    obtain ⟨_, _, _, _, stage⟩ := binds
    simp [stage?, (ofSpec?_eq_some opened).1] at stage
  · intro h e now event run ih live t after
    have move := step_move e now event
    have was := move.live_before live
    rw [failedMeanwhile_snoc]
    by_cases before : e.Binds t
    · have earlier := ih was t before
      have kept := move.state_while_binding run.exclusive live before after
      constructor
      · intro failed
        refine ⟨?_, before⟩
        obtain same | ⟨-, fails⟩ := kept
        · exact Or.inr (earlier.mp (same ▸ failed))
        · exact Or.inl fails
      · intro either
        obtain ⟨fails | since, -⟩ := either
        · exact state_of_read_fails was fails
        · obtain same | ⟨failed, -⟩ := kept
          · exact same.trans (earlier.mpr since)
          · exact failed
    · have sound := (move.binds_before after).resolve_left before
      exact ⟨fun failed => absurd failed sound, fun both => absurd both.2 before⟩

/-- At every step of every run, a command goes out while the binding is failed if and only
if the device accepts a bind during which a read failed the binding. -/
theorem commands_failed_iff (run : RunOf spec h e) (now : Nat) (event : Event) :
    CommandsFailed (.taken step e now event) ↔
      e.disposed = false ∧ ∃ t r, event = .reply t r ∧ r.isSuccess = true ∧ e.Binds t ∧
        FailedMeanwhile t h := by
  constructor
  · intro commands
    obtain ⟨live, failed, t, r, rfl, success, binds⟩ :=
      (step_move e now event).commands_failed commands
    exact ⟨live, t, r, rfl, success, binds,
      (run.failed_while_binding_iff live binds).mp failed⟩
  · intro accepted
    obtain ⟨live, t, r, rfl, success, binds, meanwhile⟩ := accepted
    have failed := (run.failed_while_binding_iff live binds).mpr meanwhile
    exact commands_failed_of_bound live failed binds success

/-- The hall sensor is read while it is bound, and the gateway closes under the read but
not under the bind. -/
def failedDuringBind : List (Nat × Event) :=
  [(0, .start 0 (.exchange .activate)), (1, .start 1 .refresh),
    (2, .reply 1 (.fault .gatewayClosed))]

theorem report_sent_after_failure :
    let (h, e) := play step hallEngine failedDuringBind
    RunOf hallSensor h e ∧ e.state = .failed ∧
    CommandsFailed (.taken step e 3 (.reply 0 .ok)) := by
  have run := RunOf.play_hall failedDuringBind
  have binds : (play step hallEngine failedDuringBind).2.Binds 0 := ⟨_, _, _, _, rfl⟩
  have meanwhile := (run.failed_while_binding_iff rfl binds).mp rfl
  exact ⟨run, rfl, (commands_failed_iff run 3 (.reply 0 .ok)).mpr
    ⟨rfl, 0, .ok, rfl, rfl, binds, meanwhile⟩⟩

end
end Engine
end MeshReadings
