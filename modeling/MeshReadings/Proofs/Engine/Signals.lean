import MeshReadings.Proofs.Engine.Polling

/-!
The signal of an engine and those who watch it. A step that moves the binding's state or
its period makes a new version of the signal, and the signal shows the state that the step
leads to. Two points of a life with one version therefore have one state and one period,
and a poller that has seen the present version waits for the present period.
-/

namespace MeshReadings
namespace Engine

/-- A poller need not sleep on: at any time it can take notice of a transition and begin
to wait for the period that the binding has by now. -/
def Restarts (e : Engine) (t : Ticket) : Prop :=
  ∀ now, e.ready? now t ≠ none ∧ e.step now (.notice t) = e.rest now t e.signal.version

section
variable {spec : Spec} {h : History} {e : Engine} {now : Nat} {event : Event} {s : Step}
  {t : Ticket}

/-- A step leaves the signal, the state and the period alone, or it signals the state that
it leads to. -/
theorem Move.signal (move : Move e now event s) :
    (s.1.signal = e.signal ∧ s.1.state = e.state ∧
      s.1.binding.period = e.binding.period) ∨
      s.1.signal = ⟨e.signal.version + 1, s.1.state⟩ := by
  cases move with
  | bound | settled | reopened | disposed => exact Or.inr rfl
  | readFailed =>
      refine Or.inr ?_
      rw [afterRead_signal, state, afterRead_binding]
      rfl
  | readSkipped | readOver | readNoted =>
      refine Or.inl ?_
      rw [state, afterRead_signal, afterRead_binding]
      exact ⟨rfl, rfl, rfl⟩
  | _ => exact Or.inl ⟨rfl, rfl, rfl⟩

theorem RunOf.signal_value (run : RunOf spec h e) : e.signal.value = e.state := by
  refine run.invariant (P := fun e => e.signal.value = e.state) ?_ ?_
  · intro e opened
    obtain ⟨c, -, rfl⟩ := Option.map_eq_some_iff.mp opened
    rfl
  · intro e now event s move same
    obtain ⟨signal, state, -⟩ | signalled := move.signal
    · rw [signal, same, state]
    · rw [signalled]

/-- Versions only grow, and while the version is the same so are the state and the
period. -/
theorem RunOf.unchanged_of_version (run : RunOf spec h e) : ∀ m ∈ h,
    m.before.signal.version ≤ e.signal.version ∧
    (m.before.signal.version = e.signal.version →
      m.before.state = e.state ∧ m.before.binding.period = e.binding.period) := by
  refine run.induct (P := fun h e => ∀ m ∈ h, m.before.signal.version ≤ e.signal.version ∧
    (m.before.signal.version = e.signal.version →
      m.before.state = e.state ∧ m.before.binding.period = e.binding.period)) ?_ ?_
  · simp
  · intro h e now event _ ih m member
    have move := step_move e now event
    have earlier : m.before.signal.version ≤ e.signal.version ∧
        (m.before.signal.version = e.signal.version →
        m.before.state = e.state ∧ m.before.binding.period = e.binding.period) := by
      obtain before | latest := List.mem_append.mp member
      · exact ih m before
      · obtain rfl := List.mem_singleton.mp latest
        exact ⟨Nat.le_refl _, fun _ => ⟨rfl, rfl⟩⟩
    refine ⟨Nat.le_trans earlier.1 move.version_le, fun same => ?_⟩
    have still : m.before.signal.version = e.signal.version :=
      Nat.le_antisymm earlier.1 (same ▸ move.version_le)
    obtain ⟨state, period⟩ := earlier.2 still
    obtain ⟨-, state', period'⟩ | signalled := move.signal
    · exact ⟨state.trans state'.symm, period.trans period'.symm⟩
    · rw [signalled] at same
      change _ = e.signal.version + 1 at same
      omega

/-- A poller that has seen the present version waits for the present period. -/
theorem RunOf.waits_up_to_date (run : RunOf spec h e) : ∀ t since period seen,
    e.stage? t = some (.waiting since period seen) → seen = e.signal.version →
      period = max e.binding.period 1 := by
  refine run.induct (P := fun _ e => ∀ t since period seen,
    e.stage? t = some (.waiting since period seen) → seen = e.signal.version →
    period = max e.binding.period 1) ?_ ?_
  · intro e opened t since period seen stage
    simp [stage?, (ofSpec?_eq_some opened).1] at stage
  · intro h e now event run ih t since period seen after caughtUp
    have move := step_move e now event
    obtain before | ⟨-, period⟩ := move.waits after
    · have past : seen ≤ e.signal.version := run.watching t _ _ before rfl
      obtain ⟨signal, -, same⟩ | signalled := move.signal
      · rw [same]
        exact ih t since period seen before (caughtUp.trans (congrArg (·.version) signal))
      · rw [signalled] at caughtUp
        change seen = e.signal.version + 1 at caughtUp
        omega
    · exact period

theorem restarts_of_unseen {since period seen : Nat}
    (stage : e.stage? t = some (.waiting since period seen))
    (unseen : seen ≠ e.signal.version) : e.Restarts t := by
  refine fun now => ⟨ready?_of_unseen stage unseen now, ?_⟩
  simp only [step, restart, stage, if_pos unseen]

/-- The signal shows the binding's state at every point of a life. A step that moves the
state or the period makes a new version; from one version to the same later on nothing has
moved. So a poller waits for the present period or can go back to waiting for it at once,
and while time passes it is the present period that every poller waits for. -/
theorem signal_mirrors_binding (run : RunOf spec h e) :
    e.signal.value = e.state ∧
    (∀ m ∈ h, (m.after.state ≠ m.before.state ∨
      m.after.binding.period ≠ m.before.binding.period) →
      m.after.signal = ⟨m.before.signal.version + 1, m.after.state⟩) ∧
    (∀ m ∈ h, m.before.signal.version ≤ e.signal.version ∧
      (m.before.signal.version = e.signal.version →
      m.before.state = e.state ∧ m.before.binding.period = e.binding.period)) ∧
    (∀ t since period seen, e.stage? t = some (.waiting since period seen) →
      period = max e.binding.period 1 ∨ e.Restarts t) ∧
    (Clocked h → ∀ h₁ m h₂, h = h₁ ++ m :: h₂ → timeOf h₁ < m.now → ∀ t since period seen,
      m.before.stage? t = some (.waiting since period seen) →
      period = max m.before.binding.period 1) := by
  refine ⟨run.signal_value, ?_, run.unchanged_of_version, ?_, ?_⟩
  · intro m member moved
    obtain ⟨h₁, h₂, rfl⟩ := List.append_of_mem member
    have move := step_move m.before m.now m.event
    rw [run.reaches_before.2] at moved ⊢
    obtain ⟨-, state, period⟩ | signalled := move.signal
    · exact absurd moved (not_or.mpr ⟨not_not_intro state, not_not_intro period⟩)
    · exact signalled
  · intro t since period seen stage
    by_cases caughtUp : seen = e.signal.version
    · exact Or.inl (run.waits_up_to_date t since period seen stage caughtUp)
    · exact Or.inr (restarts_of_unseen stage caughtUp)
  · intro clocked h₁ m h₂ split passed t since period seen stage
    subst split
    have onTime : OnTime h₁ m := clocked h₁ m h₂ rfl
    refine run.reaches_before.1.waits_up_to_date t since period seen stage
      (Decidable.byContradiction fun unseen => ?_)
    exact ready?_of_unseen stage unseen _ (onTime.2 (timeOf h₁) (Nat.le_refl _) passed t)

/-- A poller sleeps for the default period while the hall sensor refuses to bind. -/
def refusedWhileAsleep : List (Nat × Event) :=
  [(0, .start 9 .poll), (0, .proceed 9), (5, .start 0 (.exchange .activate)),
    (10, .reply 0 (.refused "NOT_SUPPORTED"))]

theorem refused_while_asleep_is_punctual : Punctual hallEngine 0 refusedWhileAsleep := by
  refine .atOnce (.atOnce (.later (by decide) (fun s early => ?_)
    (.later (by decide) (fun s early => ?_) .nil)))
  · apply stalled_of_operations
    refine List.forall_mem_singleton.mpr
      (ready?_early (d := 7200000) rfl rfl (by omega) ?_)
    exact fun _ _ _ stage => by cases stage; rfl
  · apply stalled_of_operations
    refine List.forall_mem_cons.mpr ⟨?_, List.forall_mem_singleton.mpr ?_⟩
    · refine ready?_early (d := 7200000) rfl rfl (by omega) ?_
      exact fun _ _ _ stage => by cases stage; rfl
    · exact ready?_early (d := 10005) rfl rfl (by omega) nofun

theorem sleeper_restarts_when_refused :
    let (h, e) := play step hallEngine refusedWhileAsleep
    RunOf hallSensor h e ∧ Clocked h ∧ e.signal = ⟨1, .polling⟩ ∧ e.state = .polling ∧
      e.stage? 9 = some (.waiting 0 7200 0) ∧ e.binding.period = 86400 ∧ e.Restarts 9 ∧
      ∃ m ∈ h, m.now = 10 ∧ m.before.stage? 9 = some (.waiting 0 7200 0) ∧
        7200 = max m.before.binding.period 1 := by
  have run := RunOf.play_hall refusedWhileAsleep
  have clocked : Clocked (play step hallEngine refusedWhileAsleep).1 := by
    have nothing : Clocked [] := by simp [Clocked]
    exact nothing.append_play refused_while_asleep_is_punctual
  obtain ⟨-, -, -, wakes, current⟩ := signal_mirrors_binding run
  have outdated :
      ¬ 7200 = max (play step hallEngine refusedWhileAsleep).2.binding.period 1 := by
    decide
  refine ⟨run, clocked, rfl, rfl, rfl, rfl, (wakes 9 0 7200 0 rfl).resolve_left outdated,
    _, ?_, rfl, rfl, current clocked ((play step hallEngine refusedWhileAsleep).1.take 3)
    _ _ rfl (by decide) 9 0 7200 0 rfl⟩
  exact List.mem_of_getLast? rfl

end
end Engine
end MeshReadings
