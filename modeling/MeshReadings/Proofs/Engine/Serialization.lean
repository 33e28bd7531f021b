import MeshReadings.Proofs.Engine.Exclusion
import MeshReadings.Proofs.Engine.Outstanding

/-!
Exchanges go one at a time. Only the holder of the lock makes their calls, so no two of
these are outstanding at once, and an update of the configuration waits for the lock as
well. A reporting configuration that was sent is therefore still the one in force when the
answer to it comes.
-/

namespace MeshReadings

/-- The calls that are made in exchanges. -/
def Call.needsLock : Call → Bool
  | .resolve | .bind | .report .. => true
  | .read | .listen | .unlisten => false

namespace Engine

/-- A bind in flight will be followed by the configuration in force. -/
def Foreseen (e : Engine) : Prop :=
  ∀ t min max change d, e.stage? t = some (.binding min max change d) →
    min = e.config.minInterval ∧ max = e.config.maxInterval ∧ change = e.config.change

/-- An exchange has made a call under some configuration and is not over. -/
def Engaged (t : Ticket) (c : Reporting.Config) (h : History) : Prop :=
  Since (fun _ m => (∃ call, .call t call ∈ m.effects ∧ call.needsLock = true) ∧
    m.after.config = c) (fun m => ∀ o, .finish t o ∉ m.effects) h

section
variable {e : Engine} {now : Nat} {event : Event} {s : Step} {t : Ticket} {p : Stage}
  {c : Call}

theorem holdsLock_of_awaits (awaits : p.Awaits c) (needs : c.needsLock = true) :
    p.holdsLock = true := by
  cases p with
  | binding _ _ _ _ | configuring _ _ _ _ | resolving => rfl
  | reading _ _ | unlistening =>
      cases awaits
      cases needs
  | queued _ | arming _ | waiting _ _ _ => cases awaits

/-- Nobody updates the configuration while another has the lock. -/
theorem Move.config_of_held (move : Move e now event s) (exclusive : Exclusive e)
    (stage : e.stage? t = some p) (holds : p.holdsLock = true) :
    s.1.config = e.config := by
  refine move.config_of_not fun t u _ takes => ?_
  rw [takes.unheld exclusive stage] at holds
  contradiction

/-- Whoever needs the lock needs it until its exchange is over. -/
theorem Move.holds_on (move : Move e now event s) (stage : e.stage? t = some p)
    (holds : p.holdsLock = true) (unfinished : ∀ o, .finish t o ∉ s.2) :
    ∃ q, s.1.stage? t = some q ∧ q.holdsLock = true := by
  -- The exchange either moves on to its next command, or somebody else moves who is no
  -- exchange at all.
  have apart {u : Ticket} (other : ∀ q, e.stage? u = some q → q.isExchange = false) :
      t ≠ u := by
    rintro rfl
    have exchange := other p stage
    rw [isExchange_of_holdsLock holds] at exchange
    contradiction
  have of_stage {u : Ticket} {q : Stage} (here : e.stage? u = some q)
      (free : q.isExchange = false) : t ≠ u :=
    apart fun q' same => Option.some.inj (here.symm.trans same) ▸ free
  have kept {e' : Engine} (same : e'.stage? t = e.stage? t) :
      ∃ q, e'.stage? t = some q ∧ q.holdsLock = true :=
    ⟨p, same.trans stage, holds⟩
  have waits {e' : Engine} {u : Ticket} {q : Stage} {fx : List Effect}
      (same : e'.stage? t = e.stage? t) (next : t = u → q.holdsLock = true) :
        ∃ q', (e'.wait u q fx).1.stage? t = some q' ∧ q'.holdsLock = true := by
    rw [stage?_wait]
    split
    · next here => exact ⟨q, rfl, next here⟩
    · exact kept same
  have finishes {e' : Engine} {u : Ticket} {o : Outcome} (same : e'.stage? t = e.stage? t)
      (going : ∀ o', .finish t o' ∉ (e'.finish u o).2) :
      ∃ q, (e'.finish u o).1.stage? t = some q ∧ q.holdsLock = true := by
    have other : t ≠ u := by
      rintro rfl
      exact going o (List.mem_singleton_self _)
    exact kept (by rw [stage?_finish, if_neg other, same])
  cases move with
  | idle | noted => exact ⟨p, stage, holds⟩
  | turnedAway | stayedFailed | stored | settled | dropped | resolveFailed | reopenedLate
  | reopened | disposedAgain | unlistened | pollerStopped =>
      exact finishes rfl unfinished
  | bindSent | reportSent | resolveSent | bound => exact waits rfl fun _ => rfl
  | enqueued fresh | pollStarted fresh | disposed fresh =>
      exact waits rfl fun here =>
        absurd here (apart fun q same => nomatch fresh.symm.trans same)
  | rested _ here pause =>
      exact waits rfl fun same => absurd same (of_stage here (isExchange_of_pause pause))
  | readSent reads => exact waits rfl fun here => absurd here (apart reads.before)
  | readSkipped reads => exact kept (stage?_afterRead_of_ne (apart reads.before) _ _)
  | readNoted here | readFailed here | readOver _ here =>
      exact kept (stage?_afterRead_of_ne (of_stage here rfl) _ _)

theorem foreseen_move (move : Move e now event s) (exclusive : Exclusive e)
    (inv : Foreseen e) : Foreseen s.1 := by
  intro t min max change d after
  have kept (before : e.stage? t = some (.binding min max change d)) :
      min = s.1.config.minInterval ∧ max = s.1.config.maxInterval ∧
      change = s.1.config.change := by
    rw [move.config_of_held exclusive before rfl]
    exact inv t min max change d before
  cases move with
  | idle | noted => exact kept after
  | bindSent =>
      obtain ⟨-, same⟩ | before := stage?_of_wait after
      · cases same
        exact ⟨rfl, rfl, rfl⟩
      · exact kept before
  | enqueued | reportSent | resolveSent | bound | readSent | disposed | pollStarted
  | rested =>
      obtain ⟨-, same⟩ | before := stage?_of_wait after
      · cases same
      · exact kept before
  | turnedAway | stayedFailed | stored | settled | dropped | resolveFailed | reopenedLate
  | reopened | disposedAgain | unlistened | pollerStopped =>
      have before := stage?_of_finish after
      exact kept before
  | readSkipped | readNoted | readFailed | readOver =>
      obtain ⟨_, _, _, same⟩ | before := stage?_of_afterRead after
      · cases same
      · exact kept before

/-- What is sent is the configuration in force. -/
theorem Move.report_in_force (move : Move e now event s) (inv : Foreseen e)
    {min max : Nat} {change : Option Binary64}
    (call : .call t (.report min max change) ∈ s.2) :
    min = s.1.config.minInterval ∧ max = s.1.config.maxInterval ∧
    change = s.1.config.change := by
  cases move with
  | reportSent =>
      cases List.mem_singleton.mp call
      exact ⟨rfl, rfl, rfl⟩
  | bound stage =>
      cases List.mem_singleton.mp call
      exact inv _ _ _ _ _ stage
  | idle | enqueued | turnedAway | stayedFailed | bindSent | stored | resolveSent
  | settled | dropped | resolveFailed | reopenedLate | reopened | readSent | disposedAgain
  | disposed | unlistened | pollStarted | rested | pollerStopped | readSkipped | readNoted
  | readFailed | readOver | noted =>
      simp at call

end

section
variable {spec : Spec} {h : History} {e : Engine} {t : Ticket}

theorem RunOf.foreseen (run : RunOf spec h e) : Foreseen e := by
  refine run.induct (P := fun _ e => Foreseen e) ?_ ?_
  · intro e opened t min max change d stage
    simp [stage?, (ofSpec?_eq_some opened).1] at stage
  · intro h e now event run inv
    exact foreseen_move (step_move e now event) run.exclusive inv

/-- While a reporting configuration is outstanding it is the one in force. -/
theorem RunOf.report_in_force (run : RunOf spec h e) {min max : Nat}
    {change : Option Binary64} (outstanding : Outstanding t (.report min max change) h) :
    min = e.config.minInterval ∧ max = e.config.maxInterval ∧
    change = e.config.change := by
  refine run.since_induct (I := fun _ e => min = e.config.minInterval ∧
    max = e.config.maxInterval ∧ change = e.config.change) ?_ ?_ outstanding
  · intro h e now event run call
    exact (step_move e now event).report_in_force run.foreseen call
  · intro h e now event run earlier inForce _
    obtain ⟨p, stage, awaits⟩ := run.awaits_of_outstanding earlier
    rwa [(step_move e now event).config_of_held run.exclusive stage
      (holdsLock_of_awaits awaits rfl)]

/-- An exchange that is not over has the lock, and the configuration is as it was at the
call. -/
theorem RunOf.engaged (run : RunOf spec h e) {c : Reporting.Config}
    (engaged : Engaged t c h) :
    e.config = c ∧ ∃ p, e.stage? t = some p ∧ p.holdsLock = true := by
  refine run.since_induct (I := fun _ e => e.config = c ∧ ∃ p, e.stage? t = some p ∧
    p.holdsLock = true) ?_ ?_ engaged
  · intro h e now event _ called
    obtain ⟨⟨call, made, needs⟩, config⟩ := called
    obtain ⟨p, stage, awaits, -⟩ := (step_move e now event).awaits_of_call made
    exact ⟨config, p, stage, holdsLock_of_awaits awaits needs⟩
  · intro h e now event run _ held unfinished
    have move := step_move e now event
    obtain ⟨same, p, stage, holds⟩ := held
    exact ⟨(move.config_of_held run.exclusive stage holds).trans same,
      move.holds_on stage holds unfinished⟩

theorem RunOf.same_call (run : RunOf spec h e) {c d : Call} (needs : c.needsLock = true)
    (first : Outstanding t c h) (second : Outstanding t d h) : c = d := by
  obtain ⟨p, stage, awaits⟩ := run.awaits_of_outstanding first
  obtain ⟨q, same, awaits'⟩ := run.awaits_of_outstanding second
  cases stage.symm.trans same
  cases p with
  | binding _ _ _ _ | resolving => exact awaits.trans awaits'.symm
  | configuring _ _ _ _ =>
      obtain ⟨min, change, rfl⟩ := awaits
      obtain ⟨min', change', rfl⟩ := awaits'
      obtain ⟨rfl, -, rfl⟩ := run.report_in_force first
      obtain ⟨rfl, -, rfl⟩ := run.report_in_force second
      rfl
  | reading _ _ | unlistening =>
      cases awaits
      cases needs
  | queued _ | arming _ | waiting _ _ _ => cases awaits

/-- At most one call of an exchange is outstanding at a time. From such a call to the end
of its exchange, that step included, the configuration stays as it is, and the one that
was sent is in force when the answer comes. -/
theorem exchanges_are_serial (run : RunOf spec h e) :
    (∀ t u c d, c.needsLock = true → d.needsLock = true → Outstanding t c h →
      Outstanding u d h → t = u ∧ c = d) ∧
    (∀ h₁ first mid last h₂ t c, h = h₁ ++ first :: mid ++ last :: h₂ →
      .call t c ∈ first.effects →
      c.needsLock = true → (∀ m ∈ mid, ∀ o, .finish t o ∉ m.effects) →
      last.after.config = first.after.config) ∧
    ∀ t min max change, Outstanding t (.report min max change) h →
      min = e.config.minInterval ∧ max = e.config.maxInterval ∧
      change = e.config.change := by
  refine ⟨fun t u c d needs needs' first second => ?_, ?_,
    fun t min max change => run.report_in_force⟩
  · obtain ⟨p, stage, awaits⟩ := run.awaits_of_outstanding first
    obtain ⟨q, stage', awaits'⟩ := run.awaits_of_outstanding second
    obtain rfl := run.exclusive.same stage (holdsLock_of_awaits awaits needs) stage'
      (holdsLock_of_awaits awaits' needs')
    exact ⟨rfl, run.same_call needs first second⟩
  · intro h₁ first mid last h₂ t c split call needs unfinished
    subst split
    obtain ⟨before, taken⟩ := run.reaches_before
    have engaged : Engaged t first.after.config (h₁ ++ first :: mid) :=
      ⟨h₁, first, mid, rfl, ⟨⟨c, call, needs⟩, rfl⟩, unfinished⟩
    obtain ⟨same, p, stage, holds⟩ := before.engaged engaged
    rw [taken]
    exact ((step_move ..).config_of_held before.exclusive stage holds).trans same

/-- The hall sensor is bound and sent its configuration, while a reconciliation and an
opening anew queue up. -/
def crowded : List (Nat × Event) :=
  [(0, .start 0 (.exchange .activate)),
    (0, .start 1 (.exchange (.reconcile { minInterval := some 30 }))),
    (0, .start 2 (.exchange .reopen)), (1, .reply 0 .ok)]

theorem crowded_waits_in_line :
    let (h, e) := play step hallEngine crowded
    RunOf hallSensor h e ∧ Outstanding 0 (.report 1 7200 none) h ∧
      (∀ u d, d.needsLock = true → Outstanding u d h → u = 0) ∧ e.config.minInterval = 1 ∧
      e.stage? 1 = some (.queued (.reconcile { minInterval := some 30 })) ∧
      e.stage? 2 = some (.queued .reopen) := by
  have run := RunOf.play_hall crowded
  have sent : Outstanding 0 (.report 1 7200 none) (play step hallEngine crowded).1 :=
    ⟨[_, _, _], _, [], rfl, List.mem_singleton_self _, by simp⟩
  obtain ⟨alone, -, inForce⟩ := exchanges_are_serial run
  refine ⟨run, sent, fun u d needs other => ?_, (inForce _ _ _ _ sent).1.symm, rfl, rfl⟩
  exact (alone 0 u _ d rfl needs sent other).1.symm

end
end Engine
end MeshReadings
