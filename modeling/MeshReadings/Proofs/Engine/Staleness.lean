import MeshReadings.Proofs.Engine.Readings

/-!
When readings are stale. A binding keeps the time of its latest reading and the period of
its latest turn to reports or to polls. Nothing but a reading moves the time, and nothing
but a turn that the binding takes moves the period, so a failure, an opening anew or a
value that cannot be decoded neither refreshes a reading nor loses it.
-/

namespace MeshReadings

theorem Binding.mark_lastUpdate (b : Binding) (m : Mark) :
    (b.mark m).lastUpdate = b.lastUpdate := by
  simp only [mark]
  split <;> rfl

theorem Reporting.Config.pollingPeriod_of_ofDefaults? {d : Defaults} {c : Config}
    (made : ofDefaults? d = some c) :
    c.pollingPeriod = between pollingFloor pollingCeiling d.pollingPeriod.toNat := by
  cases measured : d.change with
  | none =>
      simp only [ofDefaults?, measured, Option.some.injEq] at made
      rw [← made]
  | some b =>
      simp only [ofDefaults?, measured, withChange?, Option.ite_none_right_eq_some,
        Option.some.injEq] at made
      rw [← made.2]

namespace Engine
open Binding (Mark)

/-- The binding turns to reports or to polls, with a period for either. A failed one takes
no turn. -/
def Turns (period : Nat) (m : Moment) : Prop :=
  m.before.disposed = false ∧ m.before.state ≠ .failed ∧
    ∃ t mark, Settles m.before m.now m.event t mark ∧ mark.period? = some period

/-- The period of the latest turn, and before the first the one that the spec starts
from. -/
def InForce (spec : Spec) (period : Nat) (h : History) : Prop :=
  Since (fun _ m => Turns period m) (fun m => ∀ p, ¬ Turns p m) h ∨
    (∀ m ∈ h, ∀ p, ¬ Turns p m) ∧
      period = Reporting.between Reporting.pollingFloor Reporting.pollingCeiling
        spec.defaults.pollingPeriod.toNat

/-- When the latest reading arrived. -/
def lastHeard? (d : Decoder) (h : History) : Option Nat :=
  (h.filterMap fun m => (reading? d m).map fun _ => m.now).getLast?

theorem lastHeard?_snoc (d : Decoder) (h : History) (m : Moment) :
    lastHeard? d (h ++ [m]) =
      ((reading? d m).map fun _ => m.now).or (lastHeard? d h) := by
  cases reading : reading? d m <;> simp [lastHeard?, reading]

theorem inForce_snoc (spec : Spec) (period : Nat) (h : History) (m : Moment) :
    InForce spec period (h ++ [m]) ↔
      Turns period m ∨ (∀ p, ¬ Turns p m) ∧ InForce spec period h := by
  simp only [InForce, since_snoc, List.forall_mem_append, List.forall_mem_singleton]
  grind

section
variable {e : Engine} {now : Nat} {event : Event} {s : Step} {t : Ticket} {m : Mark}

/-- A command of a live engine that comes to its end marks the binding. -/
theorem Settles.step (settles : Settles e now event t m) (live : e.disposed = false) :
    e.step now event =
      (e.transition (·.mark m)).finish t (.settled (e.binding.mark m).state) := by
  have settled (m : Mark) : e.settle t (·.mark m) =
      (e.transition (·.mark m)).finish t (.settled (e.binding.mark m).state) :=
    if_neg (by simp [live])
  cases settles with
  | bindRefused stage | reportRefused stage =>
      simp only [Engine.step, reply, stage, settled]
  | bindLost stage other recoverable | reportLost stage other recoverable =>
      simp only [Engine.step, reply, stage, settleFault, if_neg other,
        if_pos recoverable, settled]
  | bindFailed stage other fatal | reportFailed stage other fatal =>
      simp only [Engine.step, reply, stage, settleFault, if_neg other, fatal,
        Bool.false_eq_true, if_false, settled]
  | bindExpired stage late | reportExpired stage late =>
      simp only [Engine.step, expire, stage, if_pos late]
      exact settled _
  | @reportAccepted _ _ _ _ _ r stage success =>
      cases r with
      | ok | reading _ => simp only [Engine.step, reply, stage, settled]
      | refused _ | fault _ => simp [Reply.isSuccess] at success

theorem period_of_turns {period : Nat} (turns : Turns period (.taken step e now event)) :
    (e.step now event).1.binding.period = period := by
  obtain ⟨live, sound, t, m, settles, given⟩ := turns
  dsimp only [Moment.taken] at live sound settles
  rw [settles.step live]
  change (e.binding.mark m).period = period
  rw [Binding.mark_period _ _ sound, given, Option.getD_some]

/-- Only a turn moves the period of a live engine. -/
theorem Move.period (move : Move e now event s)
    (still : ∀ p, ¬ Turns p ⟨now, event, e, s.1, s.2⟩) (live : s.1.disposed = false) :
    s.1.binding.period = e.binding.period := by
  have before := move.live_before live
  have kept {m : Mark} (same : e.state ≠ .failed → m.period? = none) :
      (e.binding.mark m).period = e.binding.period := by
    by_cases failed : e.binding.state = .failed
    · rw [Binding.mark_of_failed failed]
    · rw [Binding.mark_period _ _ failed, same failed, Option.getD_none]
  cases move with
  | settled settles =>
      refine kept fun sound => Option.eq_none_iff_forall_ne_some.mpr fun p given => ?_
      exact still p ⟨before, sound, _, _, settles, given⟩
  | bound => exact kept fun _ => rfl
  | readFailed =>
      rw [afterRead_binding]
      exact kept fun _ => rfl
  | readSkipped | readOver => exact congrArg Binding.period (afterRead_binding ..)
  | readNoted =>
      rw [afterRead_binding]
      rfl
  | disposed => cases live
  | _ => rfl

/-- Only a reading moves the time of the latest one, while the engine is live. -/
theorem Move.lastUpdate (move : Move e now event s) (quiet : e.arrival? event = none)
    (live : s.1.disposed = false) : s.1.binding.lastUpdate = e.binding.lastUpdate := by
  cases move with
  | bound | settled => exact Binding.mark_lastUpdate _ _
  | readSkipped | readOver => exact congrArg Binding.lastUpdate (afterRead_binding ..)
  | readFailed =>
      rw [afterRead_binding]
      exact Binding.mark_lastUpdate _ _
  | readNoted stage before => simp [arrival?, before, stage, Stage.isReading] at quiet
  | noted before => simp [arrival?, before] at quiet
  | disposed => cases live
  | _ => rfl

theorem lastUpdate_step (live : (e.step now event).1.disposed = false) :
    (e.step now event).1.binding.lastUpdate =
      ((reading? e.decoder (.taken step e now event)).map fun _ => now).or
        e.binding.lastUpdate := by
  have before := (step_move e now event).live_before live
  simp only [reading?, Moment.taken]
  cases arrival : e.arrival? event with
  | none => exact (step_move e now event).lastUpdate arrival live
  | some raw =>
      rw [(step_of_arrival now arrival).1, notice_of_live before, Option.bind_some]
      cases (e.decoder.decode raw).toOption <;> rfl

end

section
variable {spec : Spec} {h : History} {e : Engine}

theorem RunOf.lastUpdate (run : RunOf spec h e) :
    e.disposed = false → e.binding.lastUpdate = lastHeard? spec.decoder h := by
  refine run.induct (P := fun h e => e.disposed = false →
    e.binding.lastUpdate = lastHeard? spec.decoder h) ?_ ?_
  · intro e opened _
    obtain ⟨c, -, rfl⟩ := Option.map_eq_some_iff.mp opened
    rfl
  · intro h e now event run ih live
    rw [lastUpdate_step live, lastHeard?_snoc,
      ih ((step_move e now event).live_before live), run.channel_decoder.2]
    rfl

theorem RunOf.inForce_iff (run : RunOf spec h e) :
    e.disposed = false → ∀ period, InForce spec period h ↔ period = e.binding.period := by
  refine run.induct (P := fun h e => e.disposed = false →
    ∀ period, InForce spec period h ↔ period = e.binding.period) ?_ ?_
  · intro e opened _ period
    obtain ⟨c, made, rfl⟩ := Option.map_eq_some_iff.mp opened
    simp [InForce, not_since_nil, Binding.create,
      Reporting.Config.pollingPeriod_of_ofDefaults? made]
  · intro h e now event run ih live period
    have move := step_move e now event
    rw [inForce_snoc]
    by_cases turns : ∃ p, Turns p (.taken step e now event)
    · obtain ⟨p, turned⟩ := turns
      have still : ¬ ∀ p, ¬ Turns p (.taken step e now event) :=
        fun still => still p turned
      simp only [still, false_and, or_false, period_of_turns turned]
      refine ⟨fun other => (period_of_turns other).symm.trans (period_of_turns turned),
        ?_⟩
      rintro rfl
      exact turned
    · have still : ∀ p, ¬ Turns p (.taken step e now event) :=
        fun p turned => turns ⟨p, turned⟩
      simp only [still, not_false_eq_true, implies_true, true_and, false_or]
      rw [ih (move.live_before live) period, move.period still live]

/-- A reading sets the time of the latest one, and nothing else touches it. -/
theorem RunOf.lastUpdate_moments (run : RunOf spec h e) :
    e.disposed = false → ∀ m ∈ h, m.after.binding.lastUpdate =
      if (reading? spec.decoder m).isSome then some m.now
          else m.before.binding.lastUpdate := by
  refine run.induct
    (P := fun h e => e.disposed = false → ∀ m ∈ h, m.after.binding.lastUpdate =
      if (reading? spec.decoder m).isSome then some m.now
      else m.before.binding.lastUpdate) ?_ ?_
  · simp
  · intro h e now event run ih live m member
    obtain earlier | latest := List.mem_append.mp member
    · exact ih ((step_move e now event).live_before live) m earlier
    · obtain rfl := List.mem_singleton.mp latest
      change (e.step now event).1.binding.lastUpdate = _
      rw [lastUpdate_step live, run.channel_decoder.2]
      cases reading? spec.decoder (.taken step e now event) <;> rfl

/-- A live engine is stale exactly if it never had a reading or the latest one, whether it
was published or not, is older than the one period that is in force. A reading sets the
time of the latest one, and nothing else touches it. -/
theorem stale_iff_silent_too_long (run : RunOf spec h e) (live : e.disposed = false) :
    (∃ period, (∀ p, InForce spec p h ↔ p = period) ∧ ∀ now,
      (e.isStale now = true ↔ lastHeard? spec.decoder h = none ∨
        ∃ heard, lastHeard? spec.decoder h = some heard ∧ heard + 1000 * period < now)) ∧
    ∀ m ∈ h, m.after.binding.lastUpdate =
      if (reading? spec.decoder m).isSome then some m.now
          else m.before.binding.lastUpdate := by
  refine ⟨⟨e.binding.period, run.inForce_iff live, fun now => ?_⟩,
    run.lastUpdate_moments live⟩
  simp only [isStale, Binding.isStale, run.lastUpdate live]
  cases lastHeard? spec.decoder h with
  | none => simp
  | some heard =>
      simp only [decide_eq_true_eq, reduceCtorEq, Option.some.injEq,
        exists_eq_left', false_or]
      omega

/-- The hall sensor refuses to bind and is polled once a day from then on. It says twice
that someone is there, and then something that nobody understands; the gateway closes
under a read, and the engine is opened anew. -/
def hallFallsSilent : List (Nat × Event) :=
  [(0, .notify (.bool true)), (1, .start 0 (.exchange .activate)),
    (2, .reply 0 (.refused "NOT_SUPPORTED")),
    (5000, .notify (.bool true)), (6000, .notify (.text "?")), (7000, .start 1 .refresh),
    (8000, .reply 1 (.fault .gatewayClosed)), (9000, .start 2 (.exchange .reopen)),
    (9001, .reply 2 .ok)]

theorem day_of_silence_is_stale :
    let (h, e) := play step hallEngine hallFallsSilent
    RunOf hallSensor h e ∧ e.disposed = false ∧ InForce hallSensor 86400 h ∧
      lastHeard? hallSensor.decoder h = some 5000 ∧ e.isStale 86405000 = false ∧
      e.isStale 86405001 = true := by
  have run := RunOf.play_hall hallFallsSilent
  have heard : lastHeard? hallSensor.decoder (play step hallEngine hallFallsSilent).1 =
      some 5000 := by
    decide
  obtain ⟨⟨period, only, stale⟩, -⟩ := stale_iff_silent_too_long run rfl
  have inForce : InForce hallSensor 86400 (play step hallEngine hallFallsSilent).1 :=
    (run.inForce_iff rfl 86400).mpr rfl
  obtain rfl := (only 86400).mp inForce
  simp only [heard, reduceCtorEq, Option.some.injEq, exists_eq_left', false_or] at stale
  refine ⟨run, rfl, inForce, heard, ?_, (stale _).mpr (by decide)⟩
  exact Bool.eq_false_iff.mpr fun early => absurd ((stale _).mp early) (by decide)

end
end Engine
end MeshReadings
