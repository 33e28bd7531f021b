import MeshReadings.Proofs.Engine.LastingFailure
import MeshReadings.Proofs.Engine.Serialization

/-!
Replies that come too late. Opening an engine anew begins a new life of its binding. It
waits for the lock, so no bind or reporting configuration is in flight when it succeeds,
but a read may be. So the binding fails by a fault that belongs to an earlier life exactly
when the fault answers a read during which the engine was opened anew.
-/

namespace MeshReadings
namespace Engine

/-- An operation made a call and has waited for the answer since, and the engine was not
opened anew meanwhile. -/
def Timely (t : Ticket) (c : Call) (h : History) : Prop :=
  Since (fun _ m => .call t c ∈ m.effects) (fun m => Unmoved t m ∧ ¬ Reopened m) h

/-- The engine was opened anew while a read was outstanding, which it still is. -/
def ReadOutlives (t : Ticket) (h : History) : Prop :=
  Since (fun h m => Outstanding t .read h ∧ Unmoved t m ∧ Reopened m) (Unmoved t) h

/-- The binding fails, but by no fault that answers a command of its own life. -/
def FailsLate (h : History) (m : Moment) : Prop :=
  Fails m ∧ ¬ ∃ t c f, m.event = .reply t (.fault f) ∧ f.isRecoverable = false ∧
    c.isCommand = true ∧ Timely t c h

theorem timely_snoc (t : Ticket) (c : Call) (h : History) (m : Moment) :
    Timely t c (h ++ [m]) ↔
      .call t c ∈ m.effects ∨ Timely t c h ∧ Unmoved t m ∧ ¬ Reopened m :=
  since_snoc h m

theorem readOutlives_snoc (t : Ticket) (h : History) (m : Moment) :
    ReadOutlives t (h ++ [m]) ↔
      (Outstanding t .read h ∧ Reopened m ∨ ReadOutlives t h) ∧ Unmoved t m := by
  rw [ReadOutlives, since_snoc, or_and_right, and_assoc,
    and_comm (a := Reopened m), ReadOutlives]

section
variable {spec : Spec} {h : History} {e : Engine} {t : Ticket} {c d : Call} {p : Stage}

theorem needsLock_of_negotiates (negotiates : c.negotiates = true) :
    c.needsLock = true := by
  cases c with
  | bind | report _ _ _ => rfl
  | resolve | read | listen | unlisten => cases negotiates

theorem isCommand_eq_of_awaits (awaits : p.Awaits c) (awaits' : p.Awaits d) :
    c.isCommand = d.isCommand := by
  cases p with
  | configuring _ _ _ _ =>
      obtain ⟨_, _, rfl⟩ := awaits
      obtain ⟨_, _, rfl⟩ := awaits'
      rfl
  | binding _ _ _ _ | resolving | reading _ _ | unlistening =>
      exact congrArg _ (awaits.trans awaits'.symm)
  | queued _ | arming _ | waiting _ _ _ => cases awaits

/-- A bind or a reporting configuration is never outstanding while the engine is opened
anew, because both need the lock. -/
theorem RunOf.timely_of_negotiates (run : RunOf spec h e)
    (negotiates : c.negotiates = true) (outstanding : Outstanding t c h) :
    Timely t c h := by
  refine run.since_induct (I := fun h _ => Timely t c h) ?_ ?_ outstanding
  · intro h e now event _ call
    exact (timely_snoc ..).mpr (.inl call)
  · intro h e now event run earlier timely unmoved
    refine (timely_snoc ..).mpr (.inr ⟨timely, unmoved, fun reopened => ?_⟩)
    -- Whoever opens the engine anew has the lock, and so does whoever waits for the
    -- answer: they are the same.
    obtain ⟨p, stage, awaits⟩ := run.awaits_of_outstanding earlier
    obtain ⟨u, resolving, -⟩ := reopened
    have holds := holdsLock_of_awaits awaits (needsLock_of_negotiates negotiates)
    obtain rfl := run.exclusive.same stage holds resolving rfl
    cases stage.symm.trans resolving
    cases awaits
    cases negotiates

/-- A read that is outstanding was made in the present life of the engine, or outlives the
one it was made in. -/
theorem RunOf.timely_or_outlives (run : RunOf spec h e)
    (outstanding : Outstanding t .read h) : Timely t .read h ∨ ReadOutlives t h := by
  refine run.since_induct (I := fun h _ => Timely t .read h ∨ ReadOutlives t h)
    ?_ ?_ outstanding
  · intro h e now event _ call
    exact Or.inl ((timely_snoc ..).mpr (.inl call))
  · intro h e now event _ earlier either unmoved
    rw [timely_snoc, readOutlives_snoc]
    by_cases reopened : Reopened (.taken step e now event)
    · exact Or.inr ⟨.inl ⟨earlier, reopened⟩, unmoved⟩
    · exact either.imp (fun timely => .inr ⟨timely, unmoved, reopened⟩) fun late =>
        ⟨.inr late, unmoved⟩

theorem RunOf.not_timely (run : RunOf spec h e) (outlives : ReadOutlives t h) :
    ¬ Timely t c h := by
  have uncalled {e : Engine} {now : Nat} {event : Event}
      (unmoved : Unmoved t (.taken step e now event)) :
      .call t c ∉ (e.step now event).2 := by
    intro call
    obtain ⟨p, stage, -, other⟩ := (step_move e now event).awaits_of_call call
    exact other (unmoved.symm.trans stage)
  refine run.since_induct (I := fun h _ => ¬ Timely t c h) ?_ ?_ outlives
  · intro h e now event _ crossed timely
    obtain ⟨-, unmoved, reopened⟩ := crossed
    obtain call | ⟨-, -, kept⟩ := (timely_snoc ..).mp timely
    · exact uncalled unmoved call
    · exact kept reopened
  · intro h e now event _ _ late unmoved timely
    obtain call | ⟨earlier, -⟩ := (timely_snoc ..).mp timely
    · exact uncalled unmoved call
    · exact late earlier

theorem RunOf.read_of_outlives (run : RunOf spec h e) (outlives : ReadOutlives t h) :
    Outstanding t .read h := by
  refine run.since_induct (I := fun h _ => Outstanding t .read h) ?_ ?_ outlives
  · intro h e now event _ crossed
    exact (outstanding_snoc ..).mpr (.inr ⟨crossed.1, crossed.2.1⟩)
  · intro h e now event _ _ outstanding unmoved
    exact (outstanding_snoc ..).mpr (.inr ⟨outstanding, unmoved⟩)

/-- At every step of every run, the binding fails by no fault of its present life if and
only if the fault answers a read during which the engine was opened anew. -/
theorem fails_late_iff (run : RunOf spec h e) (now : Nat) (event : Event) :
    FailsLate h (.taken step e now event) ↔
      e.disposed = false ∧ e.state ≠ .failed ∧
        ∃ t f, event = .reply t (.fault f) ∧ f.isRecoverable = false ∧
          ReadOutlives t h := by
  constructor
  · intro late
    obtain ⟨fails, untimely⟩ := late
    have move := step_move e now event
    have failed : (e.step now event).1.state = .failed := fails.2
    have live := move.live_before ((run.next now event).released.live (by simp [failed]))
    obtain ⟨-, t, p, f, c, answers, fatal, stage, awaits, command⟩ := move.fails fails
    have untimely {c : Call} (command : c.isCommand = true) : ¬ Timely t c h :=
      fun timely =>
      untimely ⟨t, c, f, answers, fatal, command, timely⟩
    refine ⟨live, fails.1, t, f, answers, fatal, ?_⟩
    obtain ⟨d, outstanding, awaits'⟩ := run.outstanding_of_awaits stage awaits
    cases d with
    | bind | report _ _ _ =>
        exact absurd (run.timely_of_negotiates rfl outstanding) (untimely rfl)
    | read => exact (run.timely_or_outlives outstanding).resolve_left (untimely rfl)
    | resolve | listen | unlisten =>
        cases (isCommand_eq_of_awaits awaits awaits').symm.trans command
  · intro late
    obtain ⟨live, sound, t, f, rfl, fatal, outlives⟩ := late
    obtain ⟨p, stage, awaits⟩ := run.awaits_of_outstanding (run.read_of_outlives outlives)
    cases p with
    | reading d q =>
        refine ⟨⟨sound, state_of_read_fails live ⟨t, d, q, f, rfl, fatal, stage⟩⟩,
          fun timely => ?_⟩
        obtain ⟨u, c, g, same, -, -, timely⟩ := timely
        cases same
        exact run.not_timely outlives timely
    | configuring _ _ _ _ =>
        obtain ⟨_, _, same⟩ := awaits
        cases same
    | _ => cases awaits

/-- While the hall sensor is read its binding fails, is opened anew, and reports. -/
def readAcrossReopening : List (Nat × Event) :=
  [(0, .start 0 .refresh), (1, .start 1 (.exchange .activate)),
    (2, .reply 1 (.fault .gatewayClosed)),
    (3, .start 2 (.exchange .reopen)), (4, .reply 2 .ok),
    (5, .start 3 (.exchange .activate)), (6, .reply 3 .ok), (7, .reply 3 .ok)]

theorem fresh_binding_fails_late :
    let (h, e) := play step hallEngine readAcrossReopening
    RunOf hallSensor h e ∧ e.state = .reporting ∧
      FailsLate h (.taken step e 8 (.reply 0 (.fault .gatewayClosed))) := by
  have run := RunOf.play_hall readAcrossReopening
  have asked :
      Outstanding 0 .read (play step hallEngine (readAcrossReopening.take 4)).1 :=
    ⟨[], _, [_, _, _], rfl, List.mem_singleton_self _, by simpa using ⟨rfl, rfl, rfl⟩⟩
  have outlives : ReadOutlives 0 (play step hallEngine readAcrossReopening).1 :=
    ⟨[_, _, _, _], _, [_, _, _], rfl, ⟨asked, rfl, 2, rfl, List.mem_singleton_self _⟩,
      by simpa using ⟨rfl, rfl, rfl⟩⟩
  exact ⟨run, rfl,
    (fails_late_iff run 8 _).mpr ⟨rfl, by decide, 0, .gatewayClosed, rfl, rfl, outlives⟩⟩

end
end Engine
end MeshReadings
