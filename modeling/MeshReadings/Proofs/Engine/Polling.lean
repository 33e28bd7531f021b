import MeshReadings.Proofs.Engine.Cancellation
import MeshReadings.Proofs.Engine.Outstanding

/-!
When pollers read. The clock is taken to be one that waits for the engine: time passes
only while nobody can go on, so nobody is late. Whoever polls is then woken at the
very end of a wait or at the very moment of a transition, and a wait that ends in a read
was a full one. Disposal always leaves a poller a branch to go on with, and few turns to
take.
-/

namespace MeshReadings
namespace Engine

/-- The version of the signal that a poller has seen. -/
def Stage.seen? : Stage → Option Nat
  | .arming seen | .waiting _ _ seen | .reading _ (some seen) => some seen
  | _ => none

/-- The time that a history has come to. -/
def timeOf (h : History) : Nat := (h.getLast?.map (·.now)).getD 0

/-- Time has not gone back, and it has passed only while nobody could go on without the
gateway. -/
def OnTime (h : History) (m : Moment) : Prop :=
  timeOf h ≤ m.now ∧ ∀ s, timeOf h ≤ s → s < m.now → m.before.Stalled s

def Clocked (h : History) : Prop := ∀ h₁ m h₂, h = h₁ ++ m :: h₂ → OnTime h₁ m

/-- Events that come on time, from a time on. -/
inductive Punctual : Engine → Nat → List (Nat × Event) → Prop
  | nil {e d} : Punctual e d []
  | atOnce {e d event rest} (next : Punctual (e.step d event).1 d rest) :
      Punctual e d ((d, event) :: rest)
  | later {e d now event rest} (late : d ≤ now) (stalled : ∀ s, s < now → e.Stalled s)
      (next : Punctual (e.step now event).1 now rest) :
      Punctual e d ((now, event) :: rest)

/-- A transition of the binding is signalled. -/
def Signals (m : Moment) : Prop := m.after.signal.version ≠ m.before.signal.version

/-- A poller began to wait at a time, for the binding's period at that time, and has
waited since. -/
def WaitsSince (t : Ticket) (since period : Nat) (h : History) : Prop :=
  Since (fun _ m => m.now = since ∧ period = max m.after.binding.period 1 ∧
    ∃ seen, m.after.stage? t = some (.waiting since period seen)) (Unmoved t) h

/-- A wait of a poller is as long as its period says, and a transition during it is one of
this very moment, which the poller has yet to see. -/
structure Paced (h : History) (e : Engine) (t : Ticket) (since period seen : Nat) :
    Prop where
  waits : WaitsSince t since period h
  inTime : timeOf h ≤ since + 1000 * period
  transitions : ∀ m ∈ h, Signals m → since < m.now →
      m.now = timeOf h ∧ seen < e.signal.version

instance (t : Ticket) (m : Moment) : Decidable (Unmoved t m) :=
  inferInstanceAs (Decidable (_ = _))

/-- The turns that an operation takes in a history. -/
def turnsIn (t : Ticket) (h : History) : Nat := h.countP fun m => ¬ Unmoved t m

/-- The turns of its loop that the poller of a disposed engine still takes at most: one to
stop, one for a wait that is over, one for a transition it has yet to see, and one to come
to a wait at all. -/
def turnsToStop (e : Engine) (now : Nat) (t : Ticket) : Nat :=
  match e.stage? t with
  | some (.waiting since period seen) =>
    1 + (if since + 1000 * period ≤ now then 1 else 0) + if seen = e.signal.version then 0
      else 1
  | some (.arming seen) | some (.reading _ (some seen)) =>
      2 + if seen = e.signal.version then 0 else 1
  | _ => 0

section
variable {e : Engine} {now : Nat} {event : Event} {s : Step} {t : Ticket} {h : History}

@[simp] theorem timeOf_snoc (h : History) (m : Moment) : timeOf (h ++ [m]) = m.now := by
  simp [timeOf]

theorem clocked_snoc {m : Moment} (clocked : Clocked (h ++ [m])) :
    Clocked h ∧ OnTime h m := by
  refine ⟨fun h₁ m' h₂ split => ?_, clocked h m [] rfl⟩
  exact clocked h₁ m' (h₂ ++ [m]) (by rw [split, List.append_assoc, List.cons_append])

theorem Clocked.snoc {m : Moment} (clocked : Clocked h) (onTime : OnTime h m) :
    Clocked (h ++ [m]) := by
  intro h₁ m' h₂ split
  obtain ⟨rfl, rfl, -⟩ | ⟨h₃, -, earlier⟩ := snoc_eq_split split
  · exact onTime
  · exact clocked h₁ m' h₃ earlier

theorem Clocked.append_play {events : List (Nat × Event)} (clocked : Clocked h)
    (punctual : Punctual e (timeOf h) events) :
    Clocked (h ++ (play step e events).1) := by
  generalize since : timeOf h = d at punctual
  induction punctual generalizing h with
  | nil => simpa [play] using clocked
  | @atOnce e d event rest _ ih =>
      have onTime : OnTime h (.taken step e d event) := by
        refine ⟨Nat.le_of_eq since, fun s early late => ?_⟩
        rw [since] at early
        exact absurd early (Nat.not_le_of_lt late)
      simpa [play] using ih (clocked.snoc onTime) (timeOf_snoc ..)
  | @later e d now event rest late stalled _ ih =>
      have onTime : OnTime h (.taken step e now event) :=
        ⟨since ▸ late, fun s _ => stalled s⟩
      simpa [play] using ih (clocked.snoc onTime) (timeOf_snoc ..)

theorem clocked_of_append {h₁ h₂ : History} (clocked : Clocked (h₁ ++ h₂)) :
    Clocked h₁ := by
  intro l m l' split
  exact clocked l m (l' ++ h₂) (by rw [split, List.append_assoc, List.cons_append])

theorem Clocked.le_timeOf {h : History} (clocked : Clocked h) :
    ∀ m ∈ h, m.now ≤ timeOf h := by
  rcases List.eq_nil_or_concat h with rfl | ⟨h', last, rfl⟩
  · simp
  · rw [List.concat_eq_append] at clocked ⊢
    obtain ⟨earlier, onTime, -⟩ := clocked_snoc clocked
    intro m member
    rw [timeOf_snoc]
    rcases List.mem_append.mp member with before | same
    · exact Nat.le_trans (Clocked.le_timeOf earlier m before) onTime
    · exact Nat.le_of_eq (congrArg (·.now) (List.mem_singleton.mp same))
termination_by h.length
decreasing_by simp [*]

/-- No time passes while somebody can go on. -/
theorem OnTime.now_eq {m : Moment} (onTime : OnTime h m) {d : Nat}
    (earlier : timeOf h ≤ d) (ready : m.before.ready? d t ≠ none) : m.now ≤ d := by
  apply Nat.le_of_not_lt
  intro passed
  exact ready (onTime.2 d earlier passed t)

theorem ready?_of_due {since period seen : Nat}
    (stage : e.stage? t = some (.waiting since period seen)) :
    e.ready? (since + 1000 * period) t ≠ none := by
  simp only [ready?, deadline?, stage, Nat.le_refl, decide_true, if_true]
  split
  · simp
  · split <;> simp

theorem ready?_of_unseen {since period seen : Nat}
    (stage : e.stage? t = some (.waiting since period seen))
    (unseen : seen ≠ e.signal.version) (now : Nat) : e.ready? now t ≠ none := by
  simp only [ready?, stage, if_pos unseen]
  split <;> simp

/-- Before its deadline nobody can go on who has seen all transitions. -/
theorem ready?_early {d : Nat} (live : e.disposed = false)
    (deadline : e.deadline? t = some d) (early : now < d)
    (caughtUp : ∀ since period seen, e.stage? t = some (.waiting since period seen) →
      seen = e.signal.version) :
    e.ready? now t = none := by
  have undue : ¬ d ≤ now := Nat.not_le_of_lt early
  cases stage : e.stage? t with
  | none => simp only [ready?, stage]
  | some p =>
      cases p with
      | queued _ | arming _ => simp [deadline?, stage] at deadline
      | waiting since period seen =>
          simp [ready?, stage, live, deadline, undue, caughtUp _ _ _ stage]
      | _ => simp [ready?, stage, live, deadline, undue]

/-- A transition makes a new version, and a disposed engine makes no transitions. -/
theorem Move.version (move : Move e now event s) :
    s.1.signal = e.signal ∨
    e.disposed = false ∧ s.1.signal.version = e.signal.version + 1 := by
  cases move with
  | bound _ _ live | settled _ live | reopened _ live | disposed _ live =>
      exact Or.inr ⟨live, rfl⟩
  | readFailed _ live => exact Or.inr ⟨live, by simp [transition]⟩
  | readSkipped | readOver => exact Or.inl (afterRead_signal ..)
  | readNoted => exact Or.inl (afterRead_signal ..)
  | _ => exact Or.inl rfl

theorem stage?_after_read {p : Option Nat} {u : Ticket} {q : Stage}
    (after : (e.afterRead now t p).1.stage? u = some q) :
    (∃ seen, p = some seen ∧ u = t ∧ q = .waiting now (max e.binding.period 1) seen) ∨
      e.stage? u = some q := by
  cases p with
  | none => exact Or.inr (stage?_of_finish after)
  | some seen =>
      obtain ⟨same, rfl⟩ | before := stage?_of_wait after
      · exact Or.inl ⟨seen, rfl, same, rfl⟩
      · exact Or.inr before

/-- A poller that waits has done so before the step, or begins now to wait for the present
period. -/
theorem Move.waits (move : Move e now event s) {since period seen : Nat}
    (after : s.1.stage? t = some (.waiting since period seen)) :
    e.stage? t = some (.waiting since period seen) ∨
    since = now ∧ period = max s.1.binding.period 1 := by
  cases move with
  | idle | noted => exact Or.inl after
  | turnedAway | stayedFailed | stored | settled | dropped | resolveFailed | reopenedLate
  | reopened | disposedAgain | unlistened | pollerStopped =>
      have before := stage?_of_finish after
      exact Or.inl before
  | enqueued | pollStarted | bindSent | resolveSent | readSent | reportSent | bound
  | disposed =>
      obtain ⟨-, bad⟩ | before := stage?_of_wait after
      · cases bad
      · exact Or.inl before
  | rested =>
      obtain ⟨-, same⟩ | before := stage?_of_wait after
      · cases same
        exact Or.inr ⟨rfl, rfl⟩
      · exact Or.inl before
  | readSkipped | readOver | readNoted | readFailed =>
      obtain ⟨_, -, -, same⟩ | before := stage?_after_read after
      · cases same
        exact Or.inr ⟨rfl, by simp⟩
      · exact Or.inl before

/-- What an event that is about a poller between two polls lets it do. -/
inductive Paces (e : Engine) (now : Nat) (t : Ticket) : Stage → Step → Prop
  | unmoved {p} : Paces e now t p (e, [])
  | begun {seen} : Paces e now t (.arming seen) (e.rest now t seen)
  | unpolled {since period seen} (elapsed : since + 1000 * period ≤ now) :
      Paces e now t (.waiting since period seen) (e.rest now t seen)
  | restarted {since period seen} (unseen : seen ≠ e.signal.version) :
      Paces e now t (.waiting since period seen) (e.rest now t e.signal.version)
  | read {since period seen} (elapsed : since + 1000 * period ≤ now) :
      Paces e now t (.waiting since period seen) (e.beginRead now t (some seen))
  | stopped {since period seen} :
      Paces e now t (.waiting since period seen) (e.finish t .done)

theorem paces_of_pause (now : Nat) {p : Stage} (stage : e.stage? t = some p)
    (pause : p.isPause = true) (about : event.ticket? = some t) :
    Paces e now t p (e.step now event) := by
  cases p with
  | arming seen =>
      cases event with
      | notify raw => cases about
      | proceed u =>
          cases about
          simp only [step, proceed, stage]
          exact .begun
      | start u r | reply u r | expire u | tick u | notice u | cancel u =>
          cases about
          simp only [step, reply, expire, Engine.cancel, tick, restart, stage,
            Option.isSome_some, if_true, ite_self]
          exact .unmoved
  | waiting since period seen =>
      cases event with
      | notify raw => cases about
      | tick u =>
          cases about
          simp only [step, tick, stage]
          split
          · next elapsed =>
              split
              · exact .read elapsed
              · exact .unpolled elapsed
          · exact .unmoved
      | notice u =>
          cases about
          simp only [step, restart, stage]
          split
          · next unseen => exact .restarted unseen
          · exact .unmoved
      | cancel u =>
          cases about
          simp only [step, Engine.cancel, stage]
          split
          · exact .unmoved
          · exact .stopped
      | start u r | reply u r | expire u | proceed u =>
          cases about
          simp only [step, reply, expire, proceed, stage, Option.isSome_some, if_true]
          exact .unmoved
  | _ => cases pause

theorem Paces.seen {p q : Stage} {v : Nat} (paces : Paces e now t p s)
    (stage : e.stage? t = some p) (after : s.1.stage? t = some q)
    (seen : q.seen? = some v) : p.seen? = some v ∨ v = e.signal.version := by
  have resting {w : Nat} (after : (e.rest now t w).1.stage? t = some q) : w = v := by
    rw [rest, stage?_wait, if_pos rfl] at after
    cases after
    exact Option.some.inj seen
  cases paces with
  | unmoved =>
      cases stage.symm.trans after
      exact Or.inl seen
  | begun | unpolled => exact Or.inl (congrArg some (resting after))
  | restarted => exact Or.inr (resting after).symm
  | read =>
      simp only [beginRead] at after
      split at after
      · exact Or.inl (congrArg some (resting after))
      · rw [stage?_wait, if_pos rfl] at after
        cases after
        exact Or.inl seen
  | stopped => simp at after

/-- What a poller has seen after a step it had seen before, or it is the version before
the step. -/
theorem seen_step {q : Stage} {v : Nat} (after : (e.step now event).1.stage? t = some q)
    (seen : q.seen? = some v) :
    (∃ p, e.stage? t = some p ∧ p.seen? = some v) ∨ v = e.signal.version := by
  have kept (before : e.stage? t = some q) :
      (∃ p, e.stage? t = some p ∧ p.seen? = some v) ∨ v = e.signal.version :=
    Or.inl ⟨q, before, seen⟩
  have read {e' : Engine} {u : Ticket} {d : Nat} {p : Option Nat}
      (stage : e.stage? u = some (.reading d p)) (same : e'.stage? t = e.stage? t)
      (after : (e'.afterRead now u p).1.stage? t = some q) :
      (∃ p, e.stage? t = some p ∧ p.seen? = some v) ∨ v = e.signal.version := by
    obtain ⟨w, rfl, rfl, rfl⟩ | before := stage?_after_read after
    · exact Or.inl ⟨_, stage, seen⟩
    · exact kept (same.symm.trans before)
  have move := step_move e now event
  generalize taken : e.step now event = s at move after
  cases move with
  | idle | noted => exact kept after
  | turnedAway | stayedFailed | stored | settled | dropped | resolveFailed | reopenedLate
  | reopened | disposedAgain | unlistened | pollerStopped =>
      have before := stage?_of_finish after
      exact kept before
  | enqueued | bindSent | resolveSent | reportSent | bound | disposed =>
      obtain ⟨-, rfl⟩ | before := stage?_of_wait after
      · cases seen
      · exact kept before
  | pollStarted =>
      obtain ⟨-, rfl⟩ | before := stage?_of_wait after
      · cases seen
        exact Or.inr rfl
      · exact kept before
  | readSent reads =>
      obtain ⟨rfl, rfl⟩ | before := stage?_of_wait after
      · cases reads with
        | asked => cases seen
        | due stage =>
            cases seen
            exact Or.inl ⟨_, stage, rfl⟩
      · exact kept before
  | readSkipped reads =>
      obtain ⟨w, rfl, rfl, rfl⟩ | before := stage?_after_read after
      · cases reads with
        | due stage =>
            cases seen
            exact Or.inl ⟨_, stage, rfl⟩
      · exact kept before
  | readNoted stage | readFailed stage | readOver _ stage =>
      refine read stage ?_ after
      rfl
  | @rested _ u p _ wakes stage pause =>
      by_cases same : t = u
      · subst same
        have paces := paces_of_pause now stage pause (ticket?_of_wakes wakes)
        rw [taken] at paces
        exact (paces.seen stage after seen).imp (fun seen => ⟨p, stage, seen⟩) id
      · rw [rest, stage?_wait, if_neg same] at after
        exact kept after

/-- No poller has seen more than there was to see. -/
def Watching (e : Engine) : Prop :=
  ∀ t p v, e.stage? t = some p → p.seen? = some v → v ≤ e.signal.version

theorem Move.version_le (move : Move e now event s) :
    e.signal.version ≤ s.1.signal.version := by
  obtain same | ⟨-, more⟩ := move.version
  · exact Nat.le_of_eq (congrArg (·.version) same.symm)
  · omega

theorem RunOf.watching {spec : Spec} (run : RunOf spec h e) : Watching e := by
  refine run.induct (P := fun _ e => Watching e) ?_ ?_
  · intro e opened t p v stage
    simp [stage?, (ofSpec?_eq_some opened).1] at stage
  · intro h e now event _ inv t q v after seen
    refine Nat.le_trans ?_ (step_move e now event).version_le
    obtain ⟨p, stage, before⟩ | same := seen_step after seen
    · exact inv t p v stage before
    · exact Nat.le_of_eq same

theorem RunOf.paced {spec : Spec} (run : RunOf spec h e) (clocked : Clocked h)
    {since period seen : Nat} (stage : e.stage? t = some (.waiting since period seen)) :
    Paced h e t since period seen := by
  refine run.induct (P := fun h e => Clocked h → ∀ {t since period seen}, e.stage? t =
    some (.waiting since period seen) → Paced h e t since period seen) ?_ ?_ clocked stage
  · intro e opened _ t since period seen stage
    simp [stage?, (ofSpec?_eq_some opened).1] at stage
  · intro h e now event run ih whole t since period seen after
    obtain ⟨clocked, onTime⟩ := clocked_snoc whole
    have move := step_move e now event
    obtain before | ⟨rfl, period⟩ := move.waits after
    · have paced := ih clocked before
      have inTime := onTime.now_eq paced.inTime (ready?_of_due before)
      refine ⟨(since_snoc ..).mpr (.inr ⟨paced.waits, after.trans before.symm⟩),
        by simpa using inTime, ?_⟩
      intro m member signals late
      rw [timeOf_snoc]
      rcases List.mem_append.mp member with earlier | last
      · obtain ⟨same, unseen⟩ := paced.transitions m earlier signals late
        have still :=
          onTime.now_eq (Nat.le_refl _) (ready?_of_unseen before (Nat.ne_of_lt unseen) _)
        exact ⟨same.trans (Nat.le_antisymm onTime.1 still),
          Nat.lt_of_lt_of_le unseen move.version_le⟩
      · obtain rfl := List.mem_singleton.mp last
        refine ⟨rfl, Nat.lt_of_le_of_lt (run.watching t _ _ before rfl) ?_⟩
        exact Nat.lt_of_le_of_ne move.version_le (Ne.symm signals)
    · refine ⟨(since_snoc ..).mpr (.inl ⟨rfl, period, seen, after⟩), ?_, ?_⟩
      · rw [timeOf_snoc]
        exact Nat.le_add_right ..
      intro m member _ late
      rcases List.mem_append.mp member with earlier | last
      · exact absurd (Nat.le_trans (clocked.le_timeOf m earlier) onTime.1)
          (Nat.not_le_of_lt late)
      · obtain rfl := List.mem_singleton.mp last
        exact absurd late (Nat.lt_irrefl _)

theorem Move.read_of_call (move : Move e now event s) (call : .call t .read ∈ s.2) :
    e.disposed = false ∧ ∃ p, Reads e now event t p := by
  cases move with
  | readSent reads live =>
      obtain ⟨rfl, -⟩ : t = _ ∧ True := by simpa using call
      exact ⟨live, _, reads⟩
  | idle | enqueued | turnedAway | stayedFailed | stored | settled | dropped
  | resolveFailed | reopenedLate | reopened | disposedAgain | unlistened | pollStarted
  | rested | pollerStopped | readSkipped | readNoted | readFailed | readOver | noted
  | bindSent | resolveSent | bound | disposed =>
      simp at call
  | reportSent => simp [report] at call

theorem Reads.due_of_poller {p : Option Nat} (reads : Reads e now event t p)
    (polls : p.isSome = true) :
    ∃ since period seen, e.stage? t = some (.waiting since period seen) ∧
      since + 1000 * period ≤ now ∧ e.state = .polling := by
  cases reads with
  | asked => cases polls
  | due stage elapsed polled => exact ⟨_, _, _, stage, elapsed, polled⟩

/-- A poller called before the wait it is in. -/
theorem WaitsSince.after_calls {spec : Spec} (run : RunOf spec h e) (clocked : Clocked h)
    {since period : Nat} (waits : WaitsSince t since period h) {m : Moment}
    (member : m ∈ h) {c : Call} (call : .call t c ∈ m.effects) : m.now ≤ since := by
  obtain ⟨h₁, began, h₂, rfl, ⟨rfl, -⟩, unmoved⟩ := waits
  have prior : ∀ m ∈ h₁ ++ [began], m.now ≤ began.now := by
    have earlier : Clocked ((h₁ ++ [began]) ++ h₂) := by simpa using clocked
    have latest := (clocked_of_append earlier).le_timeOf
    rwa [timeOf_snoc] at latest
  rw [List.append_cons] at member
  rcases List.mem_append.mp member with before | after
  · exact prior m before
  · obtain ⟨l, l', split⟩ := List.append_of_mem member
    rw [List.append_cons, split] at run
    have taken := run.reaches_before.2
    have move := step_move m.before m.now m.event
    have still := unmoved m after
    rw [taken] at call still
    obtain ⟨p, moved, -, other⟩ := move.awaits_of_call call
    exact absurd (still.symm.trans moved) other

theorem turnsToStop_le (e : Engine) (now : Nat) (t : Ticket) :
    e.turnsToStop now t ≤ 3 := by
  simp only [turnsToStop]
  repeat' split
  all_goals omega

theorem turnsToStop_rest (seen : Nat) :
    (e.rest now t seen).1.turnsToStop now t = 1 + if seen = e.signal.version then
      0 else 1 := by
  have ahead : ¬ now + 1000 * max e.binding.period 1 ≤ now := by omega
  simp only [turnsToStop, rest, stage?_wait, if_true, if_neg ahead]
  rfl

theorem turnsToStop_congr {e' : Engine} (stage : e'.stage? t = e.stage? t)
    (signal : e'.signal = e.signal) : e'.turnsToStop now t = e.turnsToStop now t := by
  simp only [turnsToStop, stage, signal]

theorem Paces.nearer {p : Stage} (paces : Paces e now t p s) (stage : e.stage? t = some p)
    (gone : e.disposed = true) :
    s.1 = e ∨ s.1.turnsToStop now t < e.turnsToStop now t := by
  cases paces with
  | unmoved => exact Or.inl rfl
  | begun =>
      refine Or.inr ?_
      rw [turnsToStop_rest]
      simp only [turnsToStop, stage]
      omega
  | unpolled elapsed =>
      refine Or.inr ?_
      rw [turnsToStop_rest]
      simp only [turnsToStop, stage, if_pos elapsed]
      omega
  | restarted unseen =>
      refine Or.inr ?_
      rw [turnsToStop_rest, if_pos rfl]
      simp only [turnsToStop, stage, if_neg unseen]
      omega
  | read elapsed =>
      refine Or.inr ?_
      simp only [beginRead, gone, Bool.true_or, if_true, afterRead]
      rw [turnsToStop_rest]
      simp only [turnsToStop, stage, if_pos elapsed]
      omega
  | stopped =>
      refine Or.inr ?_
      simp only [turnsToStop, stage?_finish, stage, if_true]
      omega

/-- A read of a disposed engine comes to its end without having brought anything. -/
theorem reading_step (now : Nat) {d : Nat} {p : Option Nat}
    (stage : e.stage? t = some (.reading d p)) (gone : e.disposed = true)
    (about : event.ticket? = some t) :
    (e.step now event).1 = e ∨ (e.step now event).1 = (e.afterRead now t p).1 := by
  cases event with
  | notify raw => cases about
  | start u r | proceed u | tick u | notice u =>
      cases about
      exact Or.inl (by simp [step, proceed, tick, restart, stage])
  | cancel u =>
      cases about
      exact Or.inr (by simp [step, Engine.cancel, stage, gone])
  | expire u =>
      cases about
      simp only [step, expire, stage]
      split
      · exact Or.inr rfl
      · exact Or.inl rfl
  | reply u r =>
      cases about
      refine Or.inr ?_
      simp only [step, reply, stage]
      cases r with
      | ok | refused _ => rfl
      | fault f => simp [gone]
      | reading raw =>
          have nothing : e.notice now raw = (e, none) := by
            obtain nothing | ⟨v, live, -⟩ := notice_cases e now raw
            · exact nothing
            · cases live.symm.trans gone
          simp only [nothing]

/-- Whichever branch the poller of a disposed engine takes, it is a turn nearer to
its end. -/
theorem turnsToStop_step (now : Nat) (gone : e.disposed = true)
    (polls : ∀ p, e.stage? t = some p → p.Serves .poll)
    (kept : begins? e event t = none) :
    (e.step now event).1.stage? t = e.stage? t ∧
    (e.step now event).1.turnsToStop now t = e.turnsToStop now t ∨
      (e.step now event).1.turnsToStop now t < e.turnsToStop now t := by
  have move := step_move e now event
  have signal : (e.step now event).1.signal = e.signal :=
    move.version.resolve_right (by simp [gone])
  have still (same : (e.step now event).1.stage? t = e.stage? t) :
      (e.step now event).1.stage? t = e.stage? t ∧
        (e.step now event).1.turnsToStop now t = e.turnsToStop now t :=
    ⟨same, turnsToStop_congr same signal⟩
  by_cases about : event.ticket? = some t
  · cases stage : e.stage? t with
    | none =>
        refine Or.inl (stage ▸ still ?_)
        cases event with
        | notify raw => cases about
        | start u r =>
            cases about
            rw [begins?_start stage] at kept
            cases kept
        | proceed u | reply u r | expire u | cancel u | tick u | notice u =>
            cases about
            simp [step, proceed, reply, expire, Engine.cancel, tick, restart, stage]
    | some p =>
        have serves := polls p stage
        cases p with
        | arming _ | waiting _ _ _ =>
            have paces := paces_of_pause now stage rfl about
            exact (paces.nearer stage gone).imp
              (fun same => stage ▸ still (congrArg (·.stage? t) same)) id
        | reading d q =>
            obtain _ | seen := q
            · cases serves
            · obtain same | reads := reading_step now stage gone about
              · exact Or.inl (stage ▸ still (congrArg (·.stage? t) same))
              · refine Or.inr ?_
                rw [reads, afterRead, turnsToStop_rest]
                simp only [turnsToStop, stage]
                omega
        | configuring _ _ _ _ =>
            obtain same | ⟨u, same⟩ := serves <;> cases same
        | _ => cases serves
  · exact Or.inl (still (move.stage?_of_ne about))

/-- The poller of a disposed engine can always go on until it ends. -/
theorem ready_to_stop {p : Stage} (stage : e.stage? t = some p) (polls : p.Serves .poll)
    (gone : e.disposed = true) (now : Nat) :
    ∃ event, e.ready? now t = some event ∧
      (e.step now event).1.stage? t ≠ e.stage? t := by
  cases p with
  | arming seen =>
      refine ⟨.proceed t, by simp only [ready?, stage], ?_⟩
      simp [step, proceed, stage, rest]
  | waiting since period seen =>
      refine ⟨.cancel t, by simp only [ready?, stage, gone, if_true], ?_⟩
      simp [step, Engine.cancel, stage, gone]
  | reading d q =>
      obtain _ | seen := q
      · cases polls
      · refine ⟨.cancel t, by simp only [ready?, stage, gone, if_true], ?_⟩
        simp [step, Engine.cancel, stage, gone, afterRead, rest]
  | configuring _ _ _ _ =>
      obtain same | ⟨u, same⟩ := polls <;> cases same
  | _ => cases polls

theorem turnsIn_snoc (t : Ticket) (h : History) (m : Moment) :
    turnsIn t (h ++ [m]) = turnsIn t h + if Unmoved t m then 0 else 1 := by
  simp only [turnsIn, List.countP_append, List.countP_singleton]
  by_cases still : Unmoved t m <;> simp [still]

/-- A poller is on the way to its end: the engine is disposed, no time passes, and few
turns are left. -/
structure Stopping (t : Ticket) (since : Nat) (later : History) (h : History)
    (e : Engine) : Prop where
  gone : e.disposed = true
  polls : requested? t h = some .poll
  inPlace : e.stage? t ≠ none → timeOf h = since
  few : turnsIn t later + e.turnsToStop (timeOf h) t ≤ 3

theorem RunOf.polls {spec : Spec} (run : RunOf spec h e)
    (polls : requested? t h = some .poll) (p : Stage) (stage : e.stage? t = some p) :
    p.Serves .poll := by
  obtain ⟨r, requested, serves⟩ := run.serving t p stage
  cases polls.symm.trans requested
  exact serves

theorem Stopping.next {spec : Spec} {since : Nat} {later : History}
    (stopping : Stopping t since later h e) (run : RunOf spec h e)
    (onTime : OnTime h (.taken step e now event)) (kept : begins? e event t = none) :
    Stopping t since (later ++ [.taken step e now event]) (h ++ [.taken step e now event])
      (e.step now event).1 := by
  have gone := stopping.gone
  have polls := run.polls stopping.polls
  have present : e.turnsToStop now t = e.turnsToStop (timeOf h) t ∧
      (e.stage? t ≠ none → now = timeOf h) := by
    cases stage : e.stage? t with
    | none => simp [turnsToStop, stage]
    | some p =>
        obtain ⟨next, ready, -⟩ := ready_to_stop stage (polls p stage) gone (timeOf h)
        have still : now ≤ timeOf h :=
          onTime.now_eq (Nat.le_refl _) (t := t) (by simp [Moment.taken, ready])
        obtain rfl := Nat.le_antisymm onTime.1 still
        exact ⟨rfl, fun _ => rfl⟩
  have turn := turnsToStop_step now gone polls kept
  have few := stopping.few
  refine ⟨((step_move e now event).after_disposal gone).1, ?_, ?_, ?_⟩
  · rw [requested?_snoc]
    simpa [Moment.taken, kept] using stopping.polls
  · intro after
    have before : e.stage? t ≠ none := by
      intro ended
      obtain ⟨same, -⟩ | fewer := turn
      · exact after (same.trans ended)
      · simp [turnsToStop, ended] at fewer
    rw [timeOf_snoc]
    exact (present.2 before).trans (stopping.inPlace before)
  · rw [turnsIn_snoc, timeOf_snoc]
    change _ + (e.step now event).1.turnsToStop now t ≤ 3
    rw [← present.1] at few
    obtain ⟨same, left⟩ | fewer := turn
    · have still : Unmoved t (.taken step e now event) := same
      rw [if_pos still, left]
      exact few
    · split <;> omega

theorem RunOf.stopping {spec : Spec} (run : RunOf spec h e) (clocked : Clocked h) :
    ∀ h₁ m h₂, h = h₁ ++ m :: h₂ → m.after.disposed = true →
      requested? t (h₁ ++ [m]) = some .poll →
      (∀ m' ∈ h₂, begins? m'.before m'.event t = none) → Stopping t m.now h₂ h e := by
  refine run.induct (P := fun h e => Clocked h → ∀ h₁ m h₂, h = h₁ ++ m :: h₂ →
    m.after.disposed = true → requested? t (h₁ ++ [m]) = some .poll → (∀ m' ∈ h₂,
    begins? m'.before m'.event t = none) → Stopping t m.now h₂ h e) ?_ ?_ clocked
  · intro e _ _ h₁ m h₂ split
    simp at split
  · intro h e now event run ih clocked h₁ m h₂ split gone polls kept
    obtain ⟨earlier, onTime⟩ := clocked_snoc clocked
    obtain ⟨rfl, rfl, rfl⟩ | ⟨h₃, rfl, before⟩ := snoc_eq_split split
    · exact ⟨gone, polls, fun _ => timeOf_snoc ..,
        by simpa [turnsIn] using turnsToStop_le ..⟩
    · have stopping :=
        ih earlier h₁ m h₃ before gone polls fun m' member => kept m' (by simp [member])
      exact stopping.next run onTime (kept (.taken step e now event) (by simp))

/-- A read of a poller ends a full wait, which began after whatever the poller called
before and which no transition came into. -/
theorem RunOf.poll_read {spec : Spec} {h₁ h₂ : History} {m : Moment}
    (run : RunOf spec (h₁ ++ m :: h₂) e) (clocked : Clocked (h₁ ++ m :: h₂))
    (polls : requested? t (h₁ ++ [m]) = some .poll) (call : .call t .read ∈ m.effects) :
    m.before.disposed = false ∧ m.before.state = .polling ∧
    ∃ since period, WaitsSince t since period h₁ ∧ since + 1000 * period = m.now ∧
      (∀ m' ∈ h₁, Signals m' → ¬ (since < m'.now ∧ m'.now < m.now)) ∧
      ∀ m' ∈ h₁, .call t .read ∈ m'.effects → m'.now + 1000 * period ≤ m.now := by
  obtain ⟨before, taken⟩ := run.reaches_before
  have earlier : Clocked h₁ := clocked_of_append clocked
  have onTime : OnTime h₁ m := clocked h₁ m h₂ rfl
  rw [taken] at call
  obtain ⟨live, p, reads⟩ := (step_move m.before m.now m.event).read_of_call call
  have requested := reads.requested before.serving
  rw [← requested?_snoc, polls] at requested
  have poller : p.isSome = true := by
    cases p with
    | none => cases requested
    | some _ => rfl
  obtain ⟨since, period, seen, stage, elapsed, polled⟩ := reads.due_of_poller poller
  have paced := before.paced earlier stage
  have full : since + 1000 * period = m.now :=
    Nat.le_antisymm elapsed (onTime.now_eq paced.inTime (ready?_of_due stage))
  refine ⟨live, polled, since, period, paced.waits, full, ?_, ?_⟩
  · intro m' member signals between
    obtain ⟨latest, unseen⟩ := paced.transitions m' member signals between.1
    have still :=
      onTime.now_eq (Nat.le_refl _) (ready?_of_unseen stage (Nat.ne_of_lt unseen) _)
    exact Nat.lt_irrefl _ (Nat.lt_of_lt_of_le between.2 (latest ▸ still))
  · intro m' member called
    have := paced.waits.after_calls before earlier member called
    omega

theorem RunOf.stays_disposed {spec : Spec} {h₁ h₂ : History} {m : Moment}
    (run : RunOf spec (h₁ ++ m :: h₂) e) (gone : m.after.disposed = true) :
    ∀ m' ∈ h₂, m'.before.disposed = true := by
  intro m' member
  obtain ⟨l, l', rfl⟩ := List.append_of_mem member
  have run : RunOf spec ((h₁ ++ m :: l) ++ m' :: l') e := by simpa using run
  refine run.reaches_before.1.since_induct (P := fun _ m => m.after.disposed = true)
    (Q := fun _ => True) (I := fun _ e => e.disposed = true) ?_ ?_
    ⟨h₁, m, l, rfl, gone, by simp⟩
  · exact fun _ _ _ _ _ gone => gone
  · intro _ e now event _ _ gone _
    exact ((step_move e now event).after_disposal gone).1

/-- A poller reads only while the binding of a live engine is polled, and only after it
has waited for the whole of the period that the binding had when the wait began, with no
transition strictly within that time; its reads are at least that far apart. Once the
engine is disposed nobody reads, and each poller comes to its end within three turns:
until then it can always go on, and no time passes. -/
theorem pollers_keep_their_period {spec : Spec} (run : RunOf spec h e)
    (clocked : Clocked h) :
    (∀ h₁ m h₂ t, h = h₁ ++ m :: h₂ → requested? t (h₁ ++ [m]) = some .poll →
      .call t .read ∈ m.effects → m.before.disposed = false ∧ m.before.state = .polling ∧
      ∃ since period, WaitsSince t since period h₁ ∧
        since + 1000 * period = m.now ∧
        (∀ m' ∈ h₁, Signals m' → ¬ (since < m'.now ∧ m'.now < m.now)) ∧
        ∀ m' ∈ h₁, .call t .read ∈ m'.effects → m'.now + 1000 * period ≤ m.now) ∧
    ∀ h₁ m h₂, h = h₁ ++ m :: h₂ → m.after.disposed = true →
      (∀ m' ∈ h₂, ∀ t, .call t .read ∉ m'.effects) ∧
      ∀ t, requested? t (h₁ ++ [m]) = some .poll →
        (∀ m' ∈ h₂, begins? m'.before m'.event t = none) →
        turnsIn t h₂ ≤ 3 ∧ (e.stage? t ≠ none → timeOf h = m.now ∧
          ∃ event, e.ready? m.now t = some event ∧
            (e.step m.now event).1.stage? t ≠ e.stage? t) := by
  constructor
  · intro h₁ m h₂ t split polls call
    subst split
    exact run.poll_read clocked polls call
  · intro h₁ m h₂ split gone
    refine ⟨?_, ?_⟩
    · intro m' member t call
      subst split
      have disposed := run.stays_disposed gone m' member
      obtain ⟨l, l', whole⟩ := List.append_of_mem member
      have run : RunOf spec ((h₁ ++ m :: l) ++ m' :: l') e := by simpa [whole] using run
      rw [run.reaches_before.2] at call
      obtain ⟨live, -⟩ := (step_move m'.before m'.now m'.event).read_of_call call
      cases live.symm.trans disposed
    · intro t polls kept
      have stopping := run.stopping clocked h₁ m h₂ split gone polls kept
      refine ⟨Nat.le_trans (Nat.le_add_right ..) stopping.few, ?_⟩
      intro stands
      obtain ⟨p, stage⟩ := Option.ne_none_iff_exists'.mp stands
      exact ⟨stopping.inPlace stands,
        ready_to_stop stage (run.polls stopping.polls p stage) stopping.gone m.now⟩

/-- The hall sensor refuses to bind and is polled once a day from then on. Disposal comes
while the first read is in flight. -/
def dailyPoll : List (Nat × Event) :=
  [(0, .start 0 (.exchange .activate)), (5, .reply 0 (.refused "NOT_SUPPORTED")),
    (5, .start 9 .poll), (5, .proceed 9), (86400005, .tick 9),
    (86400005, .start 1 .dispose), (86400005, .cancel 9), (86400005, .notice 9),
    (86400005, .cancel 9)]

theorem daily_poll_is_punctual : Punctual hallEngine 0 dailyPoll := by
  have lone {e : Engine} {t : Ticket} {p : Stage} {s : Nat}
      (alone : e.operations = [(t, p)]) (idle : e.ready? s t = none) : e.Stalled s := by
    apply stalled_of_operations
    rwa [alone, List.forall_mem_singleton]
  refine .atOnce (.later (by decide) (fun s early => ?_) (.atOnce (.atOnce
    (.later (by decide) (fun s early => ?_)
      (.atOnce (.atOnce (.atOnce (.atOnce .nil))))))))
  · have inTime : s < 10000 := by omega
    exact lone rfl (ready?_early rfl rfl inTime nofun)
  · exact lone rfl (ready?_early rfl rfl early fun _ _ _ stage => by cases stage; rfl)

theorem daily_poll_keeps_its_period :
    let (h, e) := play step hallEngine dailyPoll
    RunOf hallSensor h e ∧ Clocked h ∧
      (∃ since period, WaitsSince 9 since period (h.take 4) ∧
        since + 1000 * period = 86400005) ∧
      e.disposed = true ∧ turnsIn 9 (h.drop 6) ≤ 3 := by
  have run := RunOf.play_hall dailyPoll
  have clocked : Clocked (play step hallEngine dailyPoll).1 := by
    have nothing : Clocked [] := by simp [Clocked]
    exact nothing.append_play daily_poll_is_punctual
  have law := pollers_keep_their_period run clocked
  obtain ⟨-, -, since, period, waits, full, -⟩ :=
    law.1 ((play step hallEngine dailyPoll).1.take 4) _ _ 9 rfl rfl (by decide)
  have kept : ∀ m ∈ (play step hallEngine dailyPoll).1.drop 6,
      begins? m.before m.event 9 = none := by
    simp [play, dailyPoll, begins?, Moment.taken]
  have stops :=
    (law.2 ((play step hallEngine dailyPoll).1.take 5) _ _ rfl rfl).2 9 rfl kept
  exact ⟨run, clocked, ⟨since, period, waits, full⟩, rfl, stops.1⟩

end
end Engine
end MeshReadings
