import MeshReadings.Proofs.Engine.Disposal
import MeshReadings.Proofs.Engine.Exclusion

/-!
What disposal cancels. A disposed engine brings its operations to their ends by itself,
each in a turn or two, with one exception: a resolution goes on waiting for the gateway,
and keeps the lock from those that queue for it. That nobody else is left behind rests on
how the lock is handed on.
-/

namespace MeshReadings
namespace Engine

/-- The lock is in order: only an exchange in progress has it, and whoever waits for it
stands in line once. One ticket may be exempt, while its stage is about to change. -/
structure Fair (exempt : Option Ticket) (e : Engine) : Prop where
  free : e.lock.holder = none → e.lock.queue = []
  apart : (e.lock.holder.toList ++ e.lock.queue).Nodup
  held : ∀ u, some u ≠ exempt → e.lock.holder = some u →
      ∃ s, e.stage? u = some s ∧ s.isExchange = true
  lined : ∀ u x, some u ≠ exempt → e.stage? u = some (.queued x) →
    e.lock.holder = some u ∨ u ∈ e.lock.queue
  queued : ∀ u ∈ e.lock.queue, some u ≠ exempt → ∃ x, e.stage? u = some (.queued x)

/-- Nobody can go on without the gateway. -/
def Stalled (e : Engine) (now : Nat) : Prop := ∀ t, e.ready? now t = none

/-- The operation that an event is about. -/
def Event.ticket? : Event → Option Ticket
  | .start t _ => some t
  | event => event.wakes?

/-- The turns that an operation of a disposed engine still takes at most. -/
def Stage.turns : Stage → Nat
  | .arming _ | .reading _ (some _) => 2
  | _ => 1

def turnsOf : List (Ticket × Stage) → Nat
  | [] => 0
  | (_, s) :: rest => s.turns + turnsOf rest

def turnsLeft (e : Engine) : Nat := turnsOf e.operations

theorem turnsOf_append (front back : List (Ticket × Stage)) :
    turnsOf (front ++ back) = turnsOf front + turnsOf back := by
  induction front with
  | nil => simp [turnsOf]
  | cons entry front ih => simp only [List.cons_append, turnsOf, ih, Nat.add_assoc]

section
variable {e e' : Engine} {t : Ticket} {s : Stage}

theorem Fair.exempt (inv : Fair none e) (t : Ticket) : Fair (some t) e where
  free := inv.free
  apart := inv.apart
  held u _ := inv.held u (by simp)
  lined u x _ := inv.lined u x (by simp)
  queued u member _ := inv.queued u member (by simp)

theorem Fair.congr {exempt : Option Ticket} (inv : Fair exempt e)
    (lock : e'.lock = e.lock) (operations : e'.operations = e.operations) :
    Fair exempt e' where
  free := lock ▸ inv.free
  apart := lock ▸ inv.apart
  held u other holds := by
    simpa only [stage?, operations] using inv.held u other (lock ▸ holds)
  lined u x other stage := by
    simp only [stage?, operations] at stage
    exact lock ▸ inv.lined u x other stage
  queued u member other := by
    simpa only [stage?, operations] using inv.queued u (lock ▸ member) other

theorem Fair.transition {exempt : Option Ticket} (inv : Fair exempt e)
    (f : Binding → Binding) :
    Fair exempt (e.transition f) := inv.congr rfl rfl

theorem Fair.configure {exempt : Option Ticket} (inv : Fair exempt e)
    (u : Reporting.Update) :
    Fair exempt (e.configure u) := inv.congr rfl rfl

theorem Fair.noting {exempt : Option Ticket} (inv : Fair exempt e) (now : Nat)
    (v : Value) :
    Fair exempt (e.noting now v) := inv.congr rfl rfl

theorem Fair.not_lined_of_held (inv : Fair none e) (held : e.lock.holder = some t) :
    t ∉ e.lock.queue := by
  have apart := inv.apart
  rw [held] at apart
  exact (List.nodup_cons.mp apart).1

theorem Fair.not_lined (inv : Fair none e) (other : ∀ x, e.stage? t ≠ some (.queued x)) :
    t ∉ e.lock.queue := by
  intro member
  obtain ⟨x, stage⟩ := inv.queued t member (by simp)
  exact other x stage

/-- An operation that is no exchange has nothing to do with the lock. -/
theorem Fair.apart_from_lock (inv : Fair none e)
    (other : ∀ s, e.stage? t = some s → s.isExchange = false) :
    e.lock.holder ≠ some t ∧ t ∉ e.lock.queue := by
  constructor
  · intro held
    obtain ⟨s, stage, exchange⟩ := inv.held t (by simp) held
    rw [other s stage] at exchange
    contradiction
  · apply inv.not_lined
    intro x stage
    cases other _ stage

/-- An operation without the lock ends. -/
theorem Fair.finish_aside (inv : Fair (some t) e) (out : t ∉ e.lock.queue)
    (holds : e.lock.holder ≠ some t) (o : Outcome) : Fair none (e.finish t o).1 := by
  have lock : (e.finish t o).1.lock = e.lock := by rw [finish_lock, if_neg holds]
  refine ⟨lock ▸ inv.free, lock ▸ inv.apart, ?_, ?_, ?_⟩
  · intro u _ held
    rw [lock] at held
    have other : u ≠ t := by
      rintro rfl
      exact holds held
    rw [stage?_finish, if_neg other]
    exact inv.held u (by simpa using other) held
  · intro u x _ stage
    rw [stage?_finish] at stage
    split at stage
    · contradiction
    · next other => exact lock ▸ inv.lined u x (by simpa using other) stage
  · intro u member _
    rw [lock] at member
    have other : u ≠ t := by
      rintro rfl
      exact out member
    rw [stage?_finish, if_neg other]
    exact inv.queued u member (by simpa using other)

/-- The holder of the lock ends, and nobody waits for it. -/
theorem Fair.finish_last (inv : Fair (some t) e) (holds : e.lock.holder = some t)
    (line : e.lock.queue = []) (o : Outcome) : Fair none (e.finish t o).1 := by
  have lock : (e.finish t o).1.lock = ⟨none, []⟩ := by
    rw [finish_lock, if_pos holds, CommandLock.release, line]
  refine ⟨by simp [lock], by simp [lock], by simp [lock], ?_, by simp [lock]⟩
  intro u x _ stage
  rw [stage?_finish] at stage
  split at stage
  · contradiction
  · next other =>
        simpa [holds, line, Ne.symm other]
          using inv.lined u x (by simpa using other) stage

/-- The holder of the lock ends, and who is first in line has it now. -/
theorem Fair.finish_handing_on {v : Ticket} {rest : List Ticket} (inv : Fair (some t) e)
    (out : t ∉ e.lock.queue) (holds : e.lock.holder = some t)
    (line : e.lock.queue = v :: rest) (o : Outcome) : Fair none (e.finish t o).1 := by
  have lock : (e.finish t o).1.lock = ⟨some v, rest⟩ := by
    rw [finish_lock, if_pos holds, CommandLock.release, line]
  have apart := inv.apart
  rw [holds, line] at apart
  have staged (u : Ticket) (member : u ∈ e.lock.queue) :
      ∃ x, (e.finish t o).1.stage? u = some (.queued x) := by
    have other : u ≠ t := by
      rintro rfl
      exact out member
    rw [stage?_finish, if_neg other]
    exact inv.queued u member (by simpa using other)
  refine ⟨by simp [lock], ?_, ?_, ?_, ?_⟩
  · simpa [lock] using (List.nodup_cons.mp apart).2
  · intro u _ next
    obtain rfl : v = u := by simpa [lock] using next
    obtain ⟨x, stage⟩ := staged v (by simp [line])
    exact ⟨_, stage, rfl⟩
  · intro u x _ stage
    rw [stage?_finish] at stage
    split at stage
    · contradiction
    · next other =>
        have before := inv.lined u x (by simpa using other) stage
        simpa [holds, line, lock, Ne.symm other, eq_comm] using before
  · intro u member _
    rw [lock] at member
    exact staged u (by simp [line, member])

theorem Fair.finish (inv : Fair (some t) e) (out : t ∉ e.lock.queue) (o : Outcome) :
    Fair none (e.finish t o).1 := by
  by_cases holds : e.lock.holder = some t
  · cases line : e.lock.queue with
    | nil => exact inv.finish_last holds line o
    | cons v rest => exact inv.finish_handing_on out holds line o
  · exact inv.finish_aside out holds o

theorem Fair.wait (inv : Fair (some t) e)
    (held : e.lock.holder = some t → s.isExchange = true)
    (lined : ∀ x, s = .queued x → e.lock.holder = some t ∨ t ∈ e.lock.queue)
    (queued : t ∈ e.lock.queue → ∃ x, s = .queued x) (fx : List Effect) :
    Fair none (e.wait t s fx).1 := by
  refine ⟨inv.free, inv.apart, ?_, ?_, ?_⟩
  · intro u _ holds
    rw [stage?_wait]
    split
    · next same => exact ⟨s, rfl, held (same ▸ holds)⟩
    · next other => exact inv.held u (by simpa using other) holds
  · intro u x _ stage
    rw [stage?_wait] at stage
    split at stage
    · next same =>
        subst same
        exact lined x (Option.some.inj stage)
    · next other => exact inv.lined u x (by simpa using other) stage
  · intro u member _
    rw [stage?_wait]
    split
    · next same =>
        subst same
        obtain ⟨x, rfl⟩ := queued member
        exact ⟨x, rfl⟩
    · next other => exact inv.queued u member (by simpa using other)

theorem Fair.wait_holding (inv : Fair (some t) e) (out : t ∉ e.lock.queue)
    (holds : s.holdsLock = true) (fx : List Effect) : Fair none (e.wait t s fx).1 := by
  apply inv.wait
  · intro _
    cases s <;> simp_all [Stage.holdsLock, Stage.isExchange]
  · rintro x rfl
    cases holds
  · exact fun member => absurd member out

theorem Fair.wait_apart (inv : Fair none e)
    (before : ∀ s, e.stage? t = some s → s.isExchange = false)
    (after : s.isExchange = false) (fx : List Effect) : Fair none (e.wait t s fx).1 := by
  obtain ⟨holds, line⟩ := inv.apart_from_lock before
  apply (inv.exempt t).wait
  · exact fun held => absurd held holds
  · rintro x rfl
    cases after
  · exact fun member => absurd member line

theorem Fair.afterRead (inv : Fair none e)
    (before : ∀ s, e.stage? t = some s → s.isExchange = false) (now : Nat)
    (p : Option Nat) : Fair none (e.afterRead now t p).1 := by
  cases p with
  | none => exact (inv.exempt t).finish (inv.apart_from_lock before).2 .done
  | some seen => exact inv.wait_apart before rfl []

theorem Fair.claim {event : Event} {x : Exchange} (inv : Fair none e)
    (takes : Takes e event t x) :
    Fair (some t) (e.claim t) ∧ t ∉ (e.claim t).lock.queue := by
  cases takes with
  | free _ idle =>
      have line := inv.free idle
      refine ⟨⟨?_, ?_, ?_, ?_, ?_⟩, ?_⟩
      · simp [Engine.claim]
      · simp [Engine.claim, line]
      · intro u other holds
        exact absurd holds.symm (by simpa [Engine.claim] using other)
      · intro u x other stage
        have before := inv.lined u x (by simp) stage
        simp [idle, line] at before
      · simp [Engine.claim, line]
      · simp [Engine.claim, line]
  | handed _ held =>
      rw [claim_of_held e t held]
      exact ⟨inv.exempt t, inv.not_lined_of_held held⟩

theorem Fair.enqueue (inv : Fair none e) (fresh : e.stage? t = none)
    (taken : e.lock.holder ≠ none) : Fair (some t) (e.enqueue t) := by
  obtain ⟨holds, line⟩ := inv.apart_from_lock (t := t) (by simp [fresh])
  refine ⟨fun idle => absurd idle taken, ?_, fun u _ => inv.held u (by simp), ?_, ?_⟩
  · change (e.lock.holder.toList ++ (e.lock.queue ++ [t])).Nodup
    rw [← List.append_assoc, List.nodup_append]
    refine ⟨inv.apart, by simp, ?_⟩
    intro u member v single same
    rw [List.mem_singleton.mp single] at same
    subst same
    rcases List.mem_append.mp member with held | waits
    · exact holds (by simpa using held)
    · exact line waits
  · intro u x _ stage
    exact (inv.lined u x (by simp) stage).imp id fun waits => List.mem_append_left _ waits
  · intro u member other
    rcases List.mem_append.mp member with before | last
    · exact inv.queued u before (by simp)
    · exact absurd (List.mem_singleton.mp last) (by simpa using other)

theorem fair_move {now : Nat} {event : Event} {s : Step} (move : Move e now event s)
    (inv : Fair none e) : Fair none s.1 := by
  have of_stage {u : Ticket} {p : Stage} (stage : e.stage? u = some p)
      (other : p.isExchange = false) :
      ∀ q, e.stage? u = some q → q.isExchange = false := by
    intro q same
    cases stage.symm.trans same
    exact other
  have unlined {u : Ticket} {p : Stage} (stage : e.stage? u = some p)
      (other : ∀ x, p ≠ .queued x) :
      u ∉ e.lock.queue := by
    refine inv.not_lined fun x same => other x ?_
    exact Option.some.inj (stage.symm.trans same)
  cases move with
  | idle => exact inv
  | noted => exact inv.noting _ _
  | enqueued fresh taken =>
      apply (inv.enqueue fresh taken).wait
      · exact fun _ => rfl
      · exact fun x _ => Or.inr (List.mem_append_right _ (List.mem_singleton.mpr rfl))
      · exact fun _ => ⟨_, rfl⟩
  | turnedAway takes | stayedFailed takes =>
      obtain ⟨taken, out⟩ := inv.claim takes
      exact taken.finish out _
  | stored takes =>
      obtain ⟨taken, out⟩ := inv.claim takes
      exact (taken.configure _).finish out _
  | bindSent takes | resolveSent takes =>
      obtain ⟨taken, out⟩ := inv.claim takes
      apply taken.wait_holding out
      rfl
  | reportSent takes =>
      obtain ⟨taken, out⟩ := inv.claim takes
      apply (taken.configure _).wait_holding out
      rfl
  | @bound t _ _ _ _ _ stage =>
      apply ((inv.exempt t).transition _).wait_holding (unlined stage (by simp))
      rfl
  | @settled _ t _ settles =>
      obtain ⟨p, stage, command⟩ := settles.stage
      refine ((inv.exempt t).transition _).finish (unlined stage ?_) _
      rintro x rfl
      cases command
  | @dropped _ t p _ stage command =>
      refine (inv.exempt t).finish (unlined stage ?_) _
      rintro x rfl
      cases command
  | @resolveFailed t _ stage | @reopenedLate t _ stage | @unlistened t _ stage =>
      exact (inv.exempt t).finish (unlined stage (by simp)) _
  | @reopened t _ stage =>
      exact ((inv.exempt t).transition _).finish (unlined stage (by simp)) _
  | @disposedAgain t fresh =>
      exact (inv.exempt t).finish (inv.not_lined (by simp [fresh])) _
  | @pollerStopped t p stage pause =>
      exact (inv.exempt t).finish
        (inv.apart_from_lock (of_stage stage (isExchange_of_pause pause))).2 _
  | pollStarted fresh => exact inv.wait_apart (by simp [fresh]) rfl _
  | disposed fresh =>
      have gone : Fair none { e with disposed := true } := inv.congr rfl rfl
      exact (gone.transition _).wait_apart
        (fun s stage => nomatch fresh.symm.trans stage) rfl _
  | rested _ stage pause =>
      exact inv.wait_apart (of_stage stage (isExchange_of_pause pause)) rfl _
  | readSent reads => exact inv.wait_apart reads.before rfl _
  | readSkipped reads => exact inv.afterRead reads.before _ _
  | readOver _ stage => exact inv.afterRead (of_stage stage rfl) _ _
  | readNoted stage => exact (inv.noting _ _).afterRead (of_stage stage rfl) _ _
  | readFailed stage => exact (inv.transition _).afterRead (of_stage stage rfl) _ _

/-- What a disposed engine leaves behind: the notice to its gateway, a resolution, and who
queues behind it. -/
theorem Fair.left_behind {now : Nat} (fair : Fair none e) (gone : e.disposed = true)
    (stalled : e.Stalled now) (stage : e.stage? t = some s) :
    s = .unlistening ∨ s = .resolving ∨
      ∃ x u, s = .queued x ∧ e.lock.holder = some u ∧ e.stage? u = some .resolving := by
  -- Only the holder of the lock can keep others waiting, and what it waits for itself is
  -- no longer a command.
  have holder {u : Ticket} {p : Stage} (held : e.lock.holder = some u)
      (here : e.stage? u = some p) (exchange : p.isExchange = true) : p = .resolving := by
    have idle := stalled u
    cases p with
    | resolving => rfl
    | queued _ | binding _ _ _ _ | configuring _ _ _ _ =>
        simp [ready?, here, held, gone] at idle
    | _ => cases exchange
  have idle := stalled t
  cases s with
  | unlistening => exact Or.inl rfl
  | resolving => exact Or.inr (Or.inl rfl)
  | queued x =>
      have other : e.lock.holder ≠ some t := by
        intro held
        simp [ready?, stage, held] at idle
      have line := (fair.lined t x (by simp) stage).resolve_left other
      cases held : e.lock.holder with
      | none => simp [fair.free held] at line
      | some u =>
          obtain ⟨p, here, exchange⟩ := fair.held u (by simp) held
          exact Or.inr (Or.inr ⟨x, u, rfl, rfl, holder held here exchange ▸ here⟩)
  | binding _ _ _ _ | configuring _ _ _ _ | reading _ _ | arming _ | waiting _ _ _ =>
      simp [ready?, stage, gone] at idle

theorem turnsLeft_drop_le (e : Engine) (t : Ticket) :
    (e.drop t).turnsLeft ≤ e.turnsLeft := by
  simp only [turnsLeft, drop]
  induction e.operations with
  | nil => exact Nat.le_refl _
  | cons entry rest ih =>
      rw [List.filter_cons, turnsOf]
      split
      · rw [turnsOf]
        omega
      · omega

theorem turnsLeft_drop (stage : e.stage? t = some s) :
    (e.drop t).turnsLeft + s.turns ≤ e.turnsLeft := by
  obtain ⟨entry, found, rfl⟩ := Option.map_eq_some_iff.mp stage
  obtain ⟨same, front, back, split, -⟩ := List.find?_eq_some_iff_append.mp found
  have shorter := turnsLeft_drop_le { e with operations := front ++ back } t
  simp only [turnsLeft, drop, split, List.filter_append, turnsOf_append,
    turnsOf] at shorter ⊢
  rw [List.filter_cons_of_neg (by simpa using same)]
  omega

theorem turnsLeft_finish (o : Outcome) :
    (e.finish t o).1.turnsLeft = (e.drop t).turnsLeft :=
  rfl

theorem turnsLeft_wait (fx : List Effect) :
    (e.wait t s fx).1.turnsLeft = (e.drop t).turnsLeft + s.turns := by
  simp [Engine.wait, put, turnsLeft, drop, turnsOf_append, turnsOf]

theorem turnsLeft_afterRead (now : Nat) (p : Option Nat) :
    (e.afterRead now t p).1.turnsLeft <
      (e.drop t).turnsLeft + (Stage.reading now p).turns := by
  cases p with
  | none => simp [afterRead, turnsLeft_finish, Stage.turns]
  | some seen => simp [afterRead, rest, turnsLeft_wait, Stage.turns]

/-- A disposed engine whose operations can go on needs fewer turns after each of them. -/
theorem turnsLeft_of_ready {now : Nat} {event : Event} (gone : e.disposed = true)
    (ready : e.ready? now t = some event) :
    (∀ u r, event ≠ .reply u r) ∧ (e.step now event).1.turnsLeft < e.turnsLeft := by
  cases stage : e.stage? t with
  | none => simp [ready?, stage] at ready
  | some s =>
      have left := turnsLeft_drop stage
      cases s with
      | unlistening | resolving => simp [ready?, stage] at ready
      | queued x =>
          simp only [ready?, stage, Option.ite_none_right_eq_some,
            Option.some.injEq] at ready
          obtain ⟨held, rfl⟩ := ready
          have ended : e.step now (.proceed t) = e.finish t (.fault .disposed) := by
            cases x <;> simp [step, proceed, stage, held, commence, gone]
          rw [ended]
          exact ⟨by simp, left⟩
      | arming seen =>
          simp only [ready?, stage, Option.some.injEq] at ready
          subst ready
          refine ⟨by simp, ?_⟩
          simp only [step, proceed, stage, rest, turnsLeft_wait]
          simp only [Stage.turns] at left ⊢
          omega
      | binding _ _ _ _ | configuring _ _ _ _ | waiting _ _ _ =>
          simp only [ready?, stage, gone, if_true, Option.some.injEq] at ready
          subst ready
          simp only [step, Engine.cancel, stage, gone, Bool.not_true, Bool.false_eq_true,
            if_false, turnsLeft_finish]
          exact ⟨by simp, left⟩
      | reading d p =>
          simp only [ready?, stage, gone, if_true, Option.some.injEq] at ready
          subst ready
          refine ⟨by simp, ?_⟩
          simp only [step, Engine.cancel, stage, gone, Bool.not_true,
            Bool.false_eq_true, if_false]
          exact Nat.lt_of_lt_of_le (turnsLeft_afterRead now p) (by cases p <;> exact left)

theorem ticket?_of_wakes {event : Event} (wakes : event.wakes? = some t) :
    event.ticket? = some t := by
  cases event <;> simp_all [Event.wakes?, Event.ticket?]

theorem Takes.ticket {event : Event} {x : Exchange} (takes : Takes e event t x) :
    event.ticket? = some t := by
  cases takes <;> rfl

theorem Reads.ticket {now : Nat} {event : Event} {p : Option Nat}
    (reads : Reads e now event t p) : event.ticket? = some t := by
  cases reads <;> rfl

theorem Settles.ticket {now : Nat} {event : Event} {m : Binding.Mark}
    (settles : Settles e now event t m) : event.ticket? = some t := by
  cases settles <;> rfl

/-- A step leaves all operations alone but the one that its event is about. -/
theorem Move.stage?_of_ne {now : Nat} {event : Event} {s : Step}
    (move : Move e now event s) {u : Ticket} (other : event.ticket? ≠ some u) :
    s.1.stage? u = e.stage? u := by
  have apart {t : Ticket} (ticket : event.ticket? = some t) : u ≠ t := by
    rintro rfl
    exact other ticket
  cases move with
  | idle | noted => rfl
  | pollStarted => rw [stage?_wait, if_neg (apart rfl)]
  | enqueued | disposed | bound =>
      rw [stage?_wait, if_neg (apart rfl)]
      rfl
  | turnedAway takes | stayedFailed takes | stored takes =>
      rw [stage?_finish, if_neg (apart takes.ticket)]
      rfl
  | bindSent takes | reportSent takes | resolveSent takes =>
      rw [stage?_wait, if_neg (apart takes.ticket)]
      rfl
  | settled settles =>
      rw [stage?_finish, if_neg (apart settles.ticket)]
      rfl
  | dropped wakes => rw [stage?_finish, if_neg (apart (ticket?_of_wakes wakes))]
  | reopened =>
      rw [stage?_finish, if_neg (apart rfl)]
      rfl
  | resolveFailed | reopenedLate | disposedAgain | unlistened | pollerStopped =>
      rw [stage?_finish, if_neg (apart rfl)]
  | readSent reads => rw [stage?_wait, if_neg (apart reads.ticket)]
  | readSkipped reads => exact stage?_afterRead_of_ne (apart reads.ticket) _ _
  | readOver wakes => exact stage?_afterRead_of_ne (apart (ticket?_of_wakes wakes)) _ _
  | readNoted | readFailed => exact stage?_afterRead_of_ne (apart rfl) _ _
  | rested wakes => rw [rest, stage?_wait, if_neg (apart (ticket?_of_wakes wakes))]

/-- A resolution waits for its reply and for nothing else. -/
theorem resolving_lasts (stage : e.stage? t = some .resolving) (now : Nat) {event : Event}
    (unanswered : ∀ r, event ≠ .reply t r) :
    (e.step now event).1.stage? t = some .resolving := by
  by_cases about : event.ticket? = some t
  · have same : e.step now event = (e, []) := by
      cases event with
      | notify raw => cases about
      | reply u r =>
          cases about
          exact absurd rfl (unanswered r)
      | start u r | proceed u | expire u | cancel u | tick u | notice u =>
          cases about
          simp [step, proceed, expire, Engine.cancel, tick, restart, stage]
    rwa [same]
  · rwa [(step_move e now event).stage?_of_ne about]

end

section
variable {spec : Spec} {h : History} {e : Engine}

theorem RunOf.fair (run : RunOf spec h e) : Fair none e := by
  refine run.invariant ?_ fun e now event s => fair_move
  intro e opened
  obtain ⟨c, -, rfl⟩ := Option.map_eq_some_iff.mp opened
  exact ⟨fun _ => rfl, .nil, nofun, nofun, nofun⟩

/-- Once nobody can go on without the gateway, an operation of a disposed engine other
than a disposal still waits exactly if a resolution does, and it is that resolution or
queues for the lock behind it. All that can go on does so without a reply and is done
after a number of turns, whereas a resolution waits for its reply whatever else
happens. -/
theorem waits_when_disposed_iff_resolving (run : RunOf spec h e)
    (gone : e.disposed = true) :
    (∀ now, e.Stalled now →
      ((∃ t s, e.stage? t = some s ∧ requested? t h ≠ some .dispose) ↔
        ∃ t, e.stage? t = some .resolving) ∧
      ∀ t s, e.stage? t = some s → requested? t h = some .dispose ∨ s = .resolving ∨
        ∃ x u, s = .queued x ∧ e.lock.holder = some u ∧ e.stage? u = some .resolving) ∧
    (∀ now t event, e.ready? now t = some event → (∀ u r, event ≠ .reply u r) ∧
      (e.step now event).1.disposed = true ∧
      (e.step now event).1.turnsLeft < e.turnsLeft) ∧
    ∀ t, e.stage? t = some .resolving → ∀ now event, (∀ r, event ≠ .reply t r) →
      (e.step now event).1.stage? t = some .resolving := by
  refine ⟨fun now stalled => ?_, fun now t event ready => ?_,
    fun t stage now event => resolving_lasts stage now⟩
  · have left {t : Ticket} {s : Stage} (stage : e.stage? t = some s) :
        requested? t h = some .dispose ∨ s = .resolving ∨
          ∃ x u, s = .queued x ∧ e.lock.holder = some u ∧
            e.stage? u = some .resolving := by
      obtain rfl | resolves := run.fair.left_behind gone stalled stage
      · obtain ⟨r, requested, serves⟩ := run.serving t _ stage
        exact Or.inl (requested.trans (congrArg some serves))
      · exact Or.inr resolves
    refine ⟨⟨?_, ?_⟩, fun t s => left⟩
    · intro waits
      obtain ⟨t, s, stage, other⟩ := waits
      obtain rfl | ⟨x, u, -, -, resolving⟩ := (left stage).resolve_left other
      · exact ⟨t, stage⟩
      · exact ⟨u, resolving⟩
    · intro resolves
      obtain ⟨t, stage⟩ := resolves
      obtain ⟨r, requested, serves⟩ := run.serving t _ stage
      refine ⟨t, _, stage, fun disposal => ?_⟩
      cases serves
      cases requested.symm.trans disposal
  · obtain ⟨unaided, fewer⟩ := turnsLeft_of_ready gone ready
    exact ⟨unaided, ((step_move e now event).after_disposal gone).1, fewer⟩

theorem stalled_of_operations {now : Nat}
    (each : ∀ operation ∈ e.operations, e.ready? now operation.1 = none) :
    e.Stalled now := by
  intro t
  cases stage : e.stage? t with
  | none => simp [ready?, stage]
  | some s => exact each (t, s) (mem_of_value stage)

/-- The hall sensor is opened anew and then disposed, but the gateway never answers the
resolution. An activation queues behind it. -/
def unresolved : List (Nat × Event) :=
  [(0, .start 0 (.exchange .reopen)), (0, .start 1 (.exchange .activate)),
    (0, .start 2 .dispose), (1, .reply 2 .ok)]

theorem resolution_outlives_disposal :
    let (h, e) := play step hallEngine unresolved
    RunOf hallSensor h e ∧ e.disposed = true ∧ e.Stalled 1 ∧
    e.stage? 1 = some (.queued .activate) ∧ ∃ t, e.stage? t = some .resolving := by
  have run := RunOf.play_hall unresolved
  have stalled : (play step hallEngine unresolved).2.Stalled 1 := by
    apply stalled_of_operations
    decide
  have waits : (play step hallEngine unresolved).2.stage? 1 = some (.queued .activate) :=
    rfl
  have requested :
      requested? 1 (play step hallEngine unresolved).1 = some (.exchange .activate) :=
    rfl
  have law := ((waits_when_disposed_iff_resolving run rfl).1 1 stalled).1
  exact ⟨run, rfl, stalled, waits, law.mp ⟨1, _, waits, by simp [requested]⟩⟩

end

end Engine
end MeshReadings
