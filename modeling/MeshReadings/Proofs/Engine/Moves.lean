import MeshReadings.Proofs.Engine.Frame

/-!
Everything one step of an engine can do. `Move` has a case for each way a step can go,
with what held before it, and `step_move` says that there are no others; what a run keeps
is shown case by case over moves. Beside it stands what finishing an operation or leaving
it waiting does to the rest of the engine.
-/

namespace MeshReadings

/-- A reply that is neither a refusal nor a fault. -/
def Reply.isSuccess : Reply → Bool
  | .ok | .reading _ => true
  | .refused _ | .fault _ => false

namespace Engine
open Binding (Mark)

/-- An exchange goes on with the lock: it was free at the start, or it was handed over. -/
inductive Takes (e : Engine) : Event → Ticket → Exchange → Prop
  | free {t : Ticket} {x : Exchange} (fresh : e.stage? t = none)
      (idle : e.lock.holder = none) :
      Takes e (.start t (.exchange x)) t x
  | handed {t : Ticket} {x : Exchange} (queued : e.stage? t = some (.queued x))
      (held : e.lock.holder = some t) : Takes e (.proceed t) t x

/-- A command in flight comes to an end that marks the binding. -/
inductive Settles (e : Engine) (now : Nat) : Event → Ticket → Mark → Prop
  | bindRefused {t min max change d status}
      (stage : e.stage? t = some (.binding min max change d)) :
      Settles e now (.reply t (.refused status)) t (.polling e.highPeriod)
  | bindLost {t min max change d f}
      (stage : e.stage? t = some (.binding min max change d))
      (other : f ≠ .disposed) (recoverable : f.isRecoverable = true) :
      Settles e now (.reply t (.fault f)) t (.polling e.highPeriod)
  | bindFailed {t min max change d f}
      (stage : e.stage? t = some (.binding min max change d))
      (other : f ≠ .disposed) (fatal : f.isRecoverable = false) :
      Settles e now (.reply t (.fault f)) t .failed
  | bindExpired {t min max change d}
      (stage : e.stage? t = some (.binding min max change d))
      (late : d ≤ now) : Settles e now (.expire t) t (.polling e.highPeriod)
  | reportAccepted {t refusedPeriod faultPeriod max d r}
      (stage : e.stage? t = some (.configuring refusedPeriod faultPeriod max d))
      (success : r.isSuccess = true) : Settles e now (.reply t r) t (.reporting max)
  | reportRefused {t refusedPeriod faultPeriod max d status}
      (stage : e.stage? t = some (.configuring refusedPeriod faultPeriod max d)) :
      Settles e now (.reply t (.refused status)) t (.polling refusedPeriod)
  | reportLost {t refusedPeriod faultPeriod max d f}
      (stage : e.stage? t = some (.configuring refusedPeriod faultPeriod max d))
      (other : f ≠ .disposed) (recoverable : f.isRecoverable = true) :
      Settles e now (.reply t (.fault f)) t (.polling faultPeriod)
  | reportFailed {t refusedPeriod faultPeriod max d f}
      (stage : e.stage? t = some (.configuring refusedPeriod faultPeriod max d))
      (other : f ≠ .disposed) (fatal : f.isRecoverable = false) :
      Settles e now (.reply t (.fault f)) t .failed
  | reportExpired {t refusedPeriod faultPeriod max d}
      (stage : e.stage? t = some (.configuring refusedPeriod faultPeriod max d))
      (late : d ≤ now) : Settles e now (.expire t) t (.polling faultPeriod)

/-- A read is due: it was asked for, or a poller's wait is over while the binding is
polled. -/
inductive Reads (e : Engine) (now : Nat) : Event → Ticket → Option Nat → Prop
  | asked {t} (fresh : e.stage? t = none) : Reads e now (.start t .refresh) t none
  | due {t since period seen} (stage : e.stage? t = some (.waiting since period seen))
      (elapsed : since + 1000 * period ≤ now) (polled : e.state = .polling) :
      Reads e now (.tick t) t (some seen)

/-- The operation that an event lets go on. -/
def Event.wakes? : Event → Option Ticket
  | .proceed t | .reply t _ | .expire t | .cancel t | .tick t | .notice t => some t
  | .start .. | .notify _ => none

def Stage.isCommand : Stage → Bool
  | .binding .. | .configuring .. => true
  | _ => false

/-- A poller between two polls. -/
def Stage.isPause : Stage → Bool
  | .arming _ | .waiting .. => true
  | _ => false

/-- The ways a step can go. -/
inductive Move (e : Engine) (now : Nat) : Event → Step → Prop
  /-- The event does not fit, or brings nothing. -/
  | idle {event} : Move e now event (e, [])
  | enqueued {t x} (fresh : e.stage? t = none) (taken : e.lock.holder ≠ none) :
      Move e now (.start t (.exchange x)) ((e.enqueue t).wait t (.queued x) [])
  /-- A disposed engine begins no exchange. -/
  | turnedAway {event t x} (takes : Takes e event t x) (gone : e.disposed = true) :
      Move e now event ((e.claim t).finish t (.fault .disposed))
  | stayedFailed {event t} (takes : Takes e event t .activate) (live : e.disposed = false)
      (failed : e.state = .failed) :
      Move e now event ((e.claim t).finish t (.settled .failed))
  | bindSent {event t} (takes : Takes e event t .activate) (live : e.disposed = false)
      (sound : e.state ≠ .failed) :
      Move e now event ((e.claim t).wait t
        (.binding e.config.minInterval e.config.maxInterval e.config.change
          (now + e.timeout)) [.call t .bind])
  /-- The update changes nothing, or is only kept for the next activation. -/
  | stored {event t u} (takes : Takes e event t (.reconcile u))
      (live : e.disposed = false)
      (quiet : e.config.isChangedBy u = false ∨ e.state = .unbound ∨ e.state = .failed) :
      Move e now event
        (((e.claim t).configure u).finish t (.settled e.state))
  | reportSent {event t u} (takes : Takes e event t (.reconcile u))
      (live : e.disposed = false) (changed : e.config.isChangedBy u = true)
      (attached : e.state ≠ .unbound) (sound : e.state ≠ .failed) :
      Move e now event
        (((e.claim t).configure u).wait t
          (.configuring (e.config.update u).pollingPeriod
            (e.config.update u).pollingPeriod (e.config.update u).maxInterval
            (now + e.timeout))
          [.call t (report (e.config.update u))])
  | resolveSent {event t} (takes : Takes e event t .reopen) (live : e.disposed = false) :
      Move e now event ((e.claim t).wait t .resolving [.call t .resolve])
  | bound {t r min max change d} (stage : e.stage? t = some (.binding min max change d))
      (success : r.isSuccess = true) (live : e.disposed = false) :
      Move e now (.reply t r) ((e.transition (·.mark .bound)).wait t
        (.configuring e.normalPeriod e.highPeriod max (now + e.timeout))
          [.call t (.report min max change)])
  | settled {event t m} (settles : Settles e now event t m) (live : e.disposed = false) :
      Move e now event
        ((e.transition (·.mark m)).finish t (.settled (e.binding.mark m).state))
  /-- A command ends too late, or the gateway itself claims that the engine was
  disposed. -/
  | dropped {event t s} (wakes : event.wakes? = some t) (stage : e.stage? t = some s)
      (command : s.isCommand = true)
      (why : e.disposed = true ∨ event = .reply t (.fault .disposed)) :
      Move e now event (e.finish t (.fault .disposed))
  | resolveFailed {t f} (stage : e.stage? t = some .resolving) :
      Move e now (.reply t (.fault f)) (e.finish t (.fault f))
  | reopenedLate {t r} (stage : e.stage? t = some .resolving) (gone : e.disposed = true) :
      Move e now (.reply t r) (e.finish t (.fault .disposed))
  | reopened {t r} (stage : e.stage? t = some .resolving) (live : e.disposed = false) :
      Move e now (.reply t r) ((e.transition Binding.reset).finish t .done)
  | readSkipped {event t p} (reads : Reads e now event t p)
      (why : e.disposed = true ∨ e.state = .failed) :
      Move e now event (e.afterRead now t p)
  | readSent {event t p} (reads : Reads e now event t p) (live : e.disposed = false)
      (sound : e.state ≠ .failed) :
      Move e now event (e.wait t (.reading (now + e.timeout) p) [.call t .read])
  | readNoted {t raw v d p} (stage : e.stage? t = some (.reading d p))
      (live : e.disposed = false) (decoded : e.decoder.decode raw = .ok v) :
      Move e now (.reply t (.reading raw))
        (((e.noting now v).afterRead now t p).1,
          e.news v ++ ((e.noting now v).afterRead now t p).2)
  | readFailed {t f d p} (stage : e.stage? t = some (.reading d p))
      (live : e.disposed = false) (fatal : f.isRecoverable = false) :
      Move e now (.reply t (.fault f)) ((e.transition (·.mark .failed)).afterRead now t p)
  | readOver {event t d p} (wakes : event.wakes? = some t)
      (stage : e.stage? t = some (.reading d p)) :
      Move e now event (e.afterRead now t p)
  | disposedAgain {t} (fresh : e.stage? t = none) (gone : e.disposed = true) :
      Move e now (.start t .dispose) (e.finish t .done)
  | disposed {t} (fresh : e.stage? t = none) (live : e.disposed = false) :
      Move e now (.start t .dispose)
        (({ e with disposed := true }.transition Binding.release).wait t .unlistening
          [.unroute, .call t .unlisten])
  | unlistened {t r} (stage : e.stage? t = some .unlistening) :
      Move e now (.reply t r) (e.finish t .done)
  | pollStarted {t} (fresh : e.stage? t = none) :
      Move e now (.start t .poll) (e.wait t (.arming e.signal.version) [])
  | rested {event t s seen} (wakes : event.wakes? = some t) (stage : e.stage? t = some s)
      (pause : s.isPause = true) : Move e now event (e.rest now t seen)
  | pollerStopped {t s} (stage : e.stage? t = some s) (pause : s.isPause = true)
      (gone : e.disposed = true) :
      Move e now (.cancel t) (e.finish t .done)
  | noted {raw v} (live : e.disposed = false) (decoded : e.decoder.decode raw = .ok v) :
      Move e now (.notify raw) (e.noting now v, e.news v)

section
variable {e : Engine} {now : Nat}

theorem move_commence {event : Event} {t : Ticket} {x : Exchange}
    (takes : Takes e event t x) : Move e now event ((e.claim t).commence now t x) := by
  cases gone : e.disposed with
  | true => cases x <;> simpa [commence, gone] using Move.turnedAway takes gone
  | false =>
      cases x with
      | activate =>
          by_cases failed : e.state = .failed
          · simpa [commence, gone, failed] using Move.stayedFailed takes gone failed
          · simpa [commence, gone, failed] using Move.bindSent takes gone failed
      | reconcile u =>
          simp only [commence]
          rw [if_neg (by simp [gone])]
          split
          · next quiet =>
              simp only [Bool.or_eq_true, Bool.not_eq_true', decide_eq_true_eq,
                or_assoc] at quiet
              exact .stored takes gone quiet
          · next busy =>
              simp only [Bool.or_eq_true, Bool.not_eq_true', decide_eq_true_eq,
                not_or] at busy
              exact .reportSent takes gone (by simpa using busy.1.1) busy.1.2 busy.2
      | reopen => simpa [commence, gone] using Move.resolveSent takes gone

theorem move_settle {event : Event} {t : Ticket} {m : Mark} {s : Stage}
    (settles : Settles e now event t m) (wakes : event.wakes? = some t)
    (stage : e.stage? t = some s) (command : s.isCommand = true) :
    Move e now event (e.settle t (·.mark m)) := by
  simp only [settle]
  split
  · next gone => exact .dropped wakes stage command (.inl gone)
  · next live => exact .settled settles (by simpa using live)

theorem move_beginRead {event : Event} {t : Ticket} {p : Option Nat}
    (reads : Reads e now event t p) : Move e now event (e.beginRead now t p) := by
  simp only [beginRead]
  split
  · next skip => exact .readSkipped reads (by simpa using skip)
  · next go =>
      simp only [Bool.or_eq_true, decide_eq_true_eq, not_or] at go
      exact .readSent reads (by simpa using go.1) go.2

theorem move_settleFault {event : Event} {t : Ticket} {f : Fault} {s : Stage}
    {period : Nat}
    (lost : f ≠ .disposed → f.isRecoverable = true →
      Settles e now event t (.polling period))
    (failed : f ≠ .disposed → f.isRecoverable = false → Settles e now event t .failed)
    (claimed : f = .disposed → event = .reply t (.fault .disposed))
    (wakes : event.wakes? = some t) (stage : e.stage? t = some s)
    (command : s.isCommand = true) : Move e now event (e.settleFault t f period) := by
  simp only [settleFault]
  split
  · next same => exact .dropped wakes stage command (.inr (claimed same))
  · next other =>
      split
      · next recoverable => exact move_settle (lost other recoverable) wakes stage command
      · next fatal =>
            exact move_settle (failed other (by simpa using fatal)) wakes stage command

theorem move_start {t : Ticket} (fresh : e.stage? t = none) (r : Request) :
    Move e now (.start t r) (e.start now t r) := by
  cases r with
  | exchange x =>
      simp only [start]
      split
      · next idle => exact move_commence (.free fresh (by simpa using idle))
      · next taken => exact .enqueued fresh (by simpa using taken)
  | refresh =>
      exact move_beginRead (.asked fresh)
  | dispose =>
      simp only [start]
      split
      · next gone => exact .disposedAgain fresh gone
      · next live => exact .disposed fresh (by simpa using live)
  | poll => exact .pollStarted fresh

theorem notice_cases (e : Engine) (now : Nat) (raw : Raw) :
    e.notice now raw = (e, none) ∨
    ∃ v, e.disposed = false ∧ e.decoder.decode raw = .ok v ∧
      e.notice now raw =
        (e.noting now v, if e.binding.isNew v then some v else none) := by
  simp only [notice]
  split
  · exact Or.inl rfl
  · next v decoded =>
      split
      · exact Or.inl rfl
      · next live => exact Or.inr ⟨v, by simpa using live, decoded, rfl⟩

theorem move_readReply {t : Ticket} {d : Nat} {p : Option Nat}
    (stage : e.stage? t = some (.reading d p)) (raw : Raw) :
    let (n, v) := e.notice now raw
    Move e now (.reply t (.reading raw))
      ((n.afterRead now t p).1, published v ++ (n.afterRead now t p).2) := by
  obtain nothing | ⟨v, live, decoded, something⟩ := notice_cases e now raw
  · rw [nothing]
    exact .readOver rfl stage
  · rw [something]
    exact .readNoted stage live decoded

theorem move_reply (t : Ticket) (r : Reply) :
    Move e now (.reply t r) (e.reply now t r) := by
  simp only [reply]
  split
  · next min max change d stage =>
      have accepted (success : r.isSuccess = true) : Move e now (.reply t r)
          (if e.disposed then e.finish t (.fault .disposed)
          else (e.transition (·.mark .bound)).wait t
            (.configuring e.normalPeriod e.highPeriod max (now + e.timeout))
            [.call t (.report min max change)]) := by
        split
        · next gone => exact .dropped rfl stage rfl (.inl gone)
        · next live => exact .bound stage success (by simpa using live)
      cases r with
      | ok | reading _ => exact accepted rfl
      | refused status => exact move_settle (.bindRefused stage) rfl stage rfl
      | fault f =>
          exact move_settleFault (.bindLost stage) (.bindFailed stage)
            (fun same => same ▸ rfl) rfl stage rfl
  · next refusedPeriod faultPeriod max d stage =>
      cases r with
      | ok | reading _ => exact move_settle (.reportAccepted stage rfl) rfl stage rfl
      | refused status => exact move_settle (.reportRefused stage) rfl stage rfl
      | fault f =>
          exact move_settleFault (.reportLost stage) (.reportFailed stage)
            (fun same => same ▸ rfl) rfl stage rfl
  · next stage =>
      have reopens : Move e now (.reply t r)
          (if e.disposed then e.finish t (.fault .disposed)
          else (e.transition Binding.reset).finish t .done) := by
        split
        · next gone => exact .reopenedLate stage gone
        · next live => exact .reopened stage (by simpa using live)
      cases r with
      | ok | refused _ | reading _ => exact reopens
      | fault f => exact .resolveFailed stage
  · next d p stage =>
      cases r with
      | ok | refused _ => exact .readOver rfl stage
      | reading raw => exact move_readReply stage raw
      | fault f =>
          dsimp only
          split
          · next failed =>
              simp only [Bool.and_eq_true, Bool.not_eq_true'] at failed
              exact .readFailed stage failed.2 failed.1
          · exact .readOver rfl stage
  · next stage => exact .unlistened stage
  · exact .idle

theorem move_expire (t : Ticket) : Move e now (.expire t) (e.expire now t) := by
  simp only [expire]
  split
  · next stage =>
      split
      · next late =>
          exact move_settleFault (fun _ _ => .bindExpired stage late)
            (by simp [Fault.isRecoverable]) (by simp) rfl stage rfl
      · exact .idle
  · next stage =>
      split
      · next late =>
          exact move_settleFault (fun _ _ => .reportExpired stage late)
            (by simp [Fault.isRecoverable]) (by simp) rfl stage rfl
      · exact .idle
  · next stage =>
      split
      · exact .readOver rfl stage
      · exact .idle
  · exact .idle

theorem move_cancel (t : Ticket) : Move e now (.cancel t) (e.cancel now t) := by
  simp only [cancel]
  split
  · exact .idle
  · next gone =>
      have gone : e.disposed = true := by simpa using gone
      split
      · next stage => exact .dropped rfl stage rfl (.inl gone)
      · next stage => exact .dropped rfl stage rfl (.inl gone)
      · next stage => exact .readOver rfl stage
      · next stage => exact .pollerStopped stage rfl gone
      · exact .idle

theorem move_proceed (t : Ticket) : Move e now (.proceed t) (e.proceed now t) := by
  simp only [proceed]
  split
  · next x stage =>
      split
      · next held =>
          have move : Move e now (.proceed t) ((e.claim t).commence now t x) :=
            move_commence (.handed stage held)
          rwa [claim_of_held e t held] at move
      · exact .idle
  · next stage => exact .rested rfl stage rfl
  · exact .idle

theorem move_tick (t : Ticket) : Move e now (.tick t) (e.tick now t) := by
  simp only [tick]
  split
  · next stage =>
      split
      · next elapsed =>
          split
          · next polled => exact move_beginRead (.due stage elapsed polled)
          · exact .rested rfl stage rfl
      · exact .idle
  · exact .idle

theorem move_restart (t : Ticket) : Move e now (.notice t) (e.restart now t) := by
  simp only [restart]
  split
  · next stage =>
      split
      · exact .rested rfl stage rfl
      · exact .idle
  · exact .idle

end

/-- Every step is a move. -/
theorem step_move (e : Engine) (now : Nat) (event : Event) :
    Move e now event (e.step now event) := by
  cases event with
  | start t r =>
      simp only [step]
      split
      · exact .idle
      · next fresh => exact move_start (by simpa using fresh) r
  | proceed t => exact move_proceed t
  | reply t r => exact move_reply t r
  | expire t => exact move_expire t
  | cancel t => exact move_cancel t
  | tick t => exact move_tick t
  | notice t => exact move_restart t
  | notify raw =>
      simp only [step]
      obtain nothing | ⟨v, live, decoded, something⟩ := notice_cases e now raw
      · rw [nothing]
        exact .idle
      · rw [something]
        exact .noted live decoded

section
variable {e : Engine} {now : Nat} {event : Event} {s : Step} {t : Ticket} {x : Exchange}

/-- An exchange that has the lock commences. -/
theorem Takes.step (takes : Takes e event t x) (now : Nat) :
    e.step now event = (e.claim t).commence now t x := by
  cases takes with
  | free fresh idle => simp [Engine.step, start, fresh, idle, claim]
  | handed queued held =>
      simp [Engine.step, proceed, queued, held, claim_of_held e t held]

/-- An update that changes nothing, or that nobody can be told of, is only kept. -/
theorem Takes.stored {u : Reporting.Update} (takes : Takes e event t (.reconcile u))
    (live : e.disposed = false)
    (quiet : e.config.isChangedBy u = false ∨ e.state = .unbound ∨ e.state = .failed)
    (now : Nat) :
    e.step now event = ((e.claim t).configure u).finish t (.settled e.state) := by
  have skips : (!e.config.isChangedBy u || decide (e.state = .unbound) ||
      decide (e.state = .failed)) = true := by
    simpa [or_assoc] using quiet
  rw [takes.step, commence, if_neg (by simp [live])]
  exact if_pos skips

/-- Nothing but a reconciliation of a live engine touches the configuration. -/
theorem Move.config (move : Move e now event s) :
    s.1.config = e.config ∨
      ∃ t u, Takes e event t (.reconcile u) ∧ e.disposed = false ∧
        s.1.config = e.config.update u := by
  cases move with
  | stored takes live | reportSent takes live => exact .inr ⟨_, _, takes, live, rfl⟩
  | readSkipped | readNoted | readFailed | readOver => exact .inl (afterRead_config ..)
  | _ => exact .inl rfl

theorem Move.config_of_not (move : Move e now event s)
    (other : ∀ t u, e.disposed = false → ¬ Takes e event t (.reconcile u)) :
    s.1.config = e.config := by
  obtain same | ⟨t, u, takes, live, -⟩ := move.config
  · exact same
  · exact absurd takes (other t u live)

end

end Engine
end MeshReadings
