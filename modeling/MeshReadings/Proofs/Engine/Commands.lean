import MeshReadings.Proofs.Engine.Disposal
import MeshReadings.Proofs.Engine.Exclusion

/-!
Commands in flight. Most steps of a live engine stand aside from its negotiation with the
device: they leave the configuration and the commands alone and change nothing about the
binding unless they fail it. `Move.course` tells them from the few that carry the
negotiation on.
-/

namespace MeshReadings

def Call.negotiates : Call → Bool
  | .bind | .report .. => true
  | _ => false

namespace Engine
open Binding (Mark)

def Stage.isConfiguring : Stage → Bool
  | .configuring .. => true
  | _ => false

/-- The command that an operation has in flight. -/
def command? (e : Engine) (t : Ticket) : Option Stage :=
  (e.stage? t).filter Stage.isCommand

def Quiet (e : Engine) : Prop := ∀ t, e.command? t = none

/-- Nothing differs that bears on the negotiation, but for a binding that has failed. -/
structure Aside (e e' : Engine) : Prop where
  config : e'.config = e.config
  polling : e'.polling = e.polling
  commands : ∀ t, e'.command? t = e.command? t
  binding : e'.state = .failed ∨ e'.state = e.state ∧ e'.binding.period = e.binding.period

/-- The ways in which a step of a live engine bears on its negotiation. -/
inductive Course (e : Engine) (now : Nat) : Event → Step → Prop
  | aside {event s} (same : Aside e s.1)
      (mute : ∀ t c, .call t c ∈ s.2 → c.negotiates = false) :
      Course e now event s
  | bindSent {event t} (takes : Takes e event t .activate) (sound : e.state ≠ .failed) :
      Course e now event ((e.claim t).wait t
        (.binding e.config.minInterval e.config.maxInterval e.config.change
          (now + e.timeout)) [.call t .bind])
  | stored {event t u} (takes : Takes e event t (.reconcile u))
      (quiet : e.config.isChangedBy u = false ∨ e.state = .unbound ∨ e.state = .failed) :
      Course e now event (((e.claim t).configure u).finish t (.settled e.state))
  | reportSent {event t u} (takes : Takes e event t (.reconcile u))
      (attached : e.state ≠ .unbound) :
      Course e now event
        (((e.claim t).configure u).wait t
          (.configuring (e.config.update u).pollingPeriod
            (e.config.update u).pollingPeriod (e.config.update u).maxInterval
            (now + e.timeout))
          [.call t (report (e.config.update u))])
  | bound {t r min max change d} (stage : e.stage? t = some (.binding min max change d))
      (success : r.isSuccess = true) :
      Course e now (.reply t r) ((e.transition (·.mark .bound)).wait t
        (.configuring e.normalPeriod e.highPeriod max (now + e.timeout))
          [.call t (.report min max change)])
  | settled {event t m} (settles : Settles e now event t m) :
      Course e now event
        ((e.transition (·.mark m)).finish t (.settled (e.binding.mark m).state))
  | claimedGone {t s} (stage : e.stage? t = some s) (command : s.isCommand = true) :
      Course e now (.reply t (.fault .disposed)) (e.finish t (.fault .disposed))
  | reopened {t r} (stage : e.stage? t = some .resolving) :
      Course e now (.reply t r) ((e.transition Binding.reset).finish t .done)
  | disposed {event s} (gone : s.1.disposed = true)
      (released : s.1.binding = e.binding.release) :
      Course e now event s

section
variable {e : Engine} {now : Nat} {event : Event} {s : Step} {t : Ticket}

theorem command?_of_stage {p : Stage} (stage : e.stage? t = some p) :
    e.command? t = if p.isCommand then some p else none := by
  simp [command?, stage, Option.filter]

theorem command?_fresh (fresh : e.stage? t = none) : e.command? t = none := by
  simp [command?, fresh]

theorem stage?_of_command? {p : Stage} (command : e.command? t = some p) :
    e.stage? t = some p ∧ p.isCommand = true := by
  simpa [command?, Option.filter_eq_some_iff] using command

@[simp] theorem command?_finish (o : Outcome) (u : Ticket) :
    (e.finish t o).1.command? u = if u = t then none else e.command? u := by
  simp only [command?, stage?_finish]
  split <;> rfl

@[simp] theorem command?_wait (p : Stage) (fx : List Effect) (u : Ticket) :
    (e.wait t p fx).1.command? u =
      if u = t then (if p.isCommand then some p else none) else e.command? u := by
  simp only [command?, stage?_wait]
  split <;> simp [Option.filter]

theorem Takes.command?_eq_none {x : Exchange} (takes : Takes e event t x) :
    e.command? t = none := by
  cases takes with
  | free fresh _ => exact command?_fresh fresh
  | handed queued _ => exact command?_of_stage queued

theorem Reads.command?_eq_none {p : Option Nat} (reads : Reads e now event t p) :
    e.command? t = none := by
  cases reads with
  | asked fresh => exact command?_fresh fresh
  | due stage _ _ => exact command?_of_stage stage

theorem not_command_of_pause {p : Stage} (pause : p.isPause = true) :
    p.isCommand = false := by
  cases p <;> first | rfl | simp [Stage.isPause] at pause

theorem holdsLock_of_command {p : Stage} (command : p.isCommand = true) :
    p.holdsLock = true := by
  cases p <;> first | rfl | simp [Stage.isCommand] at command

theorem quiet_finish (alone : ∀ u, u ≠ t → e.command? u = none) (o : Outcome) :
    Quiet (e.finish t o).1 := by
  intro u
  rw [command?_finish]
  split
  · rfl
  · next other => exact alone u other

theorem command?_put_alone {p q : Stage} {u : Ticket}
    (alone : ∀ u, u ≠ t → e.command? u = none)
    (flying : (e.put t p).command? u = some q) : u = t ∧ q = p := by
  change (e.wait t p []).1.command? u = some q at flying
  rw [command?_wait] at flying
  split at flying
  · next same =>
      split at flying
      · exact ⟨same, (Option.some.inj flying).symm⟩
      · contradiction
  · next other =>
      rw [alone u other] at flying
      contradiction

/-- Whoever has a command in flight has the lock, so nobody else has one. -/
theorem Exclusive.alone (exclusive : Exclusive e) {p : Stage}
    (stage : e.stage? t = some p) (holds : p.holdsLock = true) {u : Ticket}
    (other : u ≠ t) : e.command? u = none := by
  cases flying : e.command? u with
  | none => rfl
  | some q =>
      obtain ⟨flies, command⟩ := stage?_of_command? flying
      exact absurd (exclusive.same flies (holdsLock_of_command command) stage holds) other

theorem Takes.quiet {x : Exchange} (takes : Takes e event t x) (exclusive : Exclusive e) :
    Quiet e := by
  intro u
  cases flying : e.command? u with
  | none => rfl
  | some p =>
      obtain ⟨stage, command⟩ := stage?_of_command? flying
      have unheld := takes.unheld exclusive stage
      rw [holdsLock_of_command command] at unheld
      contradiction

theorem aside_self : Aside e e := ⟨rfl, rfl, fun _ => rfl, .inr ⟨rfl, rfl⟩⟩

theorem aside_claim : Aside e (e.claim t) := ⟨rfl, rfl, fun _ => rfl, .inr ⟨rfl, rfl⟩⟩

theorem aside_enqueue : Aside e (e.enqueue t) := ⟨rfl, rfl, fun _ => rfl, .inr ⟨rfl, rfl⟩⟩

theorem aside_noting (v : Value) : Aside e (e.noting now v) :=
  ⟨rfl, rfl, fun _ => rfl, .inr ⟨rfl, rfl⟩⟩

theorem aside_failing : Aside e (e.transition (·.mark .failed)) := by
  refine ⟨rfl, rfl, fun _ => rfl, .inl ?_⟩
  rw [transition_state, Binding.mark_state]
  split <;> rfl

section
variable {e' : Engine} (same : Aside e e') (off : e.command? t = none)
include same off

theorem Aside.finish (o : Outcome) : Aside e (e'.finish t o).1 := by
  refine ⟨same.config, same.polling, fun u => ?_, same.binding⟩
  rw [command?_finish, same.commands]
  split
  · next here => rw [here, off]
  · rfl

theorem Aside.wait {p : Stage} (other : p.isCommand = false) (fx : List Effect) :
    Aside e (e'.wait t p fx).1 := by
  refine ⟨same.config, same.polling, fun u => ?_, same.binding⟩
  rw [command?_wait, same.commands]
  split
  · next here => simp [here, off, other]
  · rfl

theorem Aside.afterRead (p : Option Nat) : Aside e (e'.afterRead now t p).1 := by
  cases p with
  | none => exact same.finish off .done
  | some seen => exact same.wait off rfl []

end

/-- What a step of a live engine means for its negotiation. -/
theorem Move.course (move : Move e now event s) (live : e.disposed = false) :
    Course e now event s := by
  have off {t : Ticket} {p : Stage} (stage : e.stage? t = some p)
      (other : p.isCommand = false) :
      e.command? t = none := by
    simp [command?_of_stage stage, other]
  cases move with
  | bindSent takes _ sound => exact .bindSent takes sound
  | stored takes _ quiet => exact .stored takes quiet
  | reportSent takes _ _ attached => exact .reportSent takes attached
  | bound stage success => exact .bound stage success
  | settled settles => exact .settled settles
  | reopened stage => exact .reopened stage
  | disposed => exact .disposed rfl rfl
  | turnedAway _ gone | reopenedLate _ gone | disposedAgain _ gone
  | pollerStopped _ _ gone =>
      rw [live] at gone
      contradiction
  | dropped wakes stage command why =>
      obtain gone | rfl := why
      · rw [live] at gone
        contradiction
      · cases wakes
        exact .claimedGone stage command
  | idle => exact .aside aside_self (by simp)
  | enqueued fresh =>
      exact .aside (aside_enqueue.wait (command?_fresh fresh) rfl []) (by simp)
  | pollStarted fresh =>
      exact .aside (aside_self.wait (command?_fresh fresh) rfl []) (by simp)
  | stayedFailed takes =>
      exact .aside (aside_claim.finish takes.command?_eq_none _) (by simp)
  | resolveSent takes =>
      exact .aside (aside_claim.wait takes.command?_eq_none rfl _)
        (by simp [Call.negotiates])
  | resolveFailed stage | unlistened stage =>
      exact .aside (aside_self.finish (off stage rfl) _) (by simp)
  | rested _ stage pause =>
      exact .aside
        (aside_self.wait (off stage (not_command_of_pause pause)) rfl []) (by simp)
  | readSkipped reads =>
      exact .aside (aside_self.afterRead reads.command?_eq_none _) (by simp)
  | readSent reads =>
      exact .aside (aside_self.wait reads.command?_eq_none rfl _)
        (by simp [Call.negotiates])
  | readNoted stage =>
      exact .aside ((aside_noting _).afterRead (off stage rfl) _) (by simp)
  | readFailed stage => exact .aside (aside_failing.afterRead (off stage rfl) _) (by simp)
  | readOver _ stage => exact .aside (aside_self.afterRead (off stage rfl) _) (by simp)
  | noted => exact .aside (aside_noting _) (by simp)

end
end Engine
end MeshReadings
