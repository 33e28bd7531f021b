import MeshReadings.Proofs.Engine.History

/-!
Only the holder of the lock has a command in flight. Whatever begins an exchange has the
lock, and an exchange gives it back only when it ends, so at most one bind, reporting
configuration or resolution is awaited.
-/

namespace MeshReadings
namespace Engine

def Stage.holdsLock : Stage → Bool
  | .binding .. | .configuring .. | .resolving => true
  | _ => false

def Stage.isExchange : Stage → Bool
  | .queued _ | .binding .. | .configuring .. | .resolving => true
  | _ => false

/-- Whoever stands at a stage that needs the lock has it. -/
def Exclusive (e : Engine) : Prop :=
  ∀ t s, e.stage? t = some s → s.holdsLock = true → e.lock.holder = some t

section
variable {e : Engine}

theorem Exclusive.same (inv : Exclusive e) {t u : Ticket} {r s : Stage}
    (first : e.stage? t = some r) (firstHolds : r.holdsLock = true)
    (second : e.stage? u = some s) (secondHolds : s.holdsLock = true) : t = u :=
  Option.some.inj ((inv t r first firstHolds).symm.trans (inv u s second secondHolds))

theorem isExchange_of_holdsLock {s : Stage} (holds : s.holdsLock = true) :
    s.isExchange = true := by
  cases s <;> simp_all [Stage.holdsLock, Stage.isExchange]

theorem isExchange_of_pause {s : Stage} (pause : s.isPause = true) :
    s.isExchange = false := by
  cases s <;> simp_all [Stage.isPause, Stage.isExchange]

theorem Reads.before {now : Nat} {event : Event} {t : Ticket} {p : Option Nat}
    (reads : Reads e now event t p) :
    ∀ s, e.stage? t = some s → s.isExchange = false := by
  intro s stage
  cases reads with
  | asked fresh => cases fresh.symm.trans stage
  | due waiting _ _ =>
      cases waiting.symm.trans stage
      rfl

/-- Whoever takes the lock finds nobody at a stage that needs it. -/
theorem Takes.unheld {event : Event} {t u : Ticket} {x : Exchange} {s : Stage}
    (takes : Takes e event t x) (inv : Exclusive e) (stage : e.stage? u = some s) :
    s.holdsLock = false := by
  cases holds : s.holdsLock with
  | false => rfl
  | true =>
      have held := inv u s stage holds
      cases takes with
      | free _ idle => cases idle.symm.trans held
      | handed queued holder =>
          obtain rfl : t = u := Option.some.inj (holder.symm.trans held)
          cases queued.symm.trans stage
          cases holds

theorem exclusive_claim {event : Event} {t : Ticket} {x : Exchange}
    (takes : Takes e event t x) (inv : Exclusive e) : Exclusive (e.claim t) := by
  cases takes with
  | free _ idle =>
      intro u s stage holds
      have held := inv u s stage holds
      rw [idle] at held
      contradiction
  | handed _ held => rwa [claim_of_held e t held]

theorem exclusive_finish (t : Ticket) (o : Outcome) (inv : Exclusive e) :
    Exclusive (e.finish t o).1 := by
  intro u s stage holds
  rw [stage?_finish] at stage
  split at stage
  · contradiction
  · next other =>
      have held := inv u s stage holds
      rw [finish_lock, if_neg (by simpa [held] using other)]
      exact held

theorem exclusive_wait {t : Ticket} {s : Stage} (fx : List Effect)
    (may : s.holdsLock = true → e.lock.holder = some t) (inv : Exclusive e) :
    Exclusive (e.wait t s fx).1 := by
  intro u r stage holds
  rw [stage?_wait] at stage
  split at stage
  · next same =>
      cases stage
      exact same ▸ may holds
  · exact inv u r stage holds

theorem exclusive_afterRead (now : Nat) (t : Ticket) (p : Option Nat)
    (inv : Exclusive e) : Exclusive (e.afterRead now t p).1 := by
  cases p with
  | none => exact exclusive_finish t .done inv
  | some seen => exact exclusive_wait [] (by simp [Stage.holdsLock]) inv

theorem exclusive_move {now : Nat} {event : Event} {s : Step} (move : Move e now event s)
    (inv : Exclusive e) : Exclusive s.1 := by
  cases move with
  | idle | noted => exact inv
  | enqueued | pollStarted | rested | disposed | readSent =>
      exact exclusive_wait _ (by simp [Stage.holdsLock]) inv
  | turnedAway takes | stayedFailed takes | stored takes =>
      have taken := exclusive_claim takes inv
      exact exclusive_finish _ _ taken
  | bindSent takes | reportSent takes | resolveSent takes =>
      have taken := exclusive_claim takes inv
      exact exclusive_wait _ (fun _ => rfl) taken
  | bound stage => exact exclusive_wait _ (fun _ => inv _ _ stage rfl) inv
  | settled | dropped | resolveFailed | reopenedLate | reopened | disposedAgain
  | unlistened | pollerStopped =>
      exact exclusive_finish _ _ inv
  | readSkipped | readNoted | readFailed | readOver => exact exclusive_afterRead _ _ _ inv

end

/-- At every moment of every run at most one exchange stands where the lock is needed. -/
theorem RunOf.exclusive {spec : Spec} {h : History} {e : Engine} (run : RunOf spec h e) :
    Exclusive e := by
  refine run.invariant ?_ fun e now event s => exclusive_move
  intro e opened t s stage
  simp [stage?, (ofSpec?_eq_some opened).1] at stage

end Engine
end MeshReadings
