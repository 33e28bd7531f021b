import MeshReadings.Proofs.Engine.History

/-!
What each operation in progress was started for. The stages of one request are never those
of another, so the stage at which an operation ends tells which request it answers.
-/

namespace MeshReadings
namespace Engine

/-- The requests that come to a stage. -/
def Stage.Serves : Stage → Request → Prop
  | .queued x, r => r = .exchange x
  | .binding .., r => r = .exchange .activate
  | .configuring .., r => r = .exchange .activate ∨ ∃ u, r = .exchange (.reconcile u)
  | .resolving, r => r = .exchange .reopen
  | .reading _ none, r => r = .refresh
  | .reading _ (some _), r | .arming _, r | .waiting .., r => r = .poll
  | .unlistening, r => r = .dispose

theorem serves_reading {d : Nat} {p : Option Nat} {r : Request} :
    (Stage.reading d p).Serves r ↔ r = if p.isSome then .poll else .refresh := by
  cases p <;> rfl

theorem serves_pause {s : Stage} {r : Request} (pause : s.isPause = true)
    (serves : s.Serves r) : r = .poll := by
  cases s with
  | arming _ | waiting _ _ _ => exact serves
  | _ => simp [Stage.isPause] at pause

/-- Every operation stands at a stage of the request that its ticket stands for. -/
def Serving (e : Engine) (request? : Ticket → Option Request) : Prop :=
  ∀ t s, e.stage? t = some s → ∃ r, request? t = some r ∧ s.Serves r

section
variable {e : Engine} {now : Nat} {event : Event} {request? : Ticket → Option Request}

theorem begins?_start {t : Ticket} (fresh : e.stage? t = none) (r : Request) :
    begins? e (.start t r) t = some r := by
  simp [begins?, fresh]

theorem begins?_eq_none {t : Ticket} {s : Stage} (stage : e.stage? t = some s) :
    begins? e event t = none := by
  cases event with
  | start u r => simp [begins?, stage]
  | _ => rfl

theorem Takes.requested {t : Ticket} {x : Exchange} (takes : Takes e event t x)
    (inv : Serving e request?) :
    (begins? e event t).or (request? t) = some (.exchange x) := by
  cases takes with
  | free fresh _ => simp [begins?_start fresh]
  | handed queued _ =>
      obtain ⟨r, requested, serves⟩ := inv t _ queued
      simp only [Stage.Serves] at serves
      simp [begins?, requested, serves]

theorem Reads.requested {t : Ticket} {p : Option Nat} (reads : Reads e now event t p)
    (inv : Serving e request?) :
    (begins? e event t).or (request? t) =
      some (if p.isSome then .poll else .refresh) := by
  cases reads with
  | asked fresh => simp [begins?_start fresh]
  | due stage _ _ =>
      obtain ⟨r, requested, serves⟩ := inv t _ stage
      simp only [Stage.Serves] at serves
      simp [begins?, requested, serves]

theorem Serving.finish {t : Ticket} {o : Outcome} (inv : Serving e request?) :
    Serving (e.finish t o).1 request? := by
  intro u s stage
  rw [stage?_finish] at stage
  split at stage
  · contradiction
  · exact inv u s stage

theorem Serving.wait {t : Ticket} {s : Stage} {r : Request} {fx : List Effect}
    (inv : Serving e request?) (requested : request? t = some r) (serves : s.Serves r) :
    Serving (e.wait t s fx).1 request? := by
  intro u s' stage
  rw [stage?_wait] at stage
  split at stage
  · next same =>
      cases stage
      exact ⟨r, same ▸ requested, serves⟩
  · exact inv u s' stage

theorem Serving.afterRead {now : Nat} {t : Ticket} {p : Option Nat}
    (inv : Serving e request?)
    (requested : request? t = some (if p.isSome then .poll else .refresh)) :
    Serving (e.afterRead now t p).1 request? := by
  cases p with
  | none => exact inv.finish
  | some seen => exact inv.wait requested rfl

theorem serving_move {s : Step} (move : Move e now event s) (inv : Serving e request?) :
    Serving s.1 fun u => (begins? e event u).or (request? u) := by
  have kept : Serving e fun u => (begins? e event u).or (request? u) := by
    intro t s stage
    simpa [begins?_eq_none stage] using inv t s stage
  cases move with
  | idle | noted => exact kept
  | enqueued fresh | disposed fresh | pollStarted fresh =>
      exact Serving.wait kept (by simp [begins?_start fresh]) rfl
  | turnedAway | stayedFailed | stored | settled | dropped | resolveFailed | reopenedLate
  | reopened | disposedAgain | unlistened | pollerStopped =>
      exact Serving.finish kept
  | bindSent takes | resolveSent takes =>
      exact Serving.wait kept (takes.requested inv) rfl
  | reportSent takes => exact Serving.wait kept (takes.requested inv) (Or.inr ⟨_, rfl⟩)
  | bound stage =>
      obtain ⟨r, requested, serves⟩ := kept _ _ stage
      exact Serving.wait kept requested (Or.inl serves)
  | readSent reads =>
      exact Serving.wait kept (reads.requested inv) (serves_reading.mpr rfl)
  | readSkipped reads => exact Serving.afterRead kept (reads.requested inv)
  | readNoted stage | readFailed stage | readOver _ stage =>
      obtain ⟨r, requested, serves⟩ := kept _ _ stage
      exact Serving.afterRead kept (serves_reading.mp serves ▸ requested)
  | rested _ stage pause =>
      obtain ⟨r, requested, serves⟩ := kept _ _ stage
      exact Serving.wait kept requested (serves_pause pause serves)

end

theorem RunOf.serving {spec : Spec} {h : History} {e : Engine} (run : RunOf spec h e) :
    Serving e (requested? · h) := by
  refine run.induct (P := fun h e => Serving e (requested? · h)) ?_ ?_
  · intro e opened t s stage
    simp [stage?, (ofSpec?_eq_some opened).1] at stage
  · intro h e now event _ inv t s stage
    simp only [requested?_snoc]
    exact serving_move (step_move e now event) inv t s stage

end Engine
end MeshReadings
