import MeshReadings.Proofs.Engine.History
import MeshReadings.Proofs.Reporting.Updates

/-!
Reconciling twice. The first reconciliation with an update leaves the engine with a
configuration that the update was made to, whatever becomes of the exchange with the
device, and until another update comes nothing moves that configuration. A second one with
the same update therefore finds nothing to tell the device.
-/

namespace MeshReadings
namespace Engine
open Reporting Reporting.Config

/-- The engine takes an update over into its configuration. -/
def Reconfigures (u : Update) (m : Moment) : Prop :=
  m.before.disposed = false ∧ ∃ t, Takes m.before m.event t (.reconcile u)

/-- The update is the last that the engine took over. -/
def LastUpdated (u : Update) (h : History) : Prop :=
  Since (fun _ m => Reconfigures u m) (fun m => ∀ v, ¬ Reconfigures v m) h

/-- A reconciliation is asked for, or goes on if the lock was handed to it. -/
inductive Reconciles (e : Engine) (t : Ticket) (u : Update) : Event → Prop
  | asked (fresh : e.stage? t = none) :
      Reconciles e t u (.start t (.exchange (.reconcile u)))
  | resumed (queued : e.stage? t = some (.queued (.reconcile u))) :
      Reconciles e t u (.proceed t)

section
variable {e : Engine} {now : Nat} {event : Event} {s : Step} {t : Ticket} {u : Update}

theorem Move.inRange {within : Option ChangeBounds} (move : Move e now event s)
    (inRange : InRange within e.config) : InRange within s.1.config := by
  obtain same | ⟨_, u, -, -, updated⟩ := move.config
  · rwa [same]
  · rw [updated]
    exact inRange_update inRange u

/-- A live engine takes an update over before it tells the device. -/
theorem Takes.config (takes : Takes e event t (.reconcile u)) (live : e.disposed = false)
    (now : Nat) : (e.step now event).1.config = e.config.update u := by
  rw [takes.step, commence, if_neg (by simp [live])]
  simp only
  split <;> rfl

end

section
variable {spec : Spec} {h : History} {e : Engine} {u : Update}
variable (numbers : ∀ b, spec.defaults.change = some b → b.Numbers)
include numbers

theorem RunOf.inRange (run : RunOf spec h e) :
    InRange (spec.defaults.change.map ChangeBounds.ordered) e.config := by
  apply run.invariant
  · intro e opened
    obtain ⟨c, made, inRange⟩ := inRange_ofDefaults? numbers
    rw [ofSpec?, made] at opened
    cases opened
    exact inRange
  · intro e now event s move inRange
    exact move.inRange inRange

/-- Since an update was taken over, the configuration is one that it was made to. -/
theorem RunOf.updated (run : RunOf spec h e) (last : LastUpdated u h) :
    ∃ c, InRange (spec.defaults.change.map ChangeBounds.ordered) c ∧
      e.config = c.update u := by
  apply run.since_induct _ _ last
  · intro h e now event run reconfigures
    obtain ⟨live, t, takes⟩ := reconfigures
    exact ⟨e.config, run.inRange numbers, takes.config live now⟩
  · intro h e now event run _ updated others
    obtain ⟨c, inRange, config⟩ := updated
    have kept : (e.step now event).1.config = e.config :=
      (step_move e now event).config_of_not fun t v live takes =>
        others v ⟨live, t, takes⟩
    exact ⟨c, inRange, kept.trans config⟩

/-- An update is made once. It changes a configuration exactly if one of the four values
becomes another, and made again it changes nothing. So once a live engine has taken an
update over, whatever its device, the gateway and the binding made of it, a further
reconciliation with the same update is over as soon as it has the lock: it calls nobody,
returns the state of the binding and leaves the binding as it is. -/
theorem repeated_reconciliation_is_silent :
    (∃ c₀, ofDefaults? spec.defaults = some c₀ ∧ ∀ (us : List Update) (u : Update),
      let c := us.foldl Config.update c₀
      (c.isChangedBy u = true ↔
        (c.update u).minInterval ≠ c.minInterval ∨
        (c.update u).maxInterval ≠ c.maxInterval ∨
          sameOption Binary64.same (c.update u).change c.change = false ∨
          (c.update u).pollingPeriod ≠ c.pollingPeriod) ∧
      (c.update u).isChangedBy u = false ∧ (c.update u).update u = c.update u) ∧
    ∀ h e u, RunOf spec h e → e.disposed = false → LastUpdated u h →
      ∀ now event t, Reconciles e t u event →
      let (e', effects) := e.step now event
      (Takes e event t (.reconcile u) → effects = [.finish t (.settled e.state)]) ∧
      (∀ effect ∈ effects, effect = .finish t (.settled e.state)) ∧
      e'.binding = e.binding ∧ e'.signal = e.signal ∧ e'.config = e.config := by
  have sorted := ChangeBounds.numbers_sorted numbers
  constructor
  · obtain ⟨c₀, made, inRange⟩ := inRange_ofDefaults? numbers
    refine ⟨c₀, made, fun us u => ?_⟩
    have reached := (inRange_updates inRange us).2
    have again := update_update reached u
    exact ⟨isChangedBy_iff (fun b here => sorted b (reached.bounds.symm.trans here)) u,
      isChangedBy_of_update_eq (inRange_update reached u) sorted again, again⟩
  · intro h e u run live last now event t reconciles
    obtain ⟨c, inRange, config⟩ := run.updated numbers last
    have same : e.config.update u = e.config := by rw [config, update_update inRange]
    have quiet : e.config.isChangedBy u = false :=
      isChangedBy_of_update_eq (run.inRange numbers) sorted same
    by_cases takes : Takes e event t (.reconcile u)
    · rw [takes.stored live (.inl quiet)]
      exact ⟨fun _ => rfl, by simp, rfl, rfl, same⟩
    · cases reconciles with
      | asked fresh =>
          have taken : e.lock.holder.isNone = false := by
            rw [Bool.eq_false_iff]
            exact fun idle => takes (.free fresh (Option.isNone_iff_eq_none.mp idle))
          simp [Engine.step, start, fresh, taken, wait, put, takes]
      | resumed queued =>
          have unheld : e.lock.holder ≠ some t := fun held => takes (.handed queued held)
          simp [Engine.step, proceed, queued, unheld, takes]

end

/-- A longest time of none is asked for of a sensor that reports. The least above the
shortest is sent, and there is no answer. -/
def noLongest : Update := { maxInterval := some 0 }

def hallUnanswered : List (Nat × Event) :=
  [(0, .start 0 (.exchange .activate)), (1, .reply 0 .ok), (2, .reply 0 .ok),
    (3, .start 1 (.exchange (.reconcile noLongest))), (10003, .expire 1)]

theorem unanswered_reconciliation_not_repeated :
    let (h, e) := play step hallEngine hallUnanswered
    (∀ b, hallSensor.defaults.change = some b → b.Numbers) ∧ RunOf hallSensor h e ∧
    e.disposed = false ∧
      LastUpdated noLongest h ∧
      Reconciles e 2 noLongest (.start 2 (.exchange (.reconcile noLongest))) ∧
      e.state = .polling ∧ e.config.maxInterval = 2 ∧
      (e.step 10004 (.start 2 (.exchange (.reconcile noLongest)))).2 =
        [.finish 2 (.settled .polling)] := by
  have numbers : ∀ b, hallSensor.defaults.change = some b → b.Numbers := nofun
  have run := RunOf.play_hall hallUnanswered
  have last : LastUpdated noLongest (play step hallEngine hallUnanswered).1 := by
    let reporting := play step hallEngine (hallUnanswered.take 3)
    let first := Event.start 1 (.exchange (.reconcile noLongest))
    refine ⟨reporting.1, .taken step reporting.2 3 first, [_], rfl, ?_, ?_⟩
    · exact ⟨rfl, 1, .free rfl rfl⟩
    · rintro m member v ⟨-, t, takes⟩
      cases List.mem_singleton.mp member
      cases takes
  have reconciles : Reconciles (play step hallEngine hallUnanswered).2 2 noLongest _ :=
    .asked rfl
  obtain ⟨-, silent⟩ := repeated_reconciliation_is_silent numbers
  obtain ⟨ended, -⟩ := silent _ _ _ run rfl last 10004 _ 2 reconciles
  exact ⟨numbers, run, rfl, last, reconciles, rfl, rfl, ended (.free rfl rfl)⟩

end Engine
end MeshReadings
