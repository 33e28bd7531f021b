import MeshReadings.Proofs.Engine.Disposal

/-!
Calls that wait for their answers, read off a history: an operation made a call and has
not moved since. The stage of an operation tells what it waits for, and none waits for an
answer without having made the call.
-/

namespace MeshReadings
namespace Engine

/-- The calls whose answer an operation may wait for at a stage. -/
def Stage.Awaits : Stage → Call → Prop
  | .binding .., c => c = .bind
  | .configuring _ _ max _, c => ∃ min change, c = .report min max change
  | .resolving, c => c = .resolve
  | .reading .., c => c = .read
  | .unlistening, c => c = .unlisten
  | _, _ => False

def Unmoved (t : Ticket) (m : Moment) : Prop := m.after.stage? t = m.before.stage? t

/-- An operation made a call and has waited for the answer since. -/
def Outstanding (t : Ticket) (c : Call) (h : History) : Prop :=
  Since (fun _ m => .call t c ∈ m.effects) (Unmoved t) h

theorem outstanding_snoc (t : Ticket) (c : Call) (h : History) (m : Moment) :
    Outstanding t c (h ++ [m]) ↔
      .call t c ∈ m.effects ∨ Outstanding t c h ∧ Unmoved t m :=
  since_snoc h m

section
variable {e : Engine} {now : Nat} {event : Event} {s : Step} {t : Ticket} {c : Call}
  {p : Stage}

theorem Takes.not_awaits {x : Exchange} (takes : Takes e event t x)
    (stage : e.stage? t = some p) : ¬ p.Awaits c := by
  cases takes with
  | free fresh _ => cases fresh.symm.trans stage
  | handed queued _ =>
      cases queued.symm.trans stage
      exact id

theorem Reads.not_awaits {q : Option Nat} (reads : Reads e now event t q)
    (stage : e.stage? t = some p) : ¬ p.Awaits c := by
  cases reads with
  | asked fresh => cases fresh.symm.trans stage
  | due waiting _ _ =>
      cases waiting.symm.trans stage
      exact id

/-- Who makes a call goes on to wait for the answer to it. -/
theorem Move.awaits_of_call (move : Move e now event s) (call : .call t c ∈ s.2) :
    ∃ p, s.1.stage? t = some p ∧ p.Awaits c ∧ e.stage? t ≠ some p := by
  have called {u : Ticket} {c' : Call} (member : Effect.call t c ∈ [Effect.call u c']) :
      t = u ∧ c = c' := by
    simpa using member
  have begun {p : Stage} (stage : s.1.stage? t = some p) (awaits : p.Awaits c)
      (other : e.stage? t = some p → ¬ p.Awaits c) :
      ∃ p, s.1.stage? t = some p ∧ p.Awaits c ∧ e.stage? t ≠ some p :=
    ⟨p, stage, awaits, fun before => other before awaits⟩
  cases move with
  | bindSent takes | resolveSent takes =>
      obtain ⟨rfl, rfl⟩ := called call
      exact begun (stage?_put ..) rfl takes.not_awaits
  | reportSent takes =>
      obtain ⟨rfl, rfl⟩ := called call
      exact begun (stage?_put ..) ⟨_, _, rfl⟩ takes.not_awaits
  | bound stage =>
      obtain ⟨rfl, rfl⟩ := called call
      exact begun (stage?_put ..) ⟨_, _, rfl⟩ fun before =>
        by cases stage.symm.trans before
  | readSent reads =>
      obtain ⟨rfl, rfl⟩ := called call
      exact begun (stage?_put ..) rfl reads.not_awaits
  | disposed fresh =>
      obtain ⟨rfl, rfl⟩ : t = _ ∧ c = .unlisten := by simpa using call
      exact begun (stage?_put ..) rfl fun before => by cases fresh.symm.trans before
  | idle | enqueued | turnedAway | stayedFailed | stored | settled | dropped
  | resolveFailed | reopenedLate | reopened | disposedAgain | unlistened | pollStarted
  | rested | pollerStopped | readSkipped | readNoted | readFailed | readOver | noted =>
      simp at call

/-- Who waits for an answer has made the call right now, or waited for it before. -/
theorem Move.call_of_awaits (move : Move e now event s) (after : s.1.stage? t = some p)
    (awaits : p.Awaits c) :
    (∃ c', .call t c' ∈ s.2 ∧ p.Awaits c') ∨ e.stage? t = some p := by
  cases move with
  | idle | noted => exact Or.inr after
  | turnedAway | stayedFailed | stored | settled | dropped | resolveFailed | reopenedLate
  | reopened | disposedAgain | unlistened | pollerStopped =>
      have before := stage?_of_finish after
      exact Or.inr before
  | enqueued | pollStarted | rested =>
      obtain ⟨-, rfl⟩ | before := stage?_of_wait after
      · cases awaits
      · exact Or.inr before
  | bindSent | resolveSent | readSent =>
      obtain ⟨rfl, rfl⟩ | before := stage?_of_wait after
      · exact Or.inl ⟨_, List.mem_singleton_self _, rfl⟩
      · exact Or.inr before
  | reportSent | bound =>
      obtain ⟨rfl, rfl⟩ | before := stage?_of_wait after
      · exact Or.inl ⟨_, List.mem_singleton_self _, _, _, rfl⟩
      · exact Or.inr before
  | disposed =>
      obtain ⟨rfl, rfl⟩ | before := stage?_of_wait after
      · exact Or.inl ⟨_, by simp, rfl⟩
      · exact Or.inr before
  | readSkipped | readNoted | readFailed | readOver =>
      obtain ⟨_, _, _, rfl⟩ | before := stage?_of_afterRead after
      · cases awaits
      · exact Or.inr before

end

section
variable {spec : Spec} {h : History} {e : Engine} {t : Ticket} {c : Call} {p : Stage}

theorem RunOf.awaits_of_outstanding (run : RunOf spec h e)
    (outstanding : Outstanding t c h) : ∃ p, e.stage? t = some p ∧ p.Awaits c := by
  refine run.since_induct (I := fun _ e => ∃ p, e.stage? t = some p ∧ p.Awaits c)
    ?_ ?_ outstanding
  · intro h e now event _ call
    obtain ⟨p, stage, awaits, -⟩ := (step_move e now event).awaits_of_call call
    exact ⟨p, stage, awaits⟩
  · intro h e now event _ _ waiting unmoved
    obtain ⟨p, stage, awaits⟩ := waiting
    exact ⟨p, unmoved.trans stage, awaits⟩

theorem RunOf.outstanding_of_awaits (run : RunOf spec h e) (stage : e.stage? t = some p)
    (awaits : p.Awaits c) : ∃ c', Outstanding t c' h ∧ p.Awaits c' := by
  refine run.induct (P := fun h e => e.stage? t = some p →
    ∃ c', Outstanding t c' h ∧ p.Awaits c') ?_ ?_ stage
  · intro e opened stage
    simp [stage?, (ofSpec?_eq_some opened).1] at stage
  · intro h e now event _ ih stage
    obtain ⟨c', call, awaits'⟩ | before :=
      (step_move e now event).call_of_awaits stage awaits
    · exact ⟨c', (outstanding_snoc ..).mpr (.inl call), awaits'⟩
    · obtain ⟨c', earlier, awaits'⟩ := ih before
      exact ⟨c', (outstanding_snoc ..).mpr (.inr ⟨earlier, stage.trans before.symm⟩),
        awaits'⟩

end
end Engine
end MeshReadings
