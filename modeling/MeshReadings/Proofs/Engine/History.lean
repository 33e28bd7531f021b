import MeshReadings.Proofs.Engine.Moves
import MeshReadings.Proofs.Run

/-!
The lives of an engine from its opening on, and what can be read off a history: which
request a ticket was started with, and whether the gateway kept to itself the one fault
that is the engine's own.
-/

namespace MeshReadings
namespace Engine

abbrev Moment := MeshReadings.Moment Engine Event Effect

abbrev History := List Moment

/-- A history of the engine of a spec, and the engine it leads to. -/
def RunOf (spec : Spec) (h : History) (e : Engine) : Prop :=
  ∃ e₀, ofSpec? spec = some e₀ ∧ Run step e₀ h e

theorem ofSpec?_eq_some {spec : Spec} {e : Engine} (opened : ofSpec? spec = some e) :
    e.operations = [] ∧ e.disposed = false ∧ e.state = .unbound ∧
    e.polling = spec.polling := by
  obtain ⟨c, -, rfl⟩ := Option.map_eq_some_iff.mp opened
  exact ⟨rfl, rfl, rfl, rfl⟩

namespace RunOf
variable {spec : Spec}

theorem start {e : Engine} (opened : ofSpec? spec = some e) : RunOf spec [] e :=
  ⟨e, opened, .nil⟩

theorem next {h : History} {e : Engine} (run : RunOf spec h e) (now : Nat)
    (event : Event) :
    RunOf spec (h ++ [.taken step e now event]) (e.step now event).1 := by
  obtain ⟨e₀, opened, run⟩ := run
  exact ⟨e₀, opened, run.snoc now event⟩

theorem play {e : Engine} (opened : ofSpec? spec = some e) (events : List (Nat × Event)) :
    RunOf spec (MeshReadings.play step e events).1 (MeshReadings.play step e events).2 :=
  ⟨e, opened, Run.nil.append_play events⟩

theorem induct {P : History → Engine → Prop} (start : ∀ e, ofSpec? spec = some e → P [] e)
    (next : ∀ h e now event, RunOf spec h e → P h e →
      P (h ++ [.taken step e now event]) (e.step now event).1)
    {h : History} {e : Engine} (run : RunOf spec h e) : P h e := by
  obtain ⟨e₀, opened, run⟩ := run
  induction run with
  | nil => exact start e₀ opened
  | snoc run now event ih => exact next _ _ now event ⟨e₀, opened, run⟩ ih

/-- What holds at the opening and is kept by every move holds after every run. -/
theorem invariant {P : Engine → Prop} (start : ∀ e, ofSpec? spec = some e → P e)
    (move : ∀ e now event s, Move e now event s → P e → P s.1)
    {h : History} {e : Engine} (run : RunOf spec h e) : P e :=
  run.induct start fun _ e now event _ inv =>
    move e now event _ (step_move e now event) inv

/-- What holds when something happens and is kept until something ends it, holds for all
the time in between. -/
theorem since_induct {P : History → Moment → Prop} {Q : Moment → Prop}
    {I : History → Engine → Prop}
    (begins : ∀ h e now event, RunOf spec h e → P h (.taken step e now event) →
      I (h ++ [.taken step e now event]) (e.step now event).1)
    (lasts : ∀ h e now event, RunOf spec h e → Since P Q h → I h e → Q
      (.taken step e now event) → I (h ++ [.taken step e now event]) (e.step now event).1)
    {h : History} {e : Engine} (run : RunOf spec h e) (since : Since P Q h) : I h e := by
  refine run.induct (P := fun h e => Since P Q h → I h e) ?_ ?_ since
  · intro _ _ since
    exact absurd since not_since_nil
  · intro h e now event run ih since
    obtain begun | ⟨earlier, still⟩ := (since_snoc ..).mp since
    · exact begins h e now event run begun
    · exact lasts h e now event run earlier (ih earlier) still

theorem reaches_before {h₁ h₂ : History} {m : Moment} {e : Engine}
    (run : RunOf spec (h₁ ++ m :: h₂) e) :
    RunOf spec h₁ m.before ∧ m = .taken step m.before m.now m.event := by
  obtain ⟨e₀, opened, run⟩ := run
  exact ⟨⟨e₀, opened, run.reaches_before.1⟩, run.reaches_before.2⟩

end RunOf

/-- An occupancy sensor, reporting by default after one second and at least every two
hours. -/
def hallSensor : Spec := Spec.ofKind "occupancy" "0x00158d0001a2b3c4" 1 .occupancy

def hallEngine : Engine := (ofSpec? hallSensor).get rfl

theorem RunOf.play_hall (events : List (Nat × Event)) :
    RunOf hallSensor (MeshReadings.play step hallEngine events).1
      (MeshReadings.play step hallEngine events).2 :=
  RunOf.play rfl events

/-- The request that an event starts a ticket with, if the ticket is free. -/
def begins? (e : Engine) (event : Event) (t : Ticket) : Option Request :=
  match event with
  | .start u r => if u = t ∧ e.stage? t = none then some r else none
  | _ => none

/-- The request that a ticket was last started with. -/
def requested? (t : Ticket) (h : History) : Option Request :=
  h.foldl (fun r m => (begins? m.before m.event t).or r) none

theorem requested?_snoc (t : Ticket) (h : History) (m : Moment) :
    requested? t (h ++ [m]) = (begins? m.before m.event t).or (requested? t h) := by
  simp [requested?]

/-- The gateway never answers that the engine was disposed. -/
def Honest (h : History) : Prop := ∀ m ∈ h, ∀ t, m.event ≠ .reply t (.fault .disposed)

theorem honest_snoc {h : History} {m : Moment} (honest : Honest (h ++ [m])) :
    Honest h ∧ ∀ t, m.event ≠ .reply t (.fault .disposed) :=
  ⟨fun m' member => honest m' (by simp [member]), honest m (by simp)⟩

end Engine
end MeshReadings
