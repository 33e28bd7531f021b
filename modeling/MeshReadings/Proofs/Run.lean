/-!
Runs of a system that moves in steps, with all they pass through. A history lists the
steps taken so far, the latest last, so what holds of every run is shown by induction on
its last step. `Since` says of a history that something happened and nothing of some kind
has happened after it.
-/

namespace MeshReadings

variable {S E F : Type}

/-- A step that was taken: when and by which event, where it led from and to, and with
which effects. -/
structure Moment (S E F : Type) where
  now : Nat
  event : E
  before : S
  after : S
  effects : List F

namespace Moment

def taken (step : S → Nat → E → S × List F) (s : S) (now : Nat) (event : E) :
    Moment S E F :=
  ⟨now, event, s, (step s now event).1, (step s now event).2⟩

end Moment

/-- The histories that lead from a state to another. Any event may come next at any
time. -/
inductive Run (step : S → Nat → E → S × List F) (start : S) :
    List (Moment S E F) → S → Prop
  | nil : Run step start [] start
  | snoc {h : List (Moment S E F)} {s : S} (run : Run step start h s) (now : Nat)
      (event : E) :
      Run step start (h ++ [.taken step s now event]) (step s now event).1

def play (step : S → Nat → E → S × List F) (s : S) :
    List (Nat × E) → List (Moment S E F) × S
  | [] => ([], s)
  | (now, event) :: rest =>
    let (h, last) := play step (step s now event).1 rest
    (.taken step s now event :: h, last)

/-- A moment of a history that ends with another is that one or comes before it. -/
theorem snoc_eq_split {α : Type} {h l l' : List α} {last m : α}
    (split : h ++ [last] = l ++ m :: l') :
    (h = l ∧ last = m ∧ l' = []) ∨ ∃ l'', l' = l'' ++ [last] ∧ h = l ++ m :: l'' := by
  rcases List.eq_nil_or_concat l' with rfl | ⟨l'', x, rfl⟩
  · obtain ⟨same, last⟩ := List.append_inj' split rfl
    exact Or.inl ⟨same, List.head_eq_of_cons_eq last, rfl⟩
  · rw [List.concat_eq_append, ← List.cons_append, ← List.append_assoc] at split
    obtain ⟨earlier, last⟩ := List.append_inj' split rfl
    exact Or.inr ⟨l'', by rw [List.concat_eq_append, last], earlier⟩

/-- At some moment `P` held of it and the history before it, and `Q` of every moment after
it. -/
def Since (P : List (Moment S E F) → Moment S E F → Prop) (Q : Moment S E F → Prop)
    (h : List (Moment S E F)) : Prop :=
  ∃ h₁ m h₂, h = h₁ ++ m :: h₂ ∧ P h₁ m ∧ ∀ m' ∈ h₂, Q m'

section
variable {P : List (Moment S E F) → Moment S E F → Prop} {Q : Moment S E F → Prop}

theorem not_since_nil : ¬ Since P Q [] := by
  intro since
  obtain ⟨h₁, m, h₂, split, -⟩ := since
  simp at split

theorem since_snoc (h : List (Moment S E F)) (m : Moment S E F) :
    Since P Q (h ++ [m]) ↔ P h m ∨ Since P Q h ∧ Q m := by
  constructor
  · intro since
    obtain ⟨h₁, p, h₂, split, holds, after⟩ := since
    obtain ⟨rfl, rfl, rfl⟩ | ⟨h₃, rfl, rfl⟩ := snoc_eq_split split
    · exact Or.inl holds
    · refine Or.inr ⟨⟨h₁, p, h₃, rfl, holds, ?_⟩, after m (by simp)⟩
      intro m' member
      exact after m' (by simp [member])
  · intro either
    obtain holds | ⟨⟨h₁, p, h₂, rfl, holds, after⟩, last⟩ := either
    · exact ⟨h, m, [], rfl, holds, by simp⟩
    · refine ⟨h₁, p, h₂ ++ [m], by simp, holds, ?_⟩
      intro m' member
      rcases List.mem_append.mp member with earlier | latest
      · exact after m' earlier
      · rwa [List.mem_singleton.mp latest]

end

namespace Run
variable {step : S → Nat → E → S × List F} {start : S}

theorem reaches_before {h₁ h₂ : List (Moment S E F)} {m : Moment S E F} {s : S}
    (run : Run step start (h₁ ++ m :: h₂) s) :
    Run step start h₁ m.before ∧ m = .taken step m.before m.now m.event := by
  generalize whole : h₁ ++ m :: h₂ = h at run
  induction run generalizing h₂ with
  | nil => simp at whole
  | snoc run now event ih =>
      obtain ⟨rfl, rfl, rfl⟩ | ⟨h₃, rfl, rfl⟩ := snoc_eq_split whole.symm
      · exact ⟨run, rfl⟩
      · exact ih rfl

theorem append_play {h : List (Moment S E F)} {s : S} (run : Run step start h s)
    (events : List (Nat × E)) :
    Run step start (h ++ (play step s events).1) (play step s events).2 := by
  induction events generalizing h s with
  | nil => simpa [play] using run
  | cons first rest ih => simpa [play] using ih (run.snoc first.1 first.2)

end Run
end MeshReadings
