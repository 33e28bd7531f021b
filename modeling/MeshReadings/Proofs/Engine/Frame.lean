import MeshReadings.Engine.Step

/-!
What the building blocks of a step leave alone. Finishing an operation, letting it wait
and handing out the lock touch only the lock and the stages; a transition touches only the
binding and its signal.
-/

namespace MeshReadings

theorem Binding.mark_state (b : Binding) (m : Mark) :
    (b.mark m).state = if b.state = .failed then .failed else m.state := by
  simp only [mark]
  split
  · assumption
  · rfl

theorem Binding.mark_period (b : Binding) (m : Mark) (sound : b.state ≠ .failed) :
    (b.mark m).period = m.period?.getD b.period := by
  simp [mark, sound]

theorem Binding.mark_of_failed {b : Binding} (failed : b.state = .failed) (m : Mark) :
    b.mark m = b :=
  if_pos failed

namespace Engine

def claim (e : Engine) (t : Ticket) : Engine :=
  { e with lock := { e.lock with holder := some t } }

def enqueue (e : Engine) (t : Ticket) : Engine :=
  { e with lock := { e.lock with queue := e.lock.queue ++ [t] } }

def configure (e : Engine) (u : Reporting.Update) : Engine :=
  { e with config := e.config.update u }

/-- The engine after a reading it could decode. -/
def noting (e : Engine) (now : Nat) (v : Value) : Engine :=
  { e with binding := e.binding.record v now }

/-- What such a reading makes the engine publish. -/
def news (e : Engine) (v : Value) : List Effect :=
  published (if e.binding.isNew v then some v else none)

section
variable (e : Engine) (t : Ticket) (o : Outcome) (s : Stage) (f : Binding → Binding)

@[simp] theorem claim_state : (e.claim t).state = e.state := rfl
@[simp] theorem claim_config : (e.claim t).config = e.config := rfl
@[simp] theorem claim_disposed : (e.claim t).disposed = e.disposed := rfl
@[simp] theorem claim_timeout : (e.claim t).timeout = e.timeout := rfl

theorem claim_of_held (held : e.lock.holder = some t) : e.claim t = e := by
  simp only [claim, ← held]

@[simp] theorem configure_state (u : Reporting.Update) :
    (e.configure u).state = e.state :=
  rfl

@[simp] theorem transition_state : (e.transition f).state = (f e.binding).state := rfl
@[simp] theorem transition_disposed : (e.transition f).disposed = e.disposed := rfl

@[simp] theorem finish_state : (e.finish t o).1.state = e.state := rfl
@[simp] theorem finish_disposed : (e.finish t o).1.disposed = e.disposed := rfl
@[simp] theorem finish_effects : (e.finish t o).2 = [.finish t o] := rfl

theorem finish_lock :
    (e.finish t o).1.lock = if e.lock.holder = some t then e.lock.release else e.lock :=
  rfl

@[simp] theorem stage?_finish (u : Ticket) :
    (e.finish t o).1.stage? u = if u = t then none else e.stage? u := by
  change (e.drop t).stage? u = _
  split
  · next same => rw [same, stage?_drop]
  · next other => exact stage?_drop_of_ne other

@[simp] theorem wait_state (fx : List Effect) : (e.wait t s fx).1.state = e.state := rfl
@[simp] theorem wait_effects (fx : List Effect) : (e.wait t s fx).2 = fx := rfl

@[simp] theorem stage?_wait (fx : List Effect) (u : Ticket) :
    (e.wait t s fx).1.stage? u = if u = t then some s else e.stage? u := by
  change (e.put t s).stage? u = _
  split
  · next same => rw [same, stage?_put]
  · next other => exact stage?_put_of_ne other s

@[simp] theorem rest_effects (now seen : Nat) : (e.rest now t seen).2 = [] := rfl

variable {e t o s}

theorem stage?_of_finish {u : Ticket} {p : Stage}
    (after : (e.finish t o).1.stage? u = some p) : e.stage? u = some p := by
  rw [stage?_finish] at after
  split at after
  · contradiction
  · exact after

theorem stage?_of_wait {fx : List Effect} {u : Ticket} {p : Stage}
    (after : (e.wait t s fx).1.stage? u = some p) :
    u = t ∧ p = s ∨ e.stage? u = some p := by
  rw [stage?_wait] at after
  split at after
  · next same => exact Or.inl ⟨same, (Option.some.inj after).symm⟩
  · exact Or.inr after

theorem stage?_of_afterRead {now : Nat} {poller : Option Nat} {u : Ticket} {p : Stage}
    (after : (e.afterRead now t poller).1.stage? u = some p) :
    (∃ since period seen, p = .waiting since period seen) ∨ e.stage? u = some p := by
  cases poller with
  | none => exact Or.inr (stage?_of_finish after)
  | some seen =>
      obtain ⟨-, rfl⟩ | before := stage?_of_wait after
      · exact Or.inl ⟨_, _, _, rfl⟩
      · exact Or.inr before

theorem stage?_afterRead_of_ne {u : Ticket} (other : u ≠ t) (now : Nat)
    (poller : Option Nat) : (e.afterRead now t poller).1.stage? u = e.stage? u := by
  cases poller with
  | none => rw [afterRead, stage?_finish, if_neg other]
  | some seen => rw [afterRead, rest, stage?_wait, if_neg other]

variable (e t o s) (now : Nat) (p : Option Nat)

@[simp] theorem afterRead_binding : (e.afterRead now t p).1.binding = e.binding := by
  cases p <;> rfl
@[simp] theorem afterRead_config : (e.afterRead now t p).1.config = e.config := by
  cases p <;> rfl
@[simp] theorem afterRead_signal : (e.afterRead now t p).1.signal = e.signal := by
  cases p <;> rfl
@[simp] theorem afterRead_polling : (e.afterRead now t p).1.polling = e.polling := by
  cases p <;> rfl
@[simp] theorem afterRead_disposed : (e.afterRead now t p).1.disposed = e.disposed := by
  cases p <;> rfl

variable {e t now p} {fx : Effect}

@[simp] theorem mem_news {v : Value} :
    fx ∈ e.news v ↔ fx = .publish v ∧ e.binding.isNew v = true := by
  rw [news]
  split
  · next new => simp [published, new]
  · next old => simp [published, old]

@[simp] theorem mem_afterRead :
    fx ∈ (e.afterRead now t p).2 ↔ fx = .finish t .done ∧ p = none := by
  cases p <;> simp [afterRead]

end
end Engine
end MeshReadings
