import MeshReadings.Reading.Value

/-!
The relation negotiated with one device attribute, and the reading last published for it.
A failed binding ignores every mark until it is reset. Times are counted in milliseconds,
periods in seconds.
-/

namespace MeshReadings

inductive BindingState
  | unbound
  | bound
  | reporting
  | polling
  | failed
deriving DecidableEq, Inhabited

def BindingState.name : BindingState → String
  | unbound => "unbound"
  | bound => "bound"
  | reporting => "reporting"
  | polling => "polling"
  | failed => "failed"

structure Binding where
  state : BindingState
  /-- Time between polls; while the device reports, the time after which silence is
  stale. -/
  period : Nat
  lastValue : Option Value
  lastUpdate : Option Nat
deriving DecidableEq

namespace Binding

def create (period : Nat) : Binding := ⟨.unbound, period, none, none⟩

inductive Mark
  | bound
  | reporting (period : Nat)
  | polling (period : Nat)
  | failed
deriving DecidableEq

def Mark.state : Mark → BindingState
  | bound => .bound
  | reporting _ => .reporting
  | polling _ => .polling
  | failed => .failed

def Mark.period? : Mark → Option Nat
  | reporting p | polling p => some p
  | _ => none

def accepts (b : Binding) : Bool := b.state ≠ .failed

def mark (b : Binding) (m : Mark) : Binding :=
  if b.state = .failed then b
  else { b with state := m.state, period := m.period?.getD b.period }

/-- Back to unbound, keeping the last reading. -/
def reset (b : Binding) : Binding := { b with state := .unbound }

/-- Back to unbound, forgetting the last reading. -/
def release (b : Binding) : Binding :=
  { b with state := .unbound, lastValue := none, lastUpdate := none }

def isNew (b : Binding) (v : Value) : Bool :=
  match b.lastValue with
  | none => true
  | some last => !last.same v

/-- Takes note of a reading. One that is not new only counts as a sign of life. -/
def record (b : Binding) (v : Value) (now : Nat) : Binding :=
  { b with
    lastUpdate := some now, lastValue := if b.isNew v then some v else b.lastValue }

def isStale (b : Binding) (now : Nat) : Bool :=
  match b.lastUpdate with
  | none => true
  | some last => 1000 * b.period < now - last

end Binding
end MeshReadings
