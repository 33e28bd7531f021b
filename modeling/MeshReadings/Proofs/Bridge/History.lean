import MeshReadings.Proofs.Bridge.Moves
import MeshReadings.Proofs.Run

/-!
The lives of a bridge, and what can be read off a history: what a caller last called for,
when a request was registered, and what an event tells those who wait for a transaction.
-/

namespace MeshReadings
namespace Bridge

abbrev Moment := MeshReadings.Moment Bridge Event Effect

abbrev History := List Moment

/-- A history of a bridge with some settings, and the bridge it leads to. -/
def RunOf (s : Settings) (h : History) (b : Bridge) : Prop := Run step (ofSettings s) h b

namespace RunOf
variable {s : Settings}

theorem play (s : Settings) (events : List (Nat × Event)) :
    RunOf s (MeshReadings.play step (ofSettings s) events).1
      (MeshReadings.play step (ofSettings s) events).2 :=
  Run.nil.append_play events

theorem induct {P : History → Bridge → Prop} (start : P [] (ofSettings s))
    (next : ∀ h b now event, RunOf s h b → P h b →
      P (h ++ [.taken step b now event]) (b.step now event).1)
    {h : History} {b : Bridge} (run : RunOf s h b) : P h b := by
  induction run with
  | nil => exact start
  | snoc run now event ih => exact next _ _ now event run ih

/-- What holds of a new bridge and is kept by every move holds after every run. -/
theorem invariant {P : Bridge → Prop} (start : P (ofSettings s))
    (move : ∀ b now event s, Move b now event s → P b → P s.1)
    {h : History} {b : Bridge} (run : RunOf s h b) : P b :=
  run.induct start fun _ b now event _ inv =>
    move b now event _ (step_move b now event) inv

theorem reaches_before {h₁ h₂ : History} {m : Moment} {b : Bridge}
    (run : RunOf s (h₁ ++ m :: h₂) b) :
    RunOf s h₁ m.before ∧ m = .taken step m.before m.now m.event :=
  Run.reaches_before run

end RunOf

/-- What a caller that does not wait calls for. -/
def begins? (b : Bridge) (event : Event) (t : Ticket) : Option Call :=
  match event with
  | .call u _ c => if u = t ∧ b.wait? t = none then some c else none
  | _ => none

theorem begins?_call {b : Bridge} {t : Ticket} (fresh : b.wait? t = none) (key : Key)
    (c : Call) : b.begins? (.call t key c) t = some c := by
  simp [begins?, fresh]

/-- What a caller last called for. -/
def called? (t : Ticket) (h : History) : Option Call :=
  h.foldl (fun c m => (m.before.begins? m.event t).or c) none

theorem called?_snoc (t : Ticket) (h : History) (m : Moment) :
    called? t (h ++ [m]) = (m.before.begins? m.event t).or (called? t h) := by
  simp [called?]

/-- A caller's request goes out with a transaction, and the caller waits for the
response. -/
def Registers (t : Ticket) (n : Nat) (m : Moment) : Prop :=
  ∃ key c operation fields, m.event = .call t key c ∧ m.before.wait? t = none ∧
    m.before.requestFor? key c = some (operation, fields) ∧
    m.effects = [.send (m.before.requestMessage operation fields n)] ∧
    m.after.wait? t = some (.response n (m.now + m.before.timeout) none)

/-- What an event tells those who wait for a transaction. -/
def verdict? (b : Bridge) (n : Nat) (event : Event) : Option Reply :=
  match event with
  | .close => some (.fault .gatewayClosed)
  | event =>
      (b.response? event).bind fun said => if said.1 = transactionText n then
        some said.2 else none

section
variable {b : Bridge} {n : Nat} {event : Event} {r : Reply}

/-- A response reports success or the device's refusal, never a fault. -/
theorem not_fault_of_response {text : String}
    (response : b.response? event = some (text, r)) (f : Fault) : r ≠ .fault f := by
  simp only [response?] at response
  split at response
  · split at response
    · obtain ⟨said, -, named⟩ := Option.bind_eq_some_iff.mp response
      obtain ⟨_, -, same⟩ := Option.map_eq_some_iff.mp named
      cases same
      simp only [Response.reply]
      split <;> simp
    · contradiction
  · contradiction

theorem verdict?_of_response {m : Nat}
    (response : b.response? event = some (transactionText m, r)) :
    b.verdict? n event = if m = n then some r else none := by
  cases event with
  | message _ _ => simp [verdict?, response, transactionText_inj]
  | _ => simp [response?] at response

theorem verdict?_eq_some (told : b.verdict? n event = some r) :
    event = .close ∧ r = .fault .gatewayClosed ∨
      b.response? event = some (transactionText n, r) ∧ ∀ f, r ≠ .fault f := by
  cases event with
  | close =>
      cases told
      exact Or.inl ⟨rfl, rfl⟩
  | message topic payload =>
      obtain ⟨said, response, same⟩ := Option.bind_eq_some_iff.mp told
      obtain ⟨named, rfl⟩ : said.1 = transactionText n ∧ said.2 = r := by simpa using same
      exact Or.inr ⟨named ▸ response, not_fault_of_response response⟩
  | _ => simp [verdict?, response?] at told

end
end Bridge
end MeshReadings
