import MeshReadings.Bridge.Step
import MeshReadings.Table

/-!
What the building blocks of a bridge do to its callers. Beginning, settling or giving up a
call touches one caller, a response those that wait for its transaction, and closing all
that still wait for one. What is known of devices is left alone by all of them.
-/

namespace MeshReadings
namespace Bridge

theorem transactionText_inj {m n : Nat} : transactionText m = transactionText n ↔ m = n :=
  ⟨transactionText_injective, congrArg transactionText⟩

/-- The wait after an answer to a transaction. A caller that was answered before hears no
more. -/
def Wait.hear (n : Nat) (r : Reply) : Wait → Wait
  | .response m d none => if m = n then .response m d (some r) else .response m d none
  | w => w

/-- The wait after the bridge was closed with these transactions pending. -/
def Wait.shut (pending : List Nat) : Wait → Wait
  | .response n d none =>
    if pending.contains n then .response n d (some (.fault .gatewayClosed))
    else .response n d none
  | w => w

section
variable {w : Wait} {n m d : Nat} {r : Reply} {a : Option Reply} {key : Key}
  {pending : List Nat}

theorem Wait.hear_eq_response :
    w.hear m r = .response n d a ↔
      ∃ a', w = .response n d a' ∧ a = a'.or (if m = n then some r else none) := by
  cases w with
  | devices _ _ => simp [hear]
  | response n' d' a' =>
      cases a' with
      | none => grind [hear]
      | some _ => grind [hear]

theorem Wait.shut_eq_response :
    w.shut pending = .response n d a ↔
      ∃ a', w = .response n d a' ∧
        a = a'.or (if n ∈ pending then some (.fault .gatewayClosed) else none) := by
  cases w with
  | devices _ _ => simp [shut]
  | response n' d' a' =>
      cases a' with
      | none => grind [shut]
      | some _ => grind [shut]

theorem Wait.hear_of_ne (other : ∀ d, w ≠ .response n d none) : w.hear n r = w := by
  cases w with
  | devices _ _ => rfl
  | response m d a =>
      cases a with
      | none => grind [hear]
      | some _ => rfl

@[simp] theorem Wait.hear_eq_devices :
    w.hear m r = .devices key d ↔ w = .devices key d := by
  cases w with
  | devices _ _ => rfl
  | response n' d' a' => cases a' <;> grind [hear]

@[simp] theorem Wait.shut_eq_devices :
    w.shut pending = .devices key d ↔ w = .devices key d := by
  cases w with
  | devices _ _ => rfl
  | response n' d' a' => cases a' <;> grind [shut]

end

section
variable (b : Bridge) (t u : Ticket)

@[simp] theorem wait?_abandon :
    (b.abandon t).wait? u = if u = t then none else b.wait? u := by
  split
  · next same => simp [abandon, wait?, same]
  · next other =>
      simp only [abandon, wait?, find?_removed_of_ne other]

@[simp] theorem wait?_putWait (w : Wait) :
    (b.putWait t w).wait? u = if u = t then some w else b.wait? u := by
  split
  · next same =>
      have absent : (b.waits.filter (·.1 != t)).find? (·.1 == t) = none := by simp
      simp [putWait, wait?, same, List.find?_append, absent]
  · next other =>
      have rest := b.wait?_abandon t u
      rw [if_neg other] at rest
      rw [← rest]
      simp [putWait, abandon, wait?, List.find?_append, Ne.symm other]

@[simp] theorem wait?_settle :
    (b.settle t).wait? u = if u = t then none else b.wait? u := by
  simp only [settle]
  split
  · exact wait?_abandon ..
  · exact wait?_abandon ..

theorem wait?_map {b' : Bridge} {f : Ticket × Wait → Ticket × Wait} (g : Wait → Wait)
    (waits : b'.waits = b.waits.map f) (each : ∀ entry, f entry = (entry.1, g entry.2)) :
    b'.wait? t = (b.wait? t).map g := by
  have same : ((fun entry => entry.1 == t) ∘ f) = fun entry => entry.1 == t := by
    funext entry
    simp [each]
  simp only [wait?, waits, List.find?_map, same, Option.map_map]
  congr 1
  funext entry
  simp [each]

@[simp] theorem wait?_answer (n : Nat) (r : Reply) :
    (b.answer n r).wait? t = (b.wait? t).map (Wait.hear n r) := by
  apply wait?_map b t (Wait.hear n r) rfl
  intro entry
  obtain ⟨u, w⟩ := entry
  cases w with
  | devices _ _ => rfl
  | response m d a =>
      cases a with
      | none =>
          simp only [Wait.hear]
          split <;> rfl
      | some _ => rfl

theorem wait?_close (opened : b.isClosed = false) :
    b.close.wait? t = (b.wait? t).map (Wait.shut b.pending) := by
  simp only [close, opened, Bool.false_eq_true, if_false]
  apply wait?_map b t (Wait.shut b.pending) rfl
  intro entry
  obtain ⟨u, w⟩ := entry
  cases w with
  | devices _ _ => rfl
  | response m d a =>
      cases a with
      | none =>
          simp only [Wait.shut]
          split <;> rfl
      | some _ => rfl

@[simp] theorem settle_isClosed : (b.settle t).isClosed = b.isClosed := by
  simp only [settle]
  split <;> rfl

@[simp] theorem settle_transactions : (b.settle t).transactions = b.transactions := by
  simp only [settle]
  split <;> rfl

@[simp] theorem settle_settings : (b.settle t).settings = b.settings := by
  simp only [settle]
  split <;> rfl

theorem mem_pending_settle {n : Nat} :
    n ∈ (b.settle t).pending ↔
      n ∈ b.pending ∧ ∀ d a, b.wait? t ≠ some (.response n d a) := by
  simp only [settle]
  split
  · next m d a wait =>
      have same : (∀ d' a', b.wait? t ≠ some (.response n d' a')) ↔ n ≠ m := by
        rw [wait]
        grind
      simp [abandon, same]
  · next other => simp_all [abandon]

theorem close_of_open (opened : b.isClosed = false) :
    b.close.isClosed = true ∧ b.close.pending = [] ∧
    b.close.transactions = b.transactions ∧ b.close.settings = b.settings := by
  simp [close, opened]

@[simp] theorem sent_self : b.sent b = [] := by
  simp [sent]

theorem sent_of_send? {b' : Bridge} {r : Mqtt.Request}
    (accepted : b.client.send? r = some b'.client) : b.sent b' = [.send r] := by
  have queue := (Mqtt.Client.send?_eq_some_iff.mp accepted).2
  simp [sent, queue]

end

/-- What is known of devices stays as it is. -/
structure KnowsAlike (b b' : Bridge) : Prop where
  devices : b'.devices = b.devices
  isLoaded : b'.isLoaded = b.isLoaded

section
variable {b : Bridge} {now : Nat}

theorem KnowsAlike.refl (b : Bridge) : KnowsAlike b b := ⟨rfl, rfl⟩

theorem alike_request (t : Ticket) (operation : String) (fields : List (String × Json)) :
    KnowsAlike b (b.request now t operation fields).1 := by
  simp only [request]
  split
  · exact .refl b
  · split <;> exact ⟨rfl, rfl⟩

theorem alike_read (key : Key) : KnowsAlike b (b.read key).1 := by
  simp only [read]
  split
  · exact .refl b
  · split
    · exact .refl b
    · split
      · exact .refl b
      · split <;> exact ⟨rfl, rfl⟩

theorem alike_listen (key : Key) : KnowsAlike b (b.listen key).1 := by
  simp only [listen]
  split
  · exact .refl b
  · next name _ =>
      generalize (if (b.keysAt name).contains key then b.keysAt name
        else b.keysAt name ++ [key]) = keys
      split
      · split <;> exact ⟨rfl, rfl⟩
      · exact ⟨rfl, rfl⟩

theorem alike_unlisten (key : Key) : KnowsAlike b (b.unlisten key) := by
  simp only [unlisten]
  split
  · exact .refl b
  · split
    · exact .refl b
    · next keys _ =>
        generalize keys.filter (· != key) = keys
        split <;> exact ⟨rfl, rfl⟩

theorem alike_call (t : Ticket) (key : Key) (c : Call) :
    KnowsAlike b (b.call now t key c).1 := by
  simp only [call]
  split
  · exact .refl b
  · cases c with
    | resolve => exact ⟨rfl, rfl⟩
    | bind => exact alike_request t _ _
    | report min max change =>
        simp only [place]
        split
        · exact .refl b
        · exact alike_request t _ _
    | read => exact alike_read key
    | listen => exact alike_listen key
    | unlisten => exact alike_unlisten key

theorem alike_response (payload : String) : KnowsAlike b (b.handleResponse payload) := by
  simp only [handleResponse]
  split
  · exact .refl b
  · split
    · exact .refl b
    · split <;> exact ⟨rfl, rfl⟩

end
end Bridge
end MeshReadings
