import MeshReadings.Proofs.Bridge.Waits

/-!
Requests and their responses. Every response that a caller waits for goes back to the
registration of its own request, and what the caller has heard is what the first event
since then had to say about its transaction. So whatever order requests, messages, timers,
callers that give up and the closing come in, a request that returns returns the result of
its own first response, and a response reaches nobody else.
-/

namespace MeshReadings
namespace Bridge

/-- A readable response carries a transaction, with this result. -/
def Answers (n : Nat) (r : Reply) (m : Moment) : Prop :=
  m.before.response? m.event = some (transactionText n, r)

/-- What a history tells those who wait for a transaction all the while. -/
def heard? (n : Nat) (h : History) : Option Reply :=
  h.findSome? fun m => m.before.verdict? n m.event

/-- Timers go off in time: nothing happens later than the deadline of a caller that still
waits. -/
def Punctual (h : History) : Prop :=
  ∀ m ∈ h, ∀ entry ∈ m.before.waits, (m.before.deadline? entry.1).all (m.now ≤ ·) = true

/-- A wait for a response, its deadline and what was heard go back to a registration. -/
def Traced (s : Settings) (h : History) (b : Bridge) : Prop :=
  ∀ t n d a, b.wait? t = some (.response n d a) →
    ∃ h₀ m₀ since, h = h₀ ++ m₀ :: since ∧ Registers t n m₀ ∧
      d = m₀.now + 1000 * s.responseTimeout.toNat ∧ a = heard? n since ∧
      ∀ l m l', since = l ++ m :: l' →
        m.before.wait? t = some (.response n d (heard? n l))

theorem heard?_snoc (n : Nat) (h : History) (m : Moment) :
    heard? n (h ++ [m]) = (heard? n h).or (m.before.verdict? n m.event) := by
  simp only [heard?, List.findSome?_append, List.findSome?_cons, List.findSome?_nil]
  cases m.before.verdict? n m.event <;> rfl

section
variable {b : Bridge} {now n : Nat} {event : Event} {s : Step} {t : Ticket} {r : Reply}

/-- A caller that waits for the list of devices has called for a resolution. -/
theorem Move.devices_cases (move : Move b now event s) {key : Key} {d : Nat}
    (after : s.1.wait? t = some (.devices key d)) :
    b.begins? event t = some .resolve ∨
    b.begins? event t = none ∧ b.wait? t = some (.devices key d) := by
  have kept (before : b.wait? t = some (.devices key d)) :
      b.begins? event t = some .resolve ∨
      b.begins? event t = none ∧ b.wait? t = some (.devices key d) := by
    refine Or.inr ⟨?_, before⟩
    cases event <;> simp [begins?, before]
  cases move with
  | busy | refused | patient | closedAgain | client => exact kept after
  | served _ _ aside | noted _ _ aside => exact kept (aside.wait? t ▸ after)
  | registered =>
      rw [wait?_putWait] at after
      split at after
      · cases after
      · exact kept after
  | resolving fresh =>
      rw [wait?_putWait] at after
      split at after
      · next same => exact Or.inl (same ▸ begins?_call (same ▸ fresh) _ _)
      · exact kept after
  | answered =>
      rw [wait?_answer] at after
      obtain ⟨w, before, heard⟩ := Option.map_eq_some_iff.mp after
      exact kept (Wait.hear_eq_devices.mp heard ▸ before)
  | collected =>
      rw [wait?_settle] at after
      split at after
      · contradiction
      · exact kept after
  | abandoned =>
      rw [wait?_abandon] at after
      split at after
      · contradiction
      · exact kept after
  | closed opened =>
      rw [wait?_close b t opened] at after
      obtain ⟨w, before, heard⟩ := Option.map_eq_some_iff.mp after
      exact kept (Wait.shut_eq_devices.mp heard ▸ before)

/-- A reply is the refusal or the result of a call that is over at once, or is taken away
by a caller that waited for it. -/
theorem Move.replies (move : Move b now event s) (reply : .reply t r ∈ s.2) :
    (∃ c, b.begins? event t = some c ∧
      (c.negotiates = true →
        ∃ f, r = .fault f ∧ (f = .gatewayClosed → b.isClosed = true))) ∨
    event = .collect t ∧ b.reply? now t = some r := by
  cases move with
  | busy | registered | resolving | answered | noted | patient | abandoned | closed
  | closedAgain | client =>
      simp at reply
  | refused fresh _ why =>
      obtain ⟨rfl, rfl⟩ : t = _ ∧ r = _ := by simpa using reply
      exact Or.inl ⟨_, begins?_call fresh _ _, fun _ => ⟨_, rfl, why⟩⟩
  | served fresh other aside mute silent =>
      obtain ⟨rfl, rfl⟩ : t = _ ∧ r = _ := by simpa [silent] using reply
      exact Or.inl ⟨_, begins?_call fresh _ _, by simp [other]⟩
  | collected before =>
      obtain ⟨rfl, rfl⟩ : t = _ ∧ r = _ := by simpa using reply
      exact Or.inr ⟨rfl, before⟩

/-- A message that nobody waits for leaves all callers as they were. -/
theorem Move.spares {topic payload : String}
    (move : Move b now (.message topic payload) s)
    (unawaited : ∀ n r, b.response? (.message topic payload) =
      some (transactionText n, r) → ∀ t d, b.wait? t ≠ some (.response n d none))
    (t : Ticket) : s.1.wait? t = b.wait? t := by
  cases move with
  | noted _ _ aside => exact aside.wait? t
  | answered response _ =>
      rw [wait?_answer]
      cases before : b.wait? t with
      | none => rfl
      | some w =>
          exact congrArg some (Wait.hear_of_ne fun d same =>
            unawaited _ _ response t d (same ▸ before))

end

section
variable {s : Settings} {h : History} {b : Bridge} {t : Ticket} {n d : Nat} {r : Reply}

theorem RunOf.traced (run : RunOf s h b) : Traced s h b := by
  refine run.induct (P := fun h b => Traced s h b)
    (by simp [Traced, ofSettings, wait?]) ?_
  intro h b now event run ih t n d a after
  -- The last step registers the request, or tells at most its verdict to a wait that was
  -- there before.
  obtain ⟨registers, rfl, rfl, -⟩ | ⟨a', before, rfl⟩ :=
    (step_move b now event).wait_cases run.orderly after
  · exact ⟨h, _, [], rfl, registers, by rw [run.timeout]; rfl, rfl, by simp⟩
  · obtain ⟨h₀, m₀, since, rfl, registers, due, rfl, followed⟩ := ih t n d a' before
    refine ⟨h₀, m₀, since ++ [.taken step b now event], by simp, registers, due,
      by rw [heard?_snoc]; rfl, ?_⟩
    intro l m l' split
    obtain ⟨rfl, rfl, rfl⟩ | ⟨l'', rfl, rfl⟩ := snoc_eq_split split
    · exact before
    · exact followed l m l'' rfl

/-- A caller that waits for the list of devices called for a resolution. -/
theorem RunOf.resolving (run : RunOf s h b) {key : Key}
    (wait : b.wait? t = some (.devices key d)) : called? t h = some .resolve := by
  refine run.induct (P := fun h b => ∀ t key d, b.wait? t = some (.devices key d) →
    called? t h = some .resolve) (by simp [ofSettings, wait?]) ?_ t key d wait
  intro h b now event run ih t key d after
  rw [called?_snoc]
  obtain resolves | ⟨other, before⟩ := (step_move b now event).devices_cases after
  · exact congrArg (·.or (called? t h)) resolves
  · exact (congrArg (·.or (called? t h)) other).trans (ih t key d before)

/-- The first verdict on a transaction, with what came before it. -/
theorem heard?_eq_some (heard : heard? n h = some r) :
    ∃ l m l', h = l ++ m :: l' ∧ m.before.verdict? n m.event = some r ∧
      heard? n l = none := by
  obtain ⟨l, m, l', split, told, untold⟩ := List.findSome?_eq_some_iff.mp heard
  exact ⟨l, m, l', split, told, List.findSome?_eq_none_iff.mpr untold⟩

theorem Traced.closed (traced : Traced s h b) {f : Fault}
    (wait : b.wait? t = some (.response n d (some (.fault f)))) :
    ∃ m ∈ h, m.event = .close := by
  obtain ⟨h₀, m₀, since, rfl, -, -, heard, -⟩ := traced t n d _ wait
  obtain ⟨l, m₁, l', rfl, told, -⟩ := heard?_eq_some heard.symm
  obtain ⟨close, -⟩ | ⟨-, result⟩ := verdict?_eq_some told
  · exact ⟨m₁, by simp, close⟩
  · exact absurd rfl (result f)

def hallKey : Key := ⟨"0x00158d0001a2b3c4", 1, .occupancySensing, 0⟩

/-- The hall sensor is asked to bind and to report at a time. A message that cannot be
read comes, and then the responses in the other order, the last of them when its time is
up. -/
def crossed : List (Nat × Event) :=
  [(0, .call 0 hallKey .bind), (0, .call 1 hallKey (.report 1 3600 none)),
    (1, .message "zigbee2mqtt/bridge/response/device/bind" "?"),
    (2, .message "zigbee2mqtt/bridge/response/device/configure_reporting"
      "\x7b\"status\":\"ok\",\"transaction\":\"request-2\"\x7d"),
    (3, .collect 1),
    (10000, .message "zigbee2mqtt/bridge/response/device/bind"
      "\x7b\"status\":\"busy\",\"transaction\":\"request-1\"\x7d")]

end
end Bridge
end MeshReadings
