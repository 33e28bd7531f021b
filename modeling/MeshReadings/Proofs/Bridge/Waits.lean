import MeshReadings.Proofs.Bridge.History

/-!
The table of pending transactions and the callers that wait. A transaction has one caller,
and while that caller waits it is pending exactly as long as nothing was heard of it.
Whatever a caller hears it hears from the events since its request was registered.
-/

namespace MeshReadings
namespace Bridge

structure Orderly (b : Bridge) : Prop where
  issued : ∀ n ∈ b.pending, n ≤ b.transactions
  asked : ∀ t n d a, b.wait? t = some (.response n d a) → n ≤ b.transactions
  apart : ∀ t u n d d' a a', b.wait? t = some (.response n d a) →
      b.wait? u = some (.response n d' a') → t = u
  pending : ∀ t n d a, b.wait? t = some (.response n d a) → (n ∈ b.pending ↔ a = none)
  closed : b.isClosed = true → b.pending = []

/-- The caller of a transaction takes its reply away. -/
def Collects (n : Nat) (m : Moment) : Prop :=
  ∃ t d a r, m.event = .collect t ∧ m.before.wait? t = some (.response n d a) ∧
    m.before.reply? m.now t = some r

section
variable {b b' : Bridge} {now n : Nat} {event : Event} {s : Step} {t : Ticket}

theorem Aside.wait? (aside : Aside b b') (t : Ticket) : b'.wait? t = b.wait? t := by
  simp only [Bridge.wait?, aside.waits]

/-- While the caller of a transaction has heard nothing, an event that leaves the wait
alone has nothing to tell. -/
theorem verdict?_eq_none
    (unheeded : ∀ r, b.response? event = some (transactionText n, r) → n ∉ b.pending)
    (other : event ≠ .close) (pending : n ∈ b.pending) : b.verdict? n event = none := by
  cases told : b.verdict? n event with
  | none => rfl
  | some r =>
      obtain ⟨close, -⟩ | ⟨response, -⟩ := verdict?_eq_some told
      · exact absurd close other
      · exact absurd pending (unheeded r response)

/-- A wait for a response was there before, and may have heard the verdict of the event,
or is of a request registered right now. -/
theorem Move.wait_cases (move : Move b now event s) (orderly : Orderly b) {d : Nat}
    {a : Option Reply} (after : s.1.wait? t = some (.response n d a)) :
    (Registers t n ⟨now, event, b, s.1, s.2⟩ ∧ a = none ∧ d = now + b.timeout ∧
      b.transactions < n ∧ n = s.1.transactions) ∨
      ∃ a', b.wait? t = some (.response n d a') ∧ a = a'.or (b.verdict? n event) := by
  have kept (same : b.wait? t = some (.response n d a))
      (quiet : a = none → b.verdict? n event = none) :
      ∃ a', b.wait? t = some (.response n d a') ∧ a = a'.or (b.verdict? n event) := by
    refine ⟨a, same, ?_⟩
    cases a with
    | none => rw [quiet rfl, Option.or_none]
    | some _ => rfl
  -- Only responses and the closing tell a caller anything; all other moves keep its wait
  -- or end it.
  cases move with
  | busy | refused | patient | client => exact Or.inr (kept after fun _ => rfl)
  | registered fresh request opened accepted =>
      rw [wait?_putWait] at after
      split at after
      · next same =>
          cases after
          refine Or.inl ⟨⟨_, _, _, _, same ▸ rfl, same ▸ fresh, request, rfl, ?_⟩, rfl,
            rfl, by simp, rfl⟩
          simp [same]
      · exact Or.inr (kept after fun _ => rfl)
  | resolving =>
      rw [wait?_putWait] at after
      split at after
      · cases after
      · exact Or.inr (kept after fun _ => rfl)
  | served fresh other aside => exact Or.inr (kept (aside.wait? t ▸ after) fun _ => rfl)
  | answered response _ =>
      rw [wait?_answer] at after
      obtain ⟨w, before, heard⟩ := Option.map_eq_some_iff.mp after
      obtain ⟨a', rfl, told⟩ := Wait.hear_eq_response.mp heard
      exact Or.inr ⟨a', before, by rw [told, verdict?_of_response response]⟩
  | noted _ unheeded aside =>
      refine Or.inr (kept (aside.wait? t ▸ after) fun unanswered => ?_)
      have pending := (orderly.pending t n d a (aside.wait? t ▸ after)).mpr unanswered
      exact verdict?_eq_none (unheeded n) (by simp) pending
  | collected =>
      rw [wait?_settle] at after
      split at after
      · contradiction
      · exact Or.inr (kept after fun _ => rfl)
  | abandoned =>
      rw [wait?_abandon] at after
      split at after
      · contradiction
      · exact Or.inr (kept after fun _ => rfl)
  | closed opened =>
      rw [wait?_close b t opened] at after
      obtain ⟨w, before, heard⟩ := Option.map_eq_some_iff.mp after
      obtain ⟨a', rfl, told⟩ := Wait.shut_eq_response.mp heard
      refine Or.inr ⟨a', before, told.trans ?_⟩
      -- The closing reaches a caller through the table, which has its transaction while
      -- it was told nothing.
      cases a' with
      | some _ => rfl
      | none => rw [if_pos ((orderly.pending t n d none before).mpr rfl), verdict?]
  | closedAgain closed =>
      refine Or.inr (kept after fun unanswered => ?_)
      have pending := (orderly.pending t n d a after).mpr unanswered
      simp [orderly.closed closed] at pending

/-- A registered transaction is new. -/
theorem Move.fresh_of_registers (move : Move b now event s) (orderly : Orderly b)
    (registers : Registers t n ⟨now, event, b, s.1, s.2⟩) :
    b.transactions < n ∧ n = s.1.transactions := by
  obtain ⟨_, _, _, _, -, fresh, -, -, after⟩ := registers
  obtain ⟨-, -, -, larger, last⟩ | ⟨_, before, -⟩ := move.wait_cases orderly after
  · exact ⟨larger, last⟩
  · cases fresh.symm.trans before

theorem Move.not_registers (move : Move b now event s) (orderly : Orderly b)
    (steady : s.1.transactions = b.transactions) :
    ¬ ∃ t, Registers t n ⟨now, event, b, s.1, s.2⟩ := by
  intro registers
  obtain ⟨t, registers⟩ := registers
  have fresh := move.fresh_of_registers orderly registers
  omega

theorem not_collects {m : Moment} (other : ∀ t, m.event ≠ .collect t) :
    ¬ Collects n m := by
  intro collects
  obtain ⟨t, _, _, _, same, -⟩ := collects
  exact other t same

/-- A transaction becomes pending when it is registered, and stays so until it is answered
or its caller takes the reply away. -/
theorem Move.mem_pending (move : Move b now event s) (orderly : Orderly b) :
    n ∈ s.1.pending ↔ (∃ t, Registers t n ⟨now, event, b, s.1, s.2⟩) ∨
      n ∈ b.pending ∧ b.verdict? n event = none ∧
      ¬ Collects n ⟨now, event, b, s.1, s.2⟩ := by
  have new (t : Ticket) := move.fresh_of_registers (t := t) (n := n) orderly
  have idle := move.not_registers (n := n) orderly
  have kept (steady : s.1.transactions = b.transactions) (same : s.1.pending = b.pending)
      (quiet : n ∈ b.pending → b.verdict? n event = none)
      (left : ¬ Collects n ⟨now, event, b, s.1, s.2⟩) :
      n ∈ s.1.pending ↔ (∃ t, Registers t n ⟨now, event, b, s.1, s.2⟩) ∨
        n ∈ b.pending ∧ b.verdict? n event = none ∧
        ¬ Collects n ⟨now, event, b, s.1, s.2⟩ := by
    rw [same]
    exact ⟨fun pending => Or.inr ⟨pending, quiet pending, left⟩,
      fun either => (either.resolve_left (idle steady)).1⟩
  cases move with
  | busy | refused | resolving | abandoned | client =>
      exact kept rfl rfl (fun _ => rfl) (not_collects (by simp))
  | served fresh other aside =>
      exact kept aside.transactions aside.pending (fun _ => rfl) (not_collects (by simp))
  | noted _ unheeded aside =>
      exact kept aside.transactions aside.pending
        (verdict?_eq_none (unheeded n) (by simp)) (not_collects (by simp))
  | closedAgain closed =>
      exact kept rfl rfl (by simp [orderly.closed closed]) (not_collects (by simp))
  | @registered u key c operation fields client fresh request opened accepted =>
      change n ∈ (b.transactions + 1) :: b.pending ↔ _
      rw [List.mem_cons]
      refine or_congr ?_ ⟨fun pending => ⟨pending, rfl, not_collects (by simp)⟩, And.left⟩
      constructor
      · rintro rfl
        exact ⟨u, _, _, _, _, rfl, fresh, request, rfl, by simp⟩
      · intro registers
        obtain ⟨t, registers⟩ := registers
        exact (new t registers).2
  | @answered _ _ m r response pending =>
      change n ∈ b.pending.filter (· != m) ↔ _
      rw [List.mem_filter, verdict?_of_response response, or_iff_right (idle rfl)]
      refine and_congr_right fun _ =>
        ⟨fun other => ⟨?_, not_collects (by simp)⟩, fun untold => ?_⟩
      · grind
      · grind
  | patient waits =>
      refine kept rfl rfl (fun _ => rfl) fun collects => ?_
      obtain ⟨_, _, _, _, same, -, reply⟩ := collects
      cases same
      cases waits.symm.trans reply
  | @collected u r reply =>
      change n ∈ (b.settle u).pending ↔ _
      rw [mem_pending_settle, or_iff_right (idle (settle_transactions ..))]
      refine and_congr_right fun _ => ⟨fun other => ⟨rfl, ?_⟩, fun kept d a wait => ?_⟩
      · intro collects
        obtain ⟨_, d, a, _, same, wait, -⟩ := collects
        cases same
        exact other d a wait
      · exact kept.2 ⟨u, d, a, r, rfl, wait, reply⟩
  | closed opened =>
      have shut := b.close_of_open opened
      rw [or_iff_right (idle shut.2.2.1)]
      simp [shut.2.1, verdict?]

theorem Move.settings (move : Move b now event s) : s.1.settings = b.settings := by
  cases move with
  | busy | refused | registered | resolving | answered | patient | abandoned | closedAgain
  | client =>
      rfl
  | served _ _ aside | noted _ _ aside => exact aside.settings
  | collected => exact settle_settings ..
  | closed opened => exact (b.close_of_open opened).2.2.2

theorem Move.isClosed (move : Move b now event s) :
    s.1.isClosed = true ↔ b.isClosed = true ∨ event = .close := by
  cases move with
  | busy | refused | registered | resolving | answered | patient | abandoned | closedAgain
  | client =>
      simp_all [putWait, answer, abandon]
  | served _ _ aside | noted _ _ aside => simp [aside.isClosed]
  | collected => simp
  | closed opened => simp [(b.close_of_open opened).1]

theorem Move.transactions_le (move : Move b now event s) :
    b.transactions ≤ s.1.transactions := by
  cases move with
  | busy | refused | resolving | answered | patient | abandoned | closedAgain | client =>
      exact Nat.le_refl _
  | registered => exact Nat.le_succ _
  | served _ _ aside | noted _ _ aside => exact Nat.le_of_eq aside.transactions.symm
  | collected => exact Nat.le_of_eq (settle_transactions ..).symm
  | closed opened => exact Nat.le_of_eq (b.close_of_open opened).2.2.1.symm

/-- A closed bridge publishes nothing, and nothing becomes pending. -/
theorem Move.while_closed (move : Move b now event s) (closed : b.isClosed = true)
    (none : b.pending = []) : s.1.pending = [] ∧ Mute s.2 := by
  cases move with
  | busy | patient | abandoned | closedAgain | client | resolving => exact ⟨none, .nil⟩
  | refused => exact ⟨none, .single rfl⟩
  | served _ _ aside mute =>
      exact ⟨aside.pending.trans none, (mute closed).append (.single rfl)⟩
  | answered _ pending => simp [none] at pending
  | noted _ _ aside =>
      refine ⟨aside.pending.trans none, fun effect member => ?_⟩
      obtain ⟨_, -, rfl⟩ := List.mem_map.mp member
      rfl
  | collected =>
      refine ⟨List.eq_nil_iff_forall_not_mem.mpr fun n pending => ?_, .single rfl⟩
      have before := (mem_pending_settle ..).mp pending
      simp [none] at before
  | registered _ _ opened | closed opened =>
      rw [closed] at opened
      contradiction

/-- A caller that took its reply away waits no more. -/
theorem Move.not_waiting {r : Reply} (move : Move b now event s)
    (collects : event = .collect t) (reply : b.reply? now t = some r) :
    s.1.wait? t = none := by
  cases move with
  | collected =>
      cases collects
      simp
  | patient waits =>
      cases collects
      cases waits.symm.trans reply
  | _ => cases collects

theorem Move.orderly (move : Move b now event s) (orderly : Orderly b) : Orderly s.1 where
  issued n pending := by
    obtain ⟨t, registers⟩ | ⟨before, -⟩ := (move.mem_pending orderly).mp pending
    · exact Nat.le_of_eq (move.fresh_of_registers orderly registers).2
    · exact Nat.le_trans (orderly.issued n before) move.transactions_le
  asked t n d a after := by
    obtain ⟨-, -, -, -, last⟩ | ⟨_, before, -⟩ := move.wait_cases orderly after
    · exact Nat.le_of_eq last
    · exact Nat.le_trans (orderly.asked _ _ _ _ before) move.transactions_le
  apart t u n d d' a a' first second := by
    obtain ⟨registers, -, -, new, -⟩ | ⟨_, before, -⟩ := move.wait_cases orderly first
    · obtain ⟨registers', -⟩ | ⟨_, before, -⟩ := move.wait_cases orderly second
      · obtain ⟨_, _, _, _, same, -⟩ := registers
        obtain ⟨_, _, _, _, same', -⟩ := registers'
        exact (Event.call.inj (same.symm.trans same')).1
      · exact absurd (orderly.asked _ _ _ _ before) (Nat.not_le_of_lt new)
    · obtain ⟨-, -, -, new, -⟩ | ⟨_, before', -⟩ := move.wait_cases orderly second
      · exact absurd (orderly.asked _ _ _ _ before) (Nat.not_le_of_lt new)
      · exact orderly.apart _ _ _ _ _ _ _ before before'
  pending t n d a after := by
    rw [move.mem_pending orderly]
    obtain ⟨registers, unanswered, -⟩ | ⟨a', before, told⟩ :=
      move.wait_cases orderly after
    · exact iff_of_true (Or.inl ⟨t, registers⟩) unanswered
    · have old : ¬ ∃ u, Registers u n ⟨now, event, b, s.1, s.2⟩ := by
        intro registers
        obtain ⟨u, registers⟩ := registers
        have new := (move.fresh_of_registers orderly registers).1
        exact absurd (orderly.asked _ _ _ _ before) (Nat.not_le_of_lt new)
      have stays : ¬ Collects n ⟨now, event, b, s.1, s.2⟩ := by
        intro collects
        obtain ⟨u, _, _, _, collects, wait, reply⟩ := collects
        cases orderly.apart _ _ _ _ _ _ _ wait before
        cases (move.not_waiting collects reply).symm.trans after
      rw [or_iff_right old, orderly.pending _ _ _ _ before, told]
      simp [stays]
  closed closed := by
    obtain before | rfl := move.isClosed.mp closed
    · exact (move.while_closed before (orderly.closed before)).1
    · refine List.eq_nil_iff_forall_not_mem.mpr fun n pending => ?_
      obtain ⟨_, _, _, _, _, event, -⟩ | ⟨-, untold, -⟩ :=
        (move.mem_pending orderly).mp pending
      · cases event
      · cases untold

end

namespace RunOf
variable {s : Settings} {h : History} {b : Bridge}

theorem orderly (run : RunOf s h b) : Orderly b := by
  apply run.invariant
  · exact ⟨by simp [ofSettings], by simp [ofSettings, wait?], by simp [ofSettings, wait?],
      by simp [ofSettings, wait?], by simp [ofSettings]⟩
  · intro b now event s move orderly
    exact move.orderly orderly

theorem settings (run : RunOf s h b) : b.settings = s :=
  run.invariant (P := fun b => b.settings = s) rfl fun _ _ _ _ move same =>
    move.settings.trans same

theorem timeout (run : RunOf s h b) : b.timeout = 1000 * s.responseTimeout.toNat := by
  rw [Bridge.timeout, run.settings]

end RunOf
end Bridge
end MeshReadings
