import MeshReadings.Proofs.Bridge.Waits
import MeshReadings.Rehearsal.Run

/-!
What is left in the table of pending transactions. A caller that gives up takes its wait
with it but not its transaction, which stays in the table until a response carries it or
the bridge is closed. So the table holds the transactions of the callers that wait, and
those that callers have forsaken.
-/

namespace MeshReadings
namespace Bridge

/-- A caller gives up before it has heard of its transaction. -/
def Forsakes (n : Nat) (m : Moment) : Prop :=
  ∃ t d, m.event = .abandon t ∧ m.before.wait? t = some (.response n d none)

/-- A transaction was given up, and nothing that would end it has happened since. -/
def Forsaken (n : Nat) (h : History) : Prop :=
  Since (fun _ m => Forsakes n m) (fun m => m.before.verdict? n m.event = none) h

section
variable {b : Bridge} {now n d : Nat} {event : Event} {s : Step} {t : Ticket}

/-- A caller that has heard nothing goes on waiting until it hears something, takes its
reply away or gives up. -/
theorem Move.wait_lasts (move : Move b now event s)
    (before : b.wait? t = some (.response n d none)) (untold : b.verdict? n event = none)
    (stays : event ≠ .abandon t) (uncollected : ¬ Collects n ⟨now, event, b, s.1, s.2⟩) :
    s.1.wait? t = some (.response n d none) := by
  cases move with
  | busy | refused | patient | closedAgain | client => exact before
  | served _ _ aside | noted _ _ aside => exact (aside.wait? t).trans before
  | registered fresh | resolving fresh =>
      rw [wait?_putWait, if_neg]
      · exact before
      · rintro rfl
        cases fresh.symm.trans before
  | answered response =>
      rw [verdict?_of_response response] at untold
      rw [wait?_answer, before, Option.map_some, Wait.hear_of_ne]
      rintro d' same
      cases same
      simp at untold
  | @collected u r reply =>
      rw [wait?_settle, if_neg]
      · exact before
      · rintro rfl
        exact uncollected ⟨t, d, none, r, rfl, before, reply⟩
  | abandoned =>
      rw [wait?_abandon, if_neg]
      · exact before
      · rintro rfl
        exact stays rfl
  | closed => cases untold

end

section
variable {s : Settings} {h : History} {b : Bridge} {n : Nat}

theorem forsaken_snoc (n : Nat) (h : History) (m : Moment) :
    Forsaken n (h ++ [m]) ↔
      Forsakes n m ∨ Forsaken n h ∧ m.before.verdict? n m.event = none :=
  since_snoc h m

/-- A forsaken transaction is no new one, and nobody waits for it. -/
theorem RunOf.not_awaited (run : RunOf s h b) (forsaken : Forsaken n h) :
    n ≤ b.transactions ∧ ∀ t d a, b.wait? t ≠ some (.response n d a) := by
  refine run.induct (P := fun h b => Forsaken n h →
    n ≤ b.transactions ∧ ∀ t d a, b.wait? t ≠ some (.response n d a)) ?_ ?_ forsaken
  · exact fun never => absurd never not_since_nil
  · intro h b now event run ih since
    have move := step_move b now event
    rw [forsaken_snoc] at since
    obtain ⟨t, d, abandons, wait⟩ | ⟨earlier, -⟩ := since
    · cases abandons
      refine ⟨run.orderly.asked _ _ _ _ wait, fun u d' a after => ?_⟩
      obtain ⟨⟨_, _, _, _, other, -⟩, -⟩ | ⟨_, before, -⟩ :=
        move.wait_cases run.orderly after
      · cases other
      · cases run.orderly.apart _ _ _ _ _ _ _ before wait
        simp [step] at after
    · obtain ⟨old, unawaited⟩ := ih earlier
      refine ⟨Nat.le_trans old move.transactions_le, fun u d' a after => ?_⟩
      obtain ⟨-, -, -, new, -⟩ | ⟨a', before, -⟩ := move.wait_cases run.orderly after
      · exact absurd old (Nat.not_le_of_lt new)
      · exact unawaited u d' a' before

/-- After every run the pending transactions are those of the callers that wait and have
heard nothing, and the forsaken ones. -/
theorem pending_iff (run : RunOf s h b) (n : Nat) :
    n ∈ b.pending ↔ (∃ t d, b.wait? t = some (.response n d none)) ∨ Forsaken n h := by
  refine run.induct (P := fun h b =>
    n ∈ b.pending ↔ (∃ t d, b.wait? t = some (.response n d none)) ∨ Forsaken n h) ?_ ?_
  · simp [ofSettings, wait?, Forsaken, not_since_nil]
  · intro h b now event run ih
    have move := step_move b now event
    have orderly := run.orderly
    rw [forsaken_snoc]
    constructor
    · intro pending
      obtain ⟨t, _, _, _, _, -, -, -, -, waits⟩ | ⟨before, untold, stays⟩ :=
        (move.mem_pending orderly).mp pending
      · exact Or.inl ⟨t, _, waits⟩
      · -- A transaction that stays in the table keeps its caller, unless that gives it up
        -- right now.
        obtain ⟨t, d, wait⟩ | forsaken := ih.mp before
        · by_cases abandons : event = .abandon t
          · exact Or.inr (Or.inl ⟨t, d, abandons, wait⟩)
          · exact Or.inl ⟨t, d, move.wait_lasts wait untold abandons stays⟩
        · exact Or.inr (Or.inr ⟨forsaken, untold⟩)
    · intro either
      obtain ⟨t, d, wait⟩ | ⟨t, d, abandons, wait⟩ | ⟨forsaken, untold⟩ := either
      · exact ((move.orderly orderly).pending t n d none wait).mpr rfl
      · cases abandons
        exact (orderly.pending t n d none wait).mpr rfl
      · refine (move.mem_pending orderly).mpr
          (Or.inr ⟨ih.mpr (Or.inr forsaken), untold, ?_⟩)
        intro collects
        obtain ⟨t, d, a, _, -, wait, -⟩ := collects
        exact (run.not_awaited forsaken).2 t d a wait

end

open Rehearsal (Session)

/-- An engine that waits a second for the bridge, which waits ten for its responses. -/
def hastySensor : Spec :=
  { Spec.ofKind "occupancy" "0x00158d0001a2b3c4" 1 .occupancy with timeout := 1000 }

def hallBridge : Bridge :=
  { ofSettings {} with
    devices := [⟨"0x00158d0001a2b3c4", "hall", [("1", ["msOccupancySensing"])]⟩]
    isLoaded := true }

/-- The engine is opened and activated, and hears nothing of its bind. -/
def unheard : Session :=
  ((Session.start (.bridge hallBridge) true .record).carryOut none
    (.openEngine "hall" (.ok hastySensor))).carryOut none (.activate "hall")

/-- Nobody does anything any more, and yet the bind's transaction is pending. -/
theorem bind_stays_pending :
    (unheard.hub.engine? 0).map (·.operations.isEmpty) = some true ∧
      unheard.peer.bridge?.map (fun b => (b.waits, b.pending)) = some ([], [1]) := by
  decide +kernel

end Bridge
end MeshReadings
