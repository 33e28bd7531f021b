import MeshReadings.Proofs.Reporting.Range

/-!
What one update makes of a configuration that is in range, field by field: each time is
moved into its range, and then the longest is raised above the shortest. The raised time
may be one that the update does not mention, and yet the same update made again finds
nothing more to do, since a time that was raised is still the least above the shortest.
-/

namespace MeshReadings
namespace Binary64
variable {x lo hi : Binary64}

theorem not_below_of_atMost (within : lo.atMost x = true) : ¬ x.below lo = true := by
  intro under
  have less := (below_iff.mp under).2.2
  have atMost := (atMost_iff.mp within).2.2
  omega

theorem clamp_of_between (above : lo.atMost x = true) (below : x.atMost hi = true) :
    x.clamp lo hi = x := by
  simp [clamp, not_below_of_atMost above, not_below_of_atMost below]

theorem clamp_of_below (ordered : lo.atMost hi = true) (under : x.below lo = true) :
    x.clamp lo hi = lo := by
  simp [clamp, under, not_below_of_atMost ordered]

theorem clamp_of_above (ordered : lo.atMost hi = true) (exceeds : hi.below x = true) :
    x.clamp lo hi = hi := by
  have low := (atMost_iff.mp ordered).2.2
  have high := (below_iff.mp exceeds).2.2
  have inside : ¬ x.below lo = true :=
    fun under => by have := (below_iff.mp under).2.2; omega
  simp [clamp, inside, exceeds]

end Binary64

namespace Reporting

namespace Update

/-- The shortest time that an update asks for, if only by leaving it alone. -/
def shortest (u : Update) (c : Config) : Int :=
  (u.minInterval.map Int64.toInt).getD c.minInterval

def longest (u : Update) (c : Config) : Int :=
  (u.maxInterval.map Int64.toInt).getD c.maxInterval

def period (u : Update) (c : Config) : Int :=
  (u.pollingPeriod.map Int64.toInt).getD c.pollingPeriod

end Update

section
variable {low high n : Nat}

theorem between_of_mem (above : low ≤ n) (below : n ≤ high) : between low high n = n := by
  simp only [between]
  omega

/-- A longest time that is not above the shortest is raised to the least that is. -/
theorem intervals_eq (shortest longest : Int) :
    intervals shortest longest = (between 0 minIntervalCeiling shortest,
      max (between maxIntervalFloor maxIntervalCeiling longest)
        (between 0 minIntervalCeiling shortest + 1)) := by
  simp only [intervals]
  split
  · next less => rw [Nat.max_eq_left less]
  · next raised => rw [Nat.max_eq_right (by omega)]

theorem ChangeBounds.Numbers.sorted {b : ChangeBounds} (numbers : b.Numbers) :
    b.ordered.Numbers := by
  simp only [ChangeBounds.ordered]
  split
  · exact numbers
  · exact ⟨numbers.initial, numbers.high, numbers.low⟩

theorem ChangeBounds.numbers_sorted {d : Defaults}
    (numbers : ∀ b, d.change = some b → b.Numbers) (b : ChangeBounds)
    (here : d.change.map ChangeBounds.ordered = some b) : b.Numbers := by
  obtain ⟨given, change, rfl⟩ := Option.map_eq_some_iff.mp here
  exact (numbers given change).sorted

theorem ChangeBounds.same_self {b : ChangeBounds} (numbers : b.Numbers) :
    b.same b = true := by
  simp [ChangeBounds.same, numbers.initial, numbers.low, numbers.high]

end

namespace Config
variable {c : Config} {within : Option ChangeBounds} {d : Defaults}

theorem InRange.min_eq (inRange : InRange within c) :
    between 0 minIntervalCeiling c.minInterval = c.minInterval := by
  have apart := inRange.apart
  have longest := inRange.longest
  have room := ceilings
  exact between_of_mem (Nat.zero_le _) (by omega)

theorem InRange.max_eq (inRange : InRange within c) :
    between maxIntervalFloor maxIntervalCeiling c.maxInterval = c.maxInterval := by
  have apart := inRange.apart
  exact between_of_mem (by simp only [maxIntervalFloor]; omega) inRange.longest

theorem InRange.polling_eq (inRange : InRange within c) :
    between pollingFloor pollingCeiling c.pollingPeriod = c.pollingPeriod :=
  between_of_mem inRange.fastest inRange.slowest

theorem update_minInterval (c : Config) (u : Update) :
    (c.update u).minInterval = between 0 minIntervalCeiling (u.shortest c) := by
  simp only [update, intervals_eq]
  rfl

theorem update_maxInterval (c : Config) (u : Update) :
    (c.update u).maxInterval =
      max (between maxIntervalFloor maxIntervalCeiling (u.longest c))
        ((c.update u).minInterval + 1) := by
  simp only [update, intervals_eq]
  rfl

theorem update_pollingPeriod (inRange : InRange within c) (u : Update) :
    (c.update u).pollingPeriod = between pollingFloor pollingCeiling (u.period c) := by
  simp only [update, Update.period]
  cases u.pollingPeriod with
  | none => exact inRange.polling_eq.symm
  | some p => rfl

theorem changeAfter_none (c : Config) : c.changeAfter none = c.change := by
  cases measured : c.bounds <;> simp [changeAfter, measured]

theorem changeAfter_of_unmeasured (unmeasured : c.bounds = none)
    (request : Option Binary64) : c.changeAfter request = c.change := by
  simp [changeAfter, unmeasured]

theorem changeAfter_of_finite {b : ChangeBounds} {x : Binary64}
    (measured : c.bounds = some b) (finite : x.isFinite = true) :
    c.changeAfter (some x) = some (x.clamp b.low b.high) := by
  simp [changeAfter, measured, finite]

theorem changeAfter_of_not_finite {x : Binary64} (beyond : ¬ x.isFinite = true) :
    c.changeAfter (some x) = c.change := by
  cases measured : c.bounds with
  | none => exact changeAfter_of_unmeasured measured _
  | some b => simp [changeAfter, measured, beyond]

theorem changeAfter_update (c : Config) (u : Update) :
    (c.update u).changeAfter u.change = c.changeAfter u.change := by
  have kept : (c.update u).change = c.changeAfter u.change := rfl
  have bounds : (c.update u).bounds = c.bounds := rfl
  cases measured : c.bounds with
  | none => rw [changeAfter_of_unmeasured (bounds.trans measured), kept]
  | some b => cases asked : u.change with
    | none => rw [changeAfter_none, kept, asked]
    | some x =>
        by_cases finite : x.isFinite = true
        · rw [changeAfter_of_finite (bounds.trans measured) finite,
            changeAfter_of_finite measured finite]
        · rw [changeAfter_of_not_finite finite, kept, asked]

/-- Nothing is left to do by an update that was just made. -/
theorem update_update (inRange : InRange within c) (u : Update) :
    (c.update u).update u = c.update u := by
  have kept := inRange_update inRange u
  have shortest : ((c.update u).update u).minInterval = (c.update u).minInterval := by
    rw [update_minInterval (c.update u)]
    cases asked : u.minInterval with
    | none => simpa [Update.shortest, asked] using kept.min_eq
    | some n => simp [update_minInterval, Update.shortest, asked]
  have longest : ((c.update u).update u).maxInterval = (c.update u).maxInterval := by
    rw [update_maxInterval (c.update u), shortest]
    cases asked : u.maxInterval with
    | none =>
        have same : u.longest (c.update u) = (c.update u).maxInterval := by
          simp [Update.longest, asked]
        rw [same, kept.max_eq]
        exact Nat.max_eq_left kept.apart
    | some n =>
        rw [update_maxInterval c]
        simp [Update.longest, asked]
  have period : ((c.update u).update u).pollingPeriod = (c.update u).pollingPeriod := by
    rw [update_pollingPeriod kept]
    cases asked : u.pollingPeriod with
    | none => simpa [Update.period, asked] using kept.polling_eq
    | some n => simp [update_pollingPeriod inRange, Update.period, asked]
  have change : ((c.update u).update u).change = (c.update u).change :=
    changeAfter_update c u
  exact Config.ext shortest longest change rfl period

theorem same_bounds (numbers : ∀ b, c.bounds = some b → b.Numbers) :
    sameOption ChangeBounds.same c.bounds c.bounds = true := by
  cases measured : c.bounds with
  | none => rfl
  | some b => exact ChangeBounds.same_self (numbers b measured)

/-- An update changes something exactly if one of the four values becomes another one. -/
theorem isChangedBy_iff (numbers : ∀ b, c.bounds = some b → b.Numbers) (u : Update) :
    c.isChangedBy u = true ↔
      (c.update u).minInterval ≠ c.minInterval ∨
      (c.update u).maxInterval ≠ c.maxInterval ∨
        sameOption Binary64.same (c.update u).change c.change = false ∨
        (c.update u).pollingPeriod ≠ c.pollingPeriod := by
  have bounds : sameOption ChangeBounds.same (c.update u).bounds c.bounds = true :=
    same_bounds numbers
  simp only [isChangedBy, same, bounds, Bool.and_true, Bool.not_eq_true',
    Bool.and_eq_false_iff, beq_eq_false_iff_ne, or_assoc]

/-- Present or not, the change agrees with itself. -/
theorem InRange.same_change (inRange : InRange within c) :
    sameOption Binary64.same c.change c.change = true := by
  cases measured : within with
  | none => rw [inRange.unmeasured measured]; rfl
  | some b =>
      obtain ⟨x, change, above, -⟩ := inRange.measured b measured
      rw [change]
      exact Binary64.same_self (Binary64.atMost_iff.mp above).2.1

theorem isChangedBy_of_update_eq (inRange : InRange within c)
    (numbers : ∀ b, within = some b → b.Numbers) {u : Update} (same : c.update u = c) :
    c.isChangedBy u = false := by
  have numbers : ∀ b, c.bounds = some b → b.Numbers :=
    fun b here => numbers b (inRange.bounds.symm.trans here)
  simp [← Bool.not_eq_true, isChangedBy_iff numbers, same, inRange.same_change]

end Config
end Reporting
end MeshReadings
