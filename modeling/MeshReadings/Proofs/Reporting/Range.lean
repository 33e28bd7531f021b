import MeshReadings.Reporting.Basic

/-!
What a reporting configuration keeps through every update: its times stay apart and in
range, and a change that is measured stays between its bounds, which nobody moves. The
same calculations done in words of the sizes in which the values are kept, with clamps
that insist on ordered bounds, therefore always have a result, and it is the same.
-/

namespace MeshReadings
namespace Binary64

theorem atMost_iff {x y : Binary64} :
    x.atMost y = true ↔ x.isNaN = false ∧ y.isNaN = false ∧ x.rank ≤ y.rank := by
  simp [atMost, and_assoc]

theorem below_iff {x y : Binary64} :
    x.below y = true ↔ x.isNaN = false ∧ y.isNaN = false ∧ x.rank < y.rank := by
  simp [below, and_assoc]

theorem isNaN_of_isFinite {x : Binary64} (finite : x.isFinite = true) :
    x.isNaN = false := by
  simp only [isFinite, isNaN, decide_eq_true_eq, decide_eq_false_iff_not] at *
  omega

theorem atMost_of_not {x y : Binary64} (left : x.isNaN = false) (right : y.isNaN = false)
    (other : ¬ x.atMost y = true) : y.atMost x = true := by
  have beyond : ¬ x.rank ≤ y.rank :=
    fun within => other (atMost_iff.mpr ⟨left, right, within⟩)
  exact atMost_iff.mpr ⟨right, left, by omega⟩

theorem atMost_of_not_below {x y : Binary64} (left : x.isNaN = false)
    (right : y.isNaN = false) (other : ¬ x.below y = true) : y.atMost x = true := by
  have beyond : ¬ x.rank < y.rank := fun less => other (below_iff.mpr ⟨left, right, less⟩)
  exact atMost_iff.mpr ⟨right, left, by omega⟩

/-- A number that is clamped lies between the bounds. -/
theorem clamp_between {x lo hi : Binary64} (number : x.isNaN = false)
    (ordered : lo.atMost hi = true) :
    lo.atMost (x.clamp lo hi) = true ∧ (x.clamp lo hi).atMost hi = true := by
  obtain ⟨low, high, ranks⟩ := atMost_iff.mp ordered
  simp only [clamp]
  by_cases under : x.below lo = true
  · have inside : ¬ hi.below lo = true :=
      fun above => by have := (below_iff.mp above).2.2; omega
    rw [if_pos under, if_neg inside]
    exact ⟨atMost_iff.mpr ⟨low, low, Int.le_refl _⟩, ordered⟩
  · rw [if_neg under]
    by_cases above : hi.below x = true
    · rw [if_pos above]
      exact ⟨ordered, atMost_iff.mpr ⟨high, high, Int.le_refl _⟩⟩
    · rw [if_neg above]
      exact ⟨atMost_of_not_below number low under, atMost_of_not_below high number above⟩

/-- The nearest number between two bounds, where there is any between them. -/
def clamp? (x lo hi : Binary64) : Option Binary64 :=
  if lo.atMost hi then some (x.clamp lo hi) else none

end Binary64

namespace Reporting

/-- The number as a word of a type with so many words, if it fits into one. -/
def word? (words : Nat) (n : Int) : Option Nat :=
  if 0 ≤ n ∧ n < words then some n.toNat else none

def wordBetween? (words low high : Nat) (n : Int) : Option Nat :=
  if low ≤ high then word? words (max (low : Int) (min (high : Int) n)) else none

def intervalsInWords? (shortest longest : Int) : Option (Nat × Nat) := do
  let lo ← wordBetween? UInt16.size 0 minIntervalCeiling shortest
  let hi ← wordBetween? UInt16.size maxIntervalFloor maxIntervalCeiling longest
  if lo < hi then some (lo, hi) else (word? UInt16.size (lo + 1)).map ((lo, ·))

namespace ChangeBounds

structure Numbers (b : ChangeBounds) : Prop where
  initial : b.initial.isNaN = false
  low : b.low.isNaN = false
  high : b.high.isNaN = false

/-- The bounds with the lower one first. -/
def ordered (b : ChangeBounds) : ChangeBounds :=
  if b.low.atMost b.high then b else { b with low := b.high, high := b.low }

theorem Numbers.ordered {b : ChangeBounds} (numbers : b.Numbers) :
    b.ordered.low.atMost b.ordered.high = true := by
  simp only [ChangeBounds.ordered]
  split
  · assumption
  · next other => exact Binary64.atMost_of_not numbers.low numbers.high other

end ChangeBounds

namespace Config

def ofDefaultsInWords? (d : Defaults) : Option Config := do
  let (lo, hi) ← intervalsInWords? d.minInterval.toNat d.maxInterval.toNat
  let period ← wordBetween? UInt32.size pollingFloor pollingCeiling d.pollingPeriod.toNat
  let c : Config := ⟨lo, hi, none, none, period⟩
  match d.change with
  | none => some c
  | some b => c.withChange? b

def changeInWords? (c : Config) (request : Option Binary64) : Option (Option Binary64) :=
  match c.bounds, request with
  | some b, some x =>
      if x.isFinite then (x.clamp? b.low b.high).map some else some c.change
  | _, _ => some c.change

def updateInWords? (c : Config) (u : Update) : Option Config := do
  let (lo, hi) ← intervalsInWords? ((u.minInterval.map Int64.toInt).getD c.minInterval)
    ((u.maxInterval.map Int64.toInt).getD c.maxInterval)
  let change ← c.changeInWords? u.change
  let period ← match u.pollingPeriod with
    | none => some c.pollingPeriod
    | some p => wordBetween? UInt32.size pollingFloor pollingCeiling p.toInt
  some { c with
    minInterval := lo, maxInterval := hi, change := change, pollingPeriod := period }

/-- A configuration with the given bounds for its change is in range. -/
structure InRange (within : Option ChangeBounds) (c : Config) : Prop where
  apart : c.minInterval < c.maxInterval
  longest : c.maxInterval ≤ maxIntervalCeiling
  fastest : pollingFloor ≤ c.pollingPeriod
  slowest : c.pollingPeriod ≤ pollingCeiling
  bounds : c.bounds = within
  measured : ∀ b, within = some b →
    ∃ x, c.change = some x ∧ b.low.atMost x = true ∧ x.atMost b.high = true
  unmeasured : within = none → c.change = none

end Config

section
variable {low high words : Nat} {n : Int}

theorem between_mem (ordered : low ≤ high) (n : Int) :
    low ≤ between low high n ∧ between low high n ≤ high := by
  simp only [between]
  omega

theorem word?_natCast {n : Nat} (fits : n < words) : word? words n = some n := by
  rw [word?, if_pos ⟨Int.natCast_nonneg n, Int.ofNat_lt.mpr fits⟩, Int.toNat_natCast]

theorem wordBetween?_eq (ordered : low ≤ high) (fits : high < words) (n : Int) :
    wordBetween? words low high n = some (between low high n) := by
  have bound := Nat.lt_of_le_of_lt (between_mem ordered n).2 fits
  have exact : max (low : Int) (min (high : Int) n) = (between low high n : Nat) := by
    simp only [between]
    omega
  rw [wordBetween?, if_pos ordered, exact, word?_natCast bound]

theorem shortest_le (n : Int) : between 0 minIntervalCeiling n ≤ minIntervalCeiling :=
  (between_mem (Nat.zero_le _) n).2

/-- The largest shortest time leaves room for a longer one. -/
theorem ceilings : minIntervalCeiling + 1 = maxIntervalCeiling := rfl

theorem intervals_apart (shortest longest : Int) :
    (intervals shortest longest).1 < (intervals shortest longest).2 ∧
      (intervals shortest longest).2 ≤ maxIntervalCeiling := by
  simp only [intervals]
  split
  · next less =>
      have longest :=
        between_mem (by decide : maxIntervalFloor ≤ maxIntervalCeiling) longest
      exact ⟨less, longest.2⟩
  · exact ⟨Nat.lt_succ_self _, ceilings ▸ Nat.succ_le_succ (shortest_le shortest)⟩

theorem shortest_word (n : Int) :
    wordBetween? UInt16.size 0 minIntervalCeiling n =
      some (between 0 minIntervalCeiling n) :=
  wordBetween?_eq (by decide) (by decide) n

theorem longest_word (n : Int) :
    wordBetween? UInt16.size maxIntervalFloor maxIntervalCeiling n =
      some (between maxIntervalFloor maxIntervalCeiling n) :=
  wordBetween?_eq (by decide) (by decide) n

theorem polling_word (n : Int) :
    wordBetween? UInt32.size pollingFloor pollingCeiling n =
      some (between pollingFloor pollingCeiling n) :=
  wordBetween?_eq (by decide) (by decide) n

/-- One more than the shortest time still fits into its word. -/
theorem intervalsInWords?_eq (shortest longest : Int) :
    intervalsInWords? shortest longest = some (intervals shortest longest) := by
  have next : between 0 minIntervalCeiling shortest + 1 < UInt16.size :=
    Nat.lt_of_le_of_lt (Nat.succ_le_succ (shortest_le shortest)) (by decide)
  simp only [intervalsInWords?, shortest_word, longest_word, Option.bind_eq_bind,
    Option.bind_some, intervals]
  split
  · rfl
  · rw [← Int.natCast_succ, word?_natCast next, Option.map_some]

end

namespace Config
variable {c : Config} {within : Option ChangeBounds} {d : Defaults}

theorem withChange?_eq {b : ChangeBounds} (numbers : b.Numbers) (c : Config) :
    c.withChange? b = some
      { c with change := some (b.initial.clamp b.ordered.low
        b.ordered.high), bounds := some b.ordered } := by
  have same : b.ordered.initial = b.initial := by
    simp only [ChangeBounds.ordered]
    split <;> rfl
  have taken : (if b.low.atMost b.high then b
      else { b with low := b.high, high := b.low }) = b.ordered :=
    rfl
  simp only [withChange?, taken, numbers.ordered, if_true]

theorem ofDefaultsInWords?_eq (d : Defaults) : ofDefaultsInWords? d = ofDefaults? d := by
  cases measured : d.change with
  | none | some =>
      simp only [ofDefaultsInWords?, ofDefaults?, intervalsInWords?_eq, polling_word,
        Option.bind_eq_bind, Option.bind_some, measured]

/-- Numbers as bounds give a configuration, and it is in range. -/
theorem inRange_ofDefaults? (numbers : ∀ b, d.change = some b → b.Numbers) :
    ∃ c, ofDefaults? d = some c ∧ InRange (d.change.map ChangeBounds.ordered) c := by
  have apart := intervals_apart d.minInterval.toNat d.maxInterval.toNat
  have period :=
    between_mem (by decide : pollingFloor ≤ pollingCeiling) d.pollingPeriod.toNat
  simp only [ofDefaults?]
  cases measured : d.change with
  | none => exact ⟨_, rfl, apart.1, apart.2, period.1, period.2, rfl, nofun, fun _ => rfl⟩
  | some b =>
      have ordered := (numbers b measured).ordered
      refine ⟨_, withChange?_eq (numbers b measured) _, apart.1, apart.2, period.1,
        period.2, rfl, ?_, nofun⟩
      rintro _ ⟨⟩
      exact ⟨_, rfl, Binary64.clamp_between (numbers b measured).initial ordered⟩

theorem InRange.ordered (inRange : InRange within c) {b : ChangeBounds}
    (here : c.bounds = some b) : b.low.atMost b.high = true := by
  obtain ⟨x, -, above, below⟩ := inRange.measured b (inRange.bounds.symm.trans here)
  simp only [Binary64.atMost_iff] at *
  exact ⟨above.1, below.2.1, by omega⟩

theorem changeInWords?_eq (inRange : InRange within c) (request : Option Binary64) :
    c.changeInWords? request = some (c.changeAfter request) := by
  cases bound : c.bounds with
  | none => simp [changeInWords?, changeAfter, bound]
  | some b =>
      have ordered := inRange.ordered bound
      cases request with
      | none => simp [changeInWords?, changeAfter, bound]
      | some x => by_cases finite : x.isFinite = true <;>
          simp [changeInWords?, changeAfter, bound, finite, Binary64.clamp?, ordered]

/-- No calculation of an update goes wrong. -/
theorem updateInWords?_eq (inRange : InRange within c) (u : Update) :
    c.updateInWords? u = some (c.update u) := by
  simp only [updateInWords?, update, intervalsInWords?_eq, changeInWords?_eq inRange,
    Option.bind_eq_bind, Option.bind_some]
  cases u.pollingPeriod with
  | none => rfl
  | some p => simp only [polling_word, Option.bind_some]

theorem InRange.changeAfter (inRange : InRange within c) (request : Option Binary64)
    {b : ChangeBounds} (here : within = some b) :
    ∃ x, c.changeAfter request = some x ∧ b.low.atMost x = true ∧
      x.atMost b.high = true := by
  have bound : c.bounds = some b := inRange.bounds.trans here
  cases request with
  | none => simpa [Config.changeAfter, bound] using inRange.measured b here
  | some x =>
      by_cases finite : x.isFinite = true
      · have between :=
          Binary64.clamp_between (Binary64.isNaN_of_isFinite finite)
            (inRange.ordered bound)
        exact ⟨_, by simp [Config.changeAfter, bound, finite], between⟩
      · simpa [Config.changeAfter, bound, finite] using inRange.measured b here

theorem inRange_update (inRange : InRange within c) (u : Update) :
    InRange within (c.update u) := by
  have apart := intervals_apart ((u.minInterval.map Int64.toInt).getD c.minInterval)
    ((u.maxInterval.map Int64.toInt).getD c.maxInterval)
  have period : pollingFloor ≤ (c.update u).pollingPeriod ∧
      (c.update u).pollingPeriod ≤ pollingCeiling := by
    simp only [update]
    cases u.pollingPeriod with
    | none => exact ⟨inRange.fastest, inRange.slowest⟩
    | some p => exact between_mem (by decide) p.toInt
  refine ⟨apart.1, apart.2, period.1, period.2, inRange.bounds,
    fun b => inRange.changeAfter u.change, ?_⟩
  intro none
  have unbound : c.bounds = Option.none := inRange.bounds.trans none
  simp [update, Config.changeAfter, unbound, inRange.unmeasured none]

theorem inRange_updates (inRange : InRange within c) (us : List Update) :
    us.foldlM updateInWords? c = some (us.foldl update c) ∧
    InRange within (us.foldl update c) := by
  induction us generalizing c with
  | nil => exact ⟨rfl, inRange⟩
  | cons u us ih =>
      rw [List.foldlM_cons, updateInWords?_eq inRange]
      exact ih (inRange_update inRange u)

/-- Whatever a device class starts from and whatever users ask for, the configuration
stays in range: its shortest time below its longest, all times within their bounds, and
the change, where changes are measured, between the bounds of the class. No calculation on
the way leaves its word or clamps between bounds that are not ordered. -/
theorem updates_stay_in_range (d : Defaults)
    (numbers : ∀ b, d.change = some b → b.Numbers) :
    ∃ c₀, ofDefaults? d = some c₀ ∧ ofDefaultsInWords? d = some c₀ ∧
      ∀ us : List Update, ∃ c,
      us.foldl update c₀ = c ∧ us.foldlM updateInWords? c₀ = some c ∧
      c.minInterval < c.maxInterval ∧ c.maxInterval ≤ 65535 ∧
      15 ≤ c.pollingPeriod ∧ c.pollingPeriod ≤ 86400 ∧
      c.bounds = d.change.map ChangeBounds.ordered ∧
      (d.change = none → c.change = none) ∧
      ∀ b, d.change = some b →
        ∃ x, c.change = some x ∧ b.ordered.low.atMost x = true ∧
          x.atMost b.ordered.high = true := by
  obtain ⟨c₀, made, inRange⟩ := inRange_ofDefaults? numbers
  refine ⟨c₀, made, (ofDefaultsInWords?_eq d).trans made, fun us => ⟨_, rfl, ?_⟩⟩
  obtain ⟨inWords, kept⟩ := inRange_updates inRange us
  refine ⟨inWords, kept.apart, kept.longest, kept.fastest, kept.slowest,
    kept.bounds, ?_, ?_⟩
  · intro none
    exact kept.unmeasured (by rw [none, Option.map_none])
  · intro b here
    exact kept.measured b.ordered (by rw [here, Option.map_some])

/-- A class with its bounds the wrong way round, one of them infinite, and its times at
the ends of their words. -/
def contrary : Defaults where
  minInterval := 65535
  maxInterval := 0
  pollingPeriod := 0
  change := some ⟨.zero, .infinity false, .ofNat 1⟩

/-- The last times that fit, then a change that is not a number. -/
def extremes : List Update :=
  [{ minInterval := some 9223372036854775807
     maxInterval := some (-9223372036854775808) },
    { change := some .notANumber, pollingPeriod := some 9223372036854775807 }]

theorem contrary_extremes_in_range :
    (∀ b, contrary.change = some b → b.Numbers) ∧ ∃ c₀ c, ofDefaults? contrary = some c₀ ∧
      extremes.foldlM updateInWords? c₀ = some c ∧ c.minInterval = 65534 ∧
      c.maxInterval = 65535 ∧
      c.pollingPeriod = 86400 ∧ ∃ x, c.change = some x ∧
        Binary64.atMost (.ofNat 1) x = true := by
  have numbers : ∀ b, contrary.change = some b → b.Numbers := by
    rintro _ ⟨⟩
    exact ⟨by decide, by decide, by decide⟩
  obtain ⟨c₀, made, -, updates⟩ := updates_stay_in_range contrary numbers
  obtain ⟨c, rfl, inWords, -, -, -, -, -, -, measured⟩ := updates extremes
  obtain ⟨x, change, above, -⟩ := measured _ rfl
  cases made
  exact ⟨numbers, _, _, rfl, inWords, by decide, by decide, by decide, x, change, above⟩

end Config
end Reporting
end MeshReadings
