import MeshReadings.Reporting.Options
import MeshReadings.Proofs.Binary64.Whole
import MeshReadings.Proofs.Reporting.Updates

/-!
What is offered for editing is what an update does. A value that an option admits is
stored as given, one that it does not admit as the nearest end of the option's range, and
the values that the options show are stored already. The ranges are shown as numbers of
the 64-bit format, where all the whole numbers in question are exact.
-/

namespace MeshReadings
namespace Binary64

theorem rank_le {x : Binary64} (number : x.isNaN = false) :
    -(infiniteMagnitude : Int) ≤ x.rank ∧ x.rank ≤ infiniteMagnitude := by
  simp only [isNaN, decide_eq_false_iff_not] at number
  simp only [rank]
  split <;> omega

theorem rank_of_infinite {x : Binary64} (number : x.isNaN = false)
    (infinite : ¬ x.isFinite = true) :
    x.rank = infiniteMagnitude ∨ x.rank = -(infiniteMagnitude : Int) := by
  simp only [isNaN, isFinite, decide_eq_false_iff_not,
    decide_eq_true_eq] at number infinite
  simp only [rank]
  split <;> omega

theorem eq_of_rank_eq {x y : Binary64} (some : y.rank ≠ 0) (same : x.rank = y.rank) :
    x = y := by
  obtain ⟨negative, magnitude⟩ := x
  obtain ⟨negative', magnitude'⟩ := y
  simp only [rank] at some same
  cases negative <;> cases negative' <;> simp at * <;> omega

/-- At the far side of a bound that is infinite stands only the bound itself. -/
theorem eq_of_infinite {x bound z : Binary64} (infinite : ¬ bound.isFinite = true)
    (beyond : x.below bound = true ∧ bound.atMost z = true ∨
      bound.below x = true ∧ z.atMost bound = true) :
    z = bound := by
  have positive : 0 < (infiniteMagnitude : Int) := by decide
  obtain ⟨under, above⟩ | ⟨exceeds, below⟩ := beyond
  · obtain ⟨numberX, number, less⟩ := below_iff.mp under
    obtain ⟨-, numberZ, atMost⟩ := atMost_iff.mp above
    have rank := rank_of_infinite number infinite
    have least := rank_le numberX
    have most := rank_le numberZ
    exact eq_of_rank_eq (by omega) (by omega)
  · obtain ⟨number, numberX, less⟩ := below_iff.mp exceeds
    obtain ⟨numberZ, -, atMost⟩ := atMost_iff.mp below
    have rank := rank_of_infinite number infinite
    have most := rank_le numberX
    have least := rank_le numberZ
    exact eq_of_rank_eq (by omega) (by omega)

end Binary64

namespace Reporting

def EditableOption.Admits (o : EditableOption) (x : Binary64) : Prop :=
  o.min.atMost x = true ∧ x.atMost o.max = true

/-- A number beyond one end of an option's range, and that end. -/
def EditableOption.NearestEnd (o : EditableOption) (x nearest : Binary64) : Prop :=
  x.below o.min = true ∧ nearest = o.min ∨ o.max.below x = true ∧ nearest = o.max

def optionOf? (os : List EditableOption) (name : String) : Option EditableOption :=
  os.find? (·.name == name)

/-- A word as an option shows it. -/
def shown (n : Int64) : Binary64 := .ofInt n.toInt

/-- A shown number as a word. -/
def word (x : Binary64) : Int64 := .ofInt x.toIntRounded

/-- A field's value, and what replaces it: itself, or the nearest end of the range that it
lies outside of. -/
inductive Replaced (os : List EditableOption) (name : String) (number : α → Binary64) :
    Option α → Option α → Prop
  | kept {a} : Replaced os name number a a
  | moved {o x y} (offered : optionOf? os name = some o)
      (ending : o.NearestEnd (number x) (number y)) :
      Replaced os name number (some x) (some y)

namespace Update

/-- The values that options show, as an update. -/
def ofOptions (os : List EditableOption) : Update :=
  let value (name : String) := (optionOf? os name).map (·.value)
  { minInterval := (value minIntervalName).map word
    maxInterval := (value maxIntervalName).map word
    change := value changeName
    pollingPeriod := (value pollingName).map word }

/-- Every value of an update has an option that admits it, and its change is finite. -/
structure Fits (u : Update) (os : List EditableOption) : Prop where
  minInterval : ∀ n, u.minInterval = some n →
      ∃ o, optionOf? os minIntervalName = some o ∧ o.Admits (shown n)
  maxInterval : ∀ n, u.maxInterval = some n →
      ∃ o, optionOf? os maxIntervalName = some o ∧ o.Admits (shown n)
  change : ∀ x, u.change = some x →
    x.isFinite = true ∧ ∃ o, optionOf? os changeName = some o ∧ o.Admits x
  pollingPeriod : ∀ n, u.pollingPeriod = some n →
      ∃ o, optionOf? os pollingName = some o ∧ o.Admits (shown n)

/-- An update in which some values of another, among them no change that is not finite,
are replaced by the nearest that their options admit. -/
structure Replaces (v : Update) (os : List EditableOption) (u : Update) : Prop where
  minInterval : Replaced os minIntervalName shown u.minInterval v.minInterval
  maxInterval : Replaced os maxIntervalName shown u.maxInterval v.maxInterval
  change : Replaced os changeName id u.change v.change
  finite : ∀ x, u.change = some x → v.change ≠ u.change → x.isFinite = true
  pollingPeriod : Replaced os pollingName shown u.pollingPeriod v.pollingPeriod

end Update

theorem toInt_of_shown {m : Int64} {k : Nat} (small : k < 2 ^ 53)
    (same : shown m = .ofNat k) : m.toInt = k := by
  have above := Binary64.le_rank_ofInt_iff (a := m.toInt) small
  have below := Binary64.rank_ofInt_le_iff (a := m.toInt) small
  have rank : (Binary64.ofInt m.toInt).rank = (Binary64.ofNat k).rank :=
    congrArg Binary64.rank same
  omega

section
variable {o : EditableOption} {low high : Nat} {n m : Int64}
variable (least : o.min = .ofNat low) (most : o.max = .ofNat high) (ordered : low ≤ high)
  (exact : high < 2 ^ 53)
include least most ordered exact

/-- An option for whole numbers admits those between its ends. -/
theorem between_of_admits (admits : o.Admits (shown n)) :
    (between low high n.toInt : Int) = n.toInt := by
  have above :=
    Binary64.le_rank_ofInt_iff (a := n.toInt) (Nat.lt_of_le_of_lt ordered exact)
  have below := Binary64.rank_ofInt_le_iff (a := n.toInt) exact
  have within : (low : Int) ≤ n.toInt ∧ n.toInt ≤ high := by
    simpa [EditableOption.Admits, Binary64.atMost_iff, least, most, shown, above, below]
      using admits
  simp only [between]
  omega

/-- A field of whole numbers whose option admits what is asked for is stored as asked
for. -/
theorem between_of_fits {os : List EditableOption} {name : String} {a : Option Int64}
    {stored : Nat}
    (fits : ∀ n, a = some n → ∃ o, optionOf? os name = some o ∧ o.Admits (shown n))
    (offered : optionOf? os name = some o) (kept : between low high stored = stored) :
    (between low high ((a.map Int64.toInt).getD stored) : Int) =
      (a.map Int64.toInt).getD stored := by
  cases asked : a with
  | none => exact congrArg Nat.cast kept
  | some n =>
      obtain ⟨o', found, admits⟩ := fits n asked
      obtain rfl := Option.some.inj (offered.symm.trans found)
      exact between_of_admits least most ordered exact admits

/-- Nothing is lost by moving a whole number to the end of the range that it is beyond. -/
theorem between_of_nearestEnd (ending : o.NearestEnd (shown n) (shown m)) :
    between low high m.toInt = between low high n.toInt := by
  have small := Nat.lt_of_le_of_lt ordered exact
  obtain ⟨under, same⟩ | ⟨exceeds, same⟩ := ending
  · have less : (Binary64.ofInt n.toInt).rank < (Binary64.ofNat low).rank :=
      least ▸ (Binary64.below_iff.mp under).2.2
    have above := Binary64.le_rank_ofInt_iff (a := n.toInt) small
    have moved := toInt_of_shown small (same.trans least)
    simp only [between]
    omega
  · have more : (Binary64.ofNat high).rank < (Binary64.ofInt n.toInt).rank :=
      most ▸ (Binary64.below_iff.mp exceeds).2.2
    have below := Binary64.rank_ofInt_le_iff (a := n.toInt) exact
    have moved := toInt_of_shown exact (same.trans most)
    simp only [between]
    omega

/-- A field of whole numbers is stored alike with the replacement. -/
theorem between_of_replaced {os : List EditableOption} {name : String}
    {a b : Option Int64} (replaced : Replaced os name shown a b)
    (offered : optionOf? os name = some o) (stored : Nat) :
    between low high ((b.map Int64.toInt).getD stored) =
      between low high ((a.map Int64.toInt).getD stored) := by
  cases replaced with
  | kept => rfl
  | moved found ending =>
      obtain rfl := Option.some.inj (offered.symm.trans found)
      exact between_of_nearestEnd least most ordered exact ending

end

theorem word_ofNat {n : Nat} (small : n < 2 ^ 53) : (word (.ofNat n)).toInt = n := by
  rw [word, Binary64.toIntRounded_ofNat small]
  exact Int64.toInt_ofInt_of_le (by omega) (by omega)

namespace Config
variable {c : Config} {within : Option ChangeBounds} {d : Defaults} {u v : Update}

theorem optionOf?_min (c : Config) :
    optionOf? c.options minIntervalName = some c.minIntervalOption :=
  rfl

theorem optionOf?_max (c : Config) :
    optionOf? c.options maxIntervalName = some c.maxIntervalOption :=
  rfl

theorem optionOf?_change (c : Config) :
    optionOf? c.options changeName = c.changeOption? := by
  simp only [optionOf?, options, changeOption?]
  split <;> rfl

theorem optionOf?_polling (c : Config) :
    optionOf? c.options pollingName = some c.pollingOption := by
  simp only [optionOf?, options, changeOption?]
  split <;> rfl

/-- A change that is measured has an option, with its bounds as the range. -/
theorem changeOption?_eq_some {o : EditableOption} (offered : c.changeOption? = some o) :
    ∃ b x, c.bounds = some b ∧ c.change = some x ∧ o.value = x ∧ o.min = b.low ∧
      o.max = b.high := by
  simp only [changeOption?] at offered
  split at offered
  · next b x bounds change =>
      cases offered
      exact ⟨b, x, bounds, change, rfl, rfl, rfl⟩
  · contradiction

theorem InRange.changeOption? (inRange : InRange within c) :
    c.changeOption?.map (·.value) = c.change := by
  cases measured : within with
  | none =>
      have bounds := inRange.bounds.trans measured
      simp [Config.changeOption?, bounds, inRange.unmeasured measured]
  | some b =>
      have bounds := inRange.bounds.trans measured
      obtain ⟨x, change, -⟩ := inRange.measured b measured
      simp [Config.changeOption?, bounds, change]

/-- Every option shows a value that it admits. -/
theorem InRange.admits (inRange : InRange within c) {o : EditableOption}
    (offered : o ∈ c.options) : o.Admits o.value := by
  have apart := inRange.apart
  have longest := inRange.longest
  have room := ceilings
  have whole {low n high : Nat} (above : low ≤ n) (below : n ≤ high)
      (exact : high < 2 ^ 53) :
      (Binary64.ofNat low).atMost (.ofNat n) = true ∧
      (Binary64.ofNat n).atMost (.ofNat high) = true :=
    ⟨(Binary64.atMost_ofNat (by omega)).mpr above,
      (Binary64.atMost_ofNat (by omega)).mpr below⟩
  simp only [options, List.cons_append, List.nil_append, List.mem_cons, List.mem_append,
    Option.mem_toList, List.not_mem_nil, or_false] at offered
  obtain rfl | rfl | measured | rfl := offered
  · exact whole (Nat.zero_le _) (by omega) (by decide)
  · exact whole (by simp only [maxIntervalFloor]; omega) longest (by decide)
  · obtain ⟨b, x, bounds, change, value, low, high⟩ := changeOption?_eq_some measured
    obtain ⟨y, same, within⟩ := inRange.measured b (inRange.bounds.symm.trans bounds)
    cases change.symm.trans same
    simpa only [EditableOption.Admits, value, low, high] using within
  · exact whole inRange.fastest inRange.slowest (by decide)

theorem shortest_shown (inRange : InRange within c) :
    (Update.ofOptions c.options).shortest c = c.minInterval := by
  have apart := inRange.apart
  have longest := inRange.longest
  have room := ceilings
  have here :
      (Update.ofOptions c.options).minInterval = some (word (.ofNat c.minInterval)) :=
    rfl
  rw [Update.shortest, here]
  exact word_ofNat
    (Nat.lt_of_le_of_lt (by omega) (by decide : maxIntervalCeiling < 2 ^ 53))

theorem longest_shown (inRange : InRange within c) :
    (Update.ofOptions c.options).longest c = c.maxInterval := by
  have here :
      (Update.ofOptions c.options).maxInterval = some (word (.ofNat c.maxInterval)) :=
    rfl
  rw [Update.longest, here]
  exact word_ofNat (Nat.lt_of_le_of_lt inRange.longest (by decide))

theorem period_shown (inRange : InRange within c) :
    (Update.ofOptions c.options).period c = c.pollingPeriod := by
  have here : (Update.ofOptions c.options).pollingPeriod =
      some (word (.ofNat c.pollingPeriod)) := by
    simp only [Update.ofOptions, optionOf?_polling]
    rfl
  rw [Update.period, here]
  exact word_ofNat (Nat.lt_of_le_of_lt inRange.slowest (by decide))

/-- What a configuration has for a change is one that it would take. -/
theorem InRange.changeAfter_self (inRange : InRange within c) :
    c.changeAfter c.change = c.change := by
  cases measured : within with
  | none => exact changeAfter_of_unmeasured (inRange.bounds.trans measured) _
  | some b =>
      obtain ⟨x, change, above, below⟩ := inRange.measured b measured
      rw [change]
      by_cases finite : x.isFinite = true
      · rw [changeAfter_of_finite (inRange.bounds.trans measured) finite,
          Binary64.clamp_of_between above below]
      · rw [changeAfter_of_not_finite finite, change]

/-- An update with the values that are shown keeps the configuration as it is. -/
theorem update_ofOptions (inRange : InRange within c) :
    c.update (.ofOptions c.options) = c := by
  have shortest : (c.update (.ofOptions c.options)).minInterval = c.minInterval := by
    rw [update_minInterval, shortest_shown inRange, inRange.min_eq]
  apply Config.ext
  · exact shortest
  · rw [update_maxInterval, longest_shown inRange, inRange.max_eq, shortest]
    exact Nat.max_eq_left inRange.apart
  · have shown : (Update.ofOptions c.options).change = c.change := by
      simp only [Update.ofOptions, optionOf?_change, inRange.changeOption?]
    change c.changeAfter (Update.ofOptions c.options).change = c.change
    rw [shown, inRange.changeAfter_self]
  · rfl
  · rw [update_pollingPeriod inRange, period_shown inRange, inRange.polling_eq]

/-- Values in range are stored as given, as long as the shortest time is below the
longest. -/
theorem update_of_fits (inRange : InRange within c) (fits : u.Fits c.options)
    (apart : u.shortest c < u.longest c) :
    ((c.update u).minInterval : Int) = u.shortest c ∧
    ((c.update u).maxInterval : Int) = u.longest c ∧
      (c.update u).change = u.change.or c.change ∧
      ((c.update u).pollingPeriod : Int) = u.period c := by
  have shortest : ((c.update u).minInterval : Int) = u.shortest c := by
    rw [update_minInterval]
    exact between_of_fits rfl rfl (Nat.zero_le _) (by decide) fits.minInterval
      (optionOf?_min c) inRange.min_eq
  have longest :
      (between maxIntervalFloor maxIntervalCeiling (u.longest c) : Int) = u.longest c :=
    between_of_fits rfl rfl (by decide) (by decide) fits.maxInterval
      (optionOf?_max c) inRange.max_eq
  have period : ((c.update u).pollingPeriod : Int) = u.period c := by
    rw [update_pollingPeriod inRange]
    exact between_of_fits rfl rfl (by decide) (by decide) fits.pollingPeriod
      (optionOf?_polling c) inRange.polling_eq
  refine ⟨shortest, ?_, ?_, period⟩
  · rw [update_maxInterval]
    omega
  · change c.changeAfter u.change = _
    cases asked : u.change with
    | none => exact changeAfter_none c
    | some x =>
        obtain ⟨finite, o, offered, above, below⟩ := fits.change x asked
        rw [optionOf?_change] at offered
        obtain ⟨b, y, measured, -, -, low, high⟩ := changeOption?_eq_some offered
        rw [low] at above
        rw [high] at below
        exact (changeAfter_of_finite measured finite).trans
          (congrArg some (Binary64.clamp_of_between above below))

/-- The change that is stored for the end of its range is the one that is stored for a
finite change beyond it. -/
theorem changeAfter_nearestEnd (inRange : InRange within c) {o : EditableOption}
    {x y : Binary64} (offered : c.changeOption? = some o) (ending : o.NearestEnd x y)
    (finite : x.isFinite = true) : c.changeAfter (some y) = c.changeAfter (some x) := by
  obtain ⟨b, z, measured, change, -, low, high⟩ := changeOption?_eq_some offered
  obtain ⟨z', change', above, below⟩ :=
    inRange.measured b (inRange.bounds.symm.trans measured)
  obtain rfl : z = z' := Option.some.inj (change.symm.trans change')
  have ordered := inRange.ordered measured
  have self {e : Binary64} (number : e.isNaN = false) : e.atMost e = true :=
    Binary64.atMost_iff.mpr ⟨number, number, Int.le_refl _⟩
  rw [EditableOption.NearestEnd, low, high] at ending
  rw [changeAfter_of_finite measured finite]
  by_cases whole : y.isFinite = true
  · rw [changeAfter_of_finite measured whole]
    obtain ⟨under, rfl⟩ | ⟨exceeds, rfl⟩ := ending
    · have number := (Binary64.below_iff.mp under).2.1
      rw [Binary64.clamp_of_below ordered under,
        Binary64.clamp_of_between (self number) ordered]
    · have number := (Binary64.below_iff.mp exceeds).1
      rw [Binary64.clamp_of_above ordered exceeds,
        Binary64.clamp_of_between ordered (self number)]
  -- an infinite end is passed over, and leaves a change that was there already
  · rw [changeAfter_of_not_finite whole, change]
    obtain ⟨under, rfl⟩ | ⟨exceeds, rfl⟩ := ending
    · rw [Binary64.clamp_of_below ordered under,
        Binary64.eq_of_infinite whole (.inl ⟨under, above⟩)]
    · rw [Binary64.clamp_of_above ordered exceeds,
        Binary64.eq_of_infinite whole (.inr ⟨exceeds, below⟩)]

theorem changeAfter_of_replaced (inRange : InRange within c) {a b : Option Binary64}
    (replaced : Replaced c.options changeName id a b)
    (finite : ∀ x, a = some x → b ≠ a → x.isFinite = true) :
    c.changeAfter b = c.changeAfter a := by
  cases replaced with
  | kept => rfl
  | @moved o x y offered ending =>
      by_cases same : some y = some x
      · rw [same]
      · rw [optionOf?_change] at offered
        exact changeAfter_nearestEnd inRange offered ending (finite x rfl same)

/-- Values out of range have the same effect as the nearest ends of their ranges. -/
theorem update_of_replaces (inRange : InRange within c)
    (replaces : v.Replaces c.options u) : c.update v = c.update u := by
  have shortest : (c.update v).minInterval = (c.update u).minInterval := by
    rw [update_minInterval, update_minInterval]
    exact between_of_replaced rfl rfl (by decide) (by decide) replaces.minInterval
      (optionOf?_min c) c.minInterval
  apply Config.ext
  · exact shortest
  · rw [update_maxInterval, update_maxInterval, shortest]
    have longest : between maxIntervalFloor maxIntervalCeiling (v.longest c) =
        between maxIntervalFloor maxIntervalCeiling (u.longest c) :=
      between_of_replaced rfl rfl (by decide) (by decide) replaces.maxInterval
        (optionOf?_max c) c.maxInterval
    rw [longest]
  · exact changeAfter_of_replaced inRange replaces.change replaces.finite
  · rfl
  · rw [update_pollingPeriod inRange, update_pollingPeriod inRange]
    exact between_of_replaced rfl rfl (by decide) (by decide) replaces.pollingPeriod
      (optionOf?_polling c) c.pollingPeriod

/-- Whatever a device class starts from and whatever users asked for so far, the options
that are offered are what an update goes by. Each shows a value that it admits, and an
update with all the values shown changes nothing. Values that their options admit are
stored as they are, unless the times cross, and what is not mentioned is left alone. A
value that its option does not admit has the same effect as the nearest that it does. -/
theorem options_agree_with_updates (d : Defaults)
    (numbers : ∀ b, d.change = some b → b.Numbers) :
    ∃ c₀, ofDefaults? d = some c₀ ∧ ∀ us : List Update,
      let c := us.foldl update c₀
      (∀ o ∈ c.options, o.Admits o.value) ∧
      (c.isChangedBy (.ofOptions c.options) = false ∧
        c.update (.ofOptions c.options) = c) ∧
      (∀ u : Update, u.Fits c.options → u.shortest c < u.longest c →
        ((c.update u).minInterval : Int) = u.shortest c ∧
        ((c.update u).maxInterval : Int) = u.longest c ∧
          (c.update u).change = u.change.or c.change ∧
          ((c.update u).pollingPeriod : Int) = u.period c) ∧
      ∀ u v : Update, v.Replaces c.options u → c.update v = c.update u := by
  obtain ⟨c₀, made, inRange⟩ := inRange_ofDefaults? numbers
  refine ⟨c₀, made, fun us => ?_⟩
  have reached := (inRange_updates inRange us).2
  have shown := update_ofOptions reached
  refine ⟨?_, ⟨?_, shown⟩, ?_, ?_⟩
  · intro o offered
    exact reached.admits offered
  · exact isChangedBy_of_update_eq reached (ChangeBounds.numbers_sorted numbers) shown
  · intro u fits apart
    exact update_of_fits reached fits apart
  · intro u v replaces
    exact update_of_replaces reached replaces

/-- A class whose changes are measured between one and a hundred. -/
def percent : Defaults where
  change := some ⟨.ofNat 1, .ofNat 1, .ofNat 100⟩

/-- Such a class, of which a longest time of none was asked. -/
def raised : Config := ((ofDefaults? percent).get rfl).update { maxInterval := some 0 }

/-- More than any device can do, and the most that one can. -/
def tooMuch : Update where
  minInterval := some 70000
  change := some (.ofNat 250)

def utmost : Update where
  minInterval := some 65534
  change := some (.ofNat 100)

def modest : Update where
  maxInterval := some 60
  pollingPeriod := some 15

theorem raised_takes_utmost :
    (∀ b, percent.change = some b → b.Numbers) ∧ utmost.Replaces raised.options tooMuch ∧
    modest.Fits raised.options ∧
      modest.shortest raised < modest.longest raised ∧ raised.maxInterval = 2 ∧
      raised.update utmost = raised.update tooMuch ∧
      (raised.update tooMuch).minInterval = 65534 ∧
      (raised.update modest).minInterval = 1 ∧
      ((raised.update modest).maxInterval : Int) = 60 := by
  have numbers : ∀ b, percent.change = some b → b.Numbers := by
    rintro _ ⟨⟩
    exact ⟨by decide, by decide, by decide⟩
  obtain ⟨c₀, made, agree⟩ := options_agree_with_updates percent numbers
  obtain ⟨-, -, stores, moves⟩ := agree [{ maxInterval := some 0 }]
  cases made
  have replaces : utmost.Replaces raised.options tooMuch := by
    refine ⟨.moved (o := raised.minIntervalOption) rfl ?_, .kept,
      .moved (o := raised.changeOption?.get rfl) rfl ?_, ?_, .kept⟩
    · exact .inr ⟨by decide, by decide⟩
    · exact .inr ⟨by decide, by decide⟩
    · rintro _ ⟨⟩ -
      decide
  have fits : modest.Fits raised.options := by
    refine ⟨nofun, ?_, nofun, ?_⟩
    · rintro _ ⟨⟩
      exact ⟨raised.maxIntervalOption, rfl, by decide, by decide⟩
    · rintro _ ⟨⟩
      exact ⟨raised.pollingOption, rfl, by decide, by decide⟩
  have apart : modest.shortest raised < modest.longest raised := by decide
  have stored := stores modest fits apart
  exact ⟨numbers, replaces, fits, apart, rfl, moves tooMuch utmost replaces, rfl,
    rfl, stored.2.1⟩

end Config
end Reporting
end MeshReadings
