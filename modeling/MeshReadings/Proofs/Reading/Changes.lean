import MeshReadings.Reading.Value

/-!
The values of a list that differ from the one right before them. Equality of values is
symmetric, and transitive wherever it holds at all, so a value repeats its neighbour
exactly when it repeats whatever the neighbour repeats.
-/

namespace MeshReadings

theorem Binary64.same_trans {x y z : Binary64} (first : x.same y = true)
    (second : y.same z = true) : x.same z = true := by
  simp only [Binary64.same, Bool.and_eq_true, beq_iff_eq] at first second ⊢
  exact ⟨⟨first.1.1, second.1.2⟩, first.2.trans second.2⟩

namespace Value

theorem same_comm (v w : Value) : v.same w = w.same v := by
  cases v <;> cases w <;> simp only [same, Bool.beq_comm, Binary64.same_comm]
  next x u y u' =>
    rw [Binary64.same_comm]
    simp only [eq_comm]

theorem same_trans {u v w : Value} (first : u.same v = true) (second : v.same w = true) :
    u.same w = true := by
  cases u <;> cases v <;> simp only [same, Bool.false_eq_true] at first <;>
    cases w <;> simp only [same, Bool.false_eq_true] at second ⊢
  next x y z => exact Binary64.same_trans first second
  next x u y u' z u'' =>
    simp only [Bool.and_eq_true, decide_eq_true_eq] at first second ⊢
    exact ⟨Binary64.same_trans first.1 second.1, first.2.trans second.2⟩
  all_goals
    simp only [beq_iff_eq] at first second ⊢
    exact first.trans second

/-- Equal values equal the same values. -/
theorem same_congr {u v : Value} (same : u.same v = true) (w : Value) :
    u.same w = v.same w := by
  apply Bool.eq_iff_iff.mpr
  constructor
  · intro left
    exact same_trans (v.same_comm u ▸ same) left
  · intro right
    exact same_trans same right

/-- Whether a value equals the one before it, if there is one. -/
def repeats (v : Value) (last? : Option Value) : Bool := last?.any (·.same v)

def changesAfter (last? : Option Value) : List Value → List Value
  | [] => []
  | v :: vs =>
      if v.repeats last? then changesAfter (some v) vs else v :: changesAfter (some v) vs

/-- Leaves out every value that equals the one right before it. -/
def changes (vs : List Value) : List Value := changesAfter none vs

theorem changesAfter_snoc (last? : Option Value) (vs : List Value) (v : Value) :
    changesAfter last? (vs ++ [v]) =
      changesAfter last? vs ++ if v.repeats (vs.getLast?.or last?) then [] else [v] := by
  induction vs generalizing last? with
  | nil => rfl
  | cons w vs ih =>
      have last : ((w :: vs).getLast?).or last? = vs.getLast?.or (some w) := by
        rw [List.getLast?_cons]
        cases vs.getLast? <;> rfl
      simp only [List.cons_append, changesAfter, ih, last]
      split <;> rfl

theorem changes_snoc (vs : List Value) (v : Value) :
    changes (vs ++ [v]) = changes vs ++ if v.repeats vs.getLast? then [] else [v] := by
  simp only [changes, changesAfter_snoc, Option.or_none]

/-- What is not a number never repeats itself, and a zero repeats the other one. -/
example :
    changes [.decimal .zero, .decimal (.neg .zero), .decimal .notANumber,
      .decimal .notANumber] =
      [.decimal .zero, .decimal .notANumber, .decimal .notANumber] := by decide

end Value
end MeshReadings
