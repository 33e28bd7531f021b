import Mathlib.Algebra.Group.Nat.Defs
import MeshReadings.Binary64.Rounding

/-!
Whole numbers in the 64-bit format. One below `2 ^ 53` loses nothing: it reads back as it
was, and among all whole numbers, also those that are rounded, it keeps its place.
-/

namespace MeshReadings
namespace Binary64

section
variable {m n : Nat}

theorem nearest_one (n : Nat) : nearest n 1 = n := by
  simp [nearest, Nat.mod_one]

theorem div_le_nearest (num den : Nat) : num / den ≤ nearest num den := by
  simp only [nearest]
  repeat' split
  all_goals omega

theorem ratioLog_one (some : n ≠ 0) : ratioLog n 1 = n.log2 := by
  have none : Nat.log2 1 = 0 := rfl
  have reached := Nat.log2_self_le some
  simp [ratioLog, none, Nat.not_lt.mpr reached]

theorem ofNat_negative (n : Nat) : (ofNat n).negative = false := by
  simp only [ofNat, ofRatio]
  split <;> rfl

theorem ofInt_eq (a : Int) : ofInt a = ⟨decide (a < 0), (ofNat a.natAbs).magnitude⟩ := by
  simp only [ofInt, ofNat, ofRatio]
  split <;> rfl

/-- The exponent bits stand above those of the significand, which may be rounded. -/
theorem magnitude_ofNat (some : n ≠ 0) :
    (ofNat n).magnitude =
      min ((n.log2 + 1022) * 2 ^ 52 + nearest (n * 2 ^ (52 - n.log2)) (2 ^ (n.log2 - 52)))
        infiniteMagnitude := by
  have unit : max (-1074) ((n.log2 : Int) - 52) = n.log2 - 52 := by omega
  have up : (-((n.log2 : Int) - 52)).toNat = 52 - n.log2 := by omega
  have down : ((n.log2 : Int) - 52).toNat = n.log2 - 52 := by omega
  have place : ((n.log2 : Int) - 52 + 1074).toNat = n.log2 + 1022 := by omega
  have given : ¬(n = 0 ∨ 1 = 0) := by simp [some]
  rw [ofNat, ofRatio, if_neg given]
  simp only [ratioLog_one some, unit, up, down, place, Nat.pow_eq, Nat.one_mul]

theorem log2_le (small : n < 2 ^ 53) : n.log2 ≤ 52 := by
  by_cases zero : n = 0
  · subst zero
    decide
  · have := (Nat.log2_lt zero).mpr small
    omega

/-- A whole number moved up to where its significand has fifty-three bits. -/
theorem moved_up (some : n ≠ 0) (small : n < 2 ^ 53) :
    2 ^ 52 ≤ n * 2 ^ (52 - n.log2) ∧ n * 2 ^ (52 - n.log2) < 2 ^ 53 := by
  have fits := log2_le small
  have least : 2 ^ n.log2 * 2 ^ (52 - n.log2) ≤ n * 2 ^ (52 - n.log2) :=
    Nat.mul_le_mul_right _ (Nat.log2_self_le some)
  have most : n * 2 ^ (52 - n.log2) < 2 ^ (n.log2 + 1) * 2 ^ (52 - n.log2) :=
    Nat.mul_lt_mul_of_pos_right Nat.lt_log2_self (Nat.two_pow_pos _)
  rw [← Nat.pow_add] at least most
  rw [show n.log2 + (52 - n.log2) = 52 by omega] at least
  rw [show n.log2 + 1 + (52 - n.log2) = 53 by omega] at most
  exact ⟨least, most⟩

theorem magnitude_of_small (some : n ≠ 0) (small : n < 2 ^ 53) :
    (ofNat n).magnitude = (n.log2 + 1022) * 2 ^ 52 + n * 2 ^ (52 - n.log2) := by
  have fits := log2_le small
  have bound := (moved_up some small).2
  have below : (n.log2 + 1022) * 2 ^ 52 + n * 2 ^ (52 - n.log2) ≤ infiniteMagnitude := by
    simp only [infiniteMagnitude]
    omega
  rw [magnitude_ofNat some, show n.log2 - 52 = 0 by omega, Nat.pow_zero, nearest_one,
    Nat.min_eq_left below]

theorem magnitude_of_large (large : 2 ^ 53 ≤ n) :
    1076 * 2 ^ 52 ≤ (ofNat n).magnitude := by
  have some : n ≠ 0 := by omega
  have high : 53 ≤ n.log2 := (Nat.le_log2 some).mpr large
  have whole : 2 ^ 52 ≤ n / 2 ^ (n.log2 - 52) := by
    rw [Nat.le_div_iff_mul_le (Nat.two_pow_pos _), ← Nat.pow_add,
      show 52 + (n.log2 - 52) = n.log2 by omega]
    exact Nat.log2_self_le some
  have rounded := div_le_nearest n (2 ^ (n.log2 - 52))
  rw [magnitude_ofNat some, show 52 - n.log2 = 0 by omega, Nat.pow_zero, Nat.mul_one]
  simp only [infiniteMagnitude]
  omega

theorem magnitude_lt_of_small (small : m < 2 ^ 53) :
    (ofNat m).magnitude < 1076 * 2 ^ 52 := by
  by_cases zero : m = 0
  · subst zero
    decide
  · have fits := log2_le small
    have bound := (moved_up zero small).2
    rw [magnitude_of_small zero small]
    omega

theorem log2_mono (some : m ≠ 0) (less : m ≤ n) : m.log2 ≤ n.log2 :=
  (Nat.le_log2 (by omega)).mpr (Nat.le_trans (Nat.log2_self_le some) less)

/-- A whole number that is kept exactly stands below every larger one. -/
theorem magnitude_lt (small : m < 2 ^ 53) (less : m < n) :
    (ofNat m).magnitude < (ofNat n).magnitude := by
  by_cases large : 2 ^ 53 ≤ n
  · exact Nat.lt_of_lt_of_le (magnitude_lt_of_small small) (magnitude_of_large large)
  · have some : n ≠ 0 := by omega
    have small' : n < 2 ^ 53 := by omega
    have lower := (moved_up some small').1
    rw [magnitude_of_small some small']
    by_cases zero : m = 0
    · subst zero
      have nothing : (ofNat 0).magnitude = 0 := rfl
      omega
    · have upper := (moved_up zero small).2
      rw [magnitude_of_small zero small]
      obtain same | apart := Nat.eq_or_lt_of_le (log2_mono zero (Nat.le_of_lt less))
      · rw [same]
        exact Nat.add_lt_add_left (Nat.mul_lt_mul_of_pos_right less (Nat.two_pow_pos _)) _
      · omega

theorem magnitude_pos (some : n ≠ 0) : 0 < (ofNat n).magnitude :=
  magnitude_lt (m := 0) (by decide) (Nat.pos_of_ne_zero some)

theorem magnitude_le (n : Nat) : (ofNat n).magnitude ≤ infiniteMagnitude := by
  by_cases zero : n = 0
  · subst zero
    decide
  · rw [magnitude_ofNat zero]
    exact Nat.min_le_right _ _

@[simp] theorem isNaN_ofNat (n : Nat) : (ofNat n).isNaN = false :=
  decide_eq_false (Nat.not_lt.mpr (magnitude_le n))

@[simp] theorem isNaN_ofInt (a : Int) : (ofInt a).isNaN = false := by
  rw [ofInt_eq]
  exact isNaN_ofNat a.natAbs

theorem rank_ofNat (n : Nat) : (ofNat n).rank = (ofNat n).magnitude := by
  simp [rank, ofNat_negative]

theorem rank_ofInt (a : Int) :
    (ofInt a).rank = if a < 0 then -((ofNat a.natAbs).magnitude : Int)
      else (ofNat a.natAbs).magnitude := by
  simp [rank, ofInt_eq]

theorem magnitude_le_iff (small : m < 2 ^ 53) :
    (ofNat n).magnitude ≤ (ofNat m).magnitude ↔ n ≤ m := by
  constructor
  · intro within
    refine Nat.le_of_not_lt fun beyond => ?_
    have := magnitude_lt small beyond
    omega
  · intro within
    obtain rfl | less := Nat.eq_or_lt_of_le within
    · exact Nat.le_refl _
    · exact Nat.le_of_lt (magnitude_lt (by omega) less)

theorem le_magnitude_iff (small : m < 2 ^ 53) :
    (ofNat m).magnitude ≤ (ofNat n).magnitude ↔ m ≤ n := by
  constructor
  · intro within
    refine Nat.le_of_not_lt fun beyond => ?_
    have := magnitude_lt (Nat.lt_trans beyond small) beyond
    omega
  · intro within
    obtain rfl | less := Nat.eq_or_lt_of_le within
    · exact Nat.le_refl _
    · exact Nat.le_of_lt (magnitude_lt small less)

theorem rank_ofInt_le_iff {a : Int} (small : m < 2 ^ 53) :
    (ofInt a).rank ≤ (ofNat m).rank ↔ a ≤ m := by
  have whole := magnitude_le_iff (n := a.natAbs) small
  rw [rank_ofInt, rank_ofNat]
  split <;> omega

theorem le_rank_ofInt_iff {a : Int} (small : m < 2 ^ 53) :
    (ofNat m).rank ≤ (ofInt a).rank ↔ (m : Int) ≤ a := by
  have whole := le_magnitude_iff (n := a.natAbs) small
  rw [rank_ofInt, rank_ofNat]
  split
  · next negative =>
      have some := magnitude_pos (n := a.natAbs) (by omega)
      omega
  · omega

theorem atMost_ofNat (small : m < 2 ^ 53) :
    (ofNat m).atMost (ofNat n) = true ↔ m ≤ n := by
  simp [atMost, rank_ofNat, le_magnitude_iff small]

/-- A whole number is given back by rounding. -/
theorem toIntRounded_ofNat (small : n < 2 ^ 53) : (ofNat n).toIntRounded = n := by
  by_cases zero : n = 0
  · subst zero
    decide +kernel
  · have fits := log2_le small
    obtain ⟨lower, upper⟩ := moved_up zero small
    have magnitude := magnitude_of_small zero small
    have field : (ofNat n).field = n.log2 + 1023 := by
      simp only [Binary64.field, magnitude, Nat.pow_eq]
      omega
    have significand : (ofNat n).significand = n * 2 ^ (52 - n.log2) := by
      rw [Binary64.significand, if_neg (by omega), magnitude, Nat.pow_eq]
      omega
    have exponent : (ofNat n).exponent = (n.log2 : Int) - 52 := by
      simp only [Binary64.exponent, field]
      omega
    simp only [toIntRounded, isNaN_ofNat, ofNat_negative, exponent, significand,
      Nat.pow_eq, Bool.false_eq_true, if_false, Int.natCast_inj]
    split
    · next last =>
        rw [show n.log2 = 52 by omega]
        simp
    · next more =>
        have shift : (-((n.log2 : Int) - 52)).toNat = 52 - n.log2 := by omega
        have doubled : 2 * (n * 2 ^ (52 - n.log2)) = n * 2 ^ (52 - n.log2 + 1) := by
          rw [Nat.pow_succ, Nat.mul_comm, Nat.mul_assoc]
        have half : 2 ^ (52 - n.log2) < 2 ^ (52 - n.log2 + 1) :=
          Nat.pow_lt_pow_right (by decide) (Nat.lt_succ_self _)
        rw [shift, doubled, Nat.add_comm, Nat.add_mul_div_right _ _ (Nat.two_pow_pos _),
          Nat.div_eq_of_lt half, Nat.zero_add]

end

end Binary64
end MeshReadings
