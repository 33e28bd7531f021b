import MeshReadings.Binary64.Basic

/-!
The shortest decimal that reads back. For one, two, … seventeen digits the two neighbours
of the number on that decimal grid are compared with the interval of reals that round to
the number; the first grid with a neighbour inside wins, and of two neighbours the nearer.
-/

namespace MeshReadings

structure Decimal where
  digits : Nat
  exponent : Int
deriving DecidableEq

/-- Which neighbour is taken when the number lies exactly between the two. -/
inductive Tie
  | even
  | up
deriving DecidableEq

/-- How many decimal digits a natural number has; none for zero. -/
def decimalLength (n : Nat) : Nat :=
  if h : n = 0 then 0 else decimalLength (n / 10) + 1
termination_by n
decreasing_by omega

/-- Drops trailing zeros of the digits. -/
def Decimal.strip : Nat → Decimal → Decimal
  | 0, d => d
  | k + 1, d =>
    if d.digits % 10 = 0 ∧ d.digits ≠ 0 then strip k ⟨d.digits / 10, d.exponent + 1⟩
    else d

namespace Binary64

/-- A positive number between the ends of the interval that rounds to it, all in quarters
of its unit. -/
structure Span where
  low : Nat
  value : Nat
  high : Nat
  closed : Bool

def span (x : Binary64) : Span :=
  let m := x.significand
  ⟨4 * m - (if m = Nat.pow 2 52 ∧ 1 < x.field then 1 else 2), 4 * m, 4 * m + 2, m % 2 = 0⟩

/-- The least `k` with the number below `10 ^ k`. -/
def decimalPoint (num den : Nat) : Int :=
  if den ≤ num then decimalLength (num / den)
  else 1 - (decimalLength ((den + num - 1) / num - 1) : Int)

/-- The neighbour on the grid of multiples of `10 ^ p` that reads back, if there is
one. -/
def onGrid (tie : Tie) (x : Binary64) (p : Int) : Option Decimal :=
  let e := x.exponent - 2
  let scale := Nat.pow 2 e.toNat * Nat.pow 10 (-p).toNat
  let step := Nat.pow 2 (-e).toNat * Nat.pow 10 p.toNat
  let s := x.span
  let d := s.value * scale / step
  let inside (c : Nat) : Bool :=
    (s.low * scale < c * step && c * step < s.high * scale) ||
      (s.closed && (c * step == s.low * scale || c * step == s.high * scale))
  let beneath := s.value * scale - d * step
  let above := (d + 1) * step - s.value * scale
  let upper := above < beneath || (above == beneath && (tie = .up || d % 2 = 1))
  match inside d, inside (d + 1) with
  | false, false => none
  | true, false => some ⟨d, p⟩
  | false, true => some ⟨d + 1, p⟩
  | true, true => some ⟨if upper then d + 1 else d, p⟩

/-- The shortest decimal that reads back as the finite number `x`, sign aside. -/
def shortest (tie : Tie) (x : Binary64) : Decimal :=
  if x.magnitude = 0 then ⟨0, 0⟩ else
    let k :=
      decimalPoint (x.significand * Nat.pow 2 x.exponent.toNat)
        (Nat.pow 2 (-x.exponent).toNat)
    let grids := (List.range 17).map fun (n : Nat) => k - (n + 1 : Nat)
    ((grids.findSome? (onGrid tie x)).getD ⟨0, 0⟩).strip 17

end Binary64
end MeshReadings
