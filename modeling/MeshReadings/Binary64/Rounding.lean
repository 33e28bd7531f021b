import MeshReadings.Binary64.Basic

/-!
Exact ratios rounded to the nearest 64-bit number, ties to the even significand, and the
arithmetic that is one exact operation followed by one rounding.
-/

namespace MeshReadings
namespace Binary64

/-- The integer nearest to a ratio, the even one of two. -/
def nearest (num den : Nat) : Nat :=
  let q := num / den
  let twice := 2 * (num % den)
  if twice < den then q else if den < twice then q + 1 else if q % 2 = 0 then q else q + 1

def ratioLog (num den : Nat) : Int :=
  let l : Int := (num.log2 : Int) - den.log2
  if num * Nat.pow 2 (-l).toNat < den * Nat.pow 2 l.toNat then l - 1 else l

/-- The number nearest to `num / den`. The unit is chosen so that the significand has
fifty-three bits, or as many as the smallest unit leaves; a carry out of the significand
runs into the exponent bits above it. -/
def ofRatio (negative : Bool) (num den : Nat) : Binary64 :=
  if num = 0 ∨ den = 0 then ⟨negative, 0⟩ else
    let unit := max (-1074) (ratioLog num den - 52)
    let s := nearest (num * Nat.pow 2 (-unit).toNat) (den * Nat.pow 2 unit.toNat)
    ⟨negative, min ((unit + 1074).toNat * Nat.pow 2 52 + s) infiniteMagnitude⟩

def ofNat (n : Nat) : Binary64 := ofRatio false n 1

def ofInt (n : Int) : Binary64 := ofRatio (n < 0) n.natAbs 1

/-- The number nearest to `digits * 10 ^ exponent`. Exponents beyond every number of the
format are recognised before the power is formed. -/
def ofDecimal (negative : Bool) (digits : Nat) (exponent : Int) : Binary64 :=
  if digits = 0 then ⟨negative, 0⟩
  else if 400 < exponent then infinity negative
  else if exponent < -(400 + (digits.log2 : Int)) then ⟨negative, 0⟩
  else ofRatio negative (digits * Nat.pow 10 exponent.toNat)
    (Nat.pow 10 (-exponent).toNat)

def isZero (x : Binary64) : Bool := x.magnitude == 0

def mul (x y : Binary64) : Binary64 :=
  let negative := x.negative != y.negative
  if x.isNaN || y.isNaN then notANumber
  else if x.isInfinite || y.isInfinite then
    if x.isZero || y.isZero then notANumber else infinity negative
  else
    let e := x.exponent + y.exponent
    ofRatio negative (x.significand * y.significand * Nat.pow 2 e.toNat)
      (Nat.pow 2 (-e).toNat)

def div (x y : Binary64) : Binary64 :=
  let negative := x.negative != y.negative
  if x.isNaN || y.isNaN then notANumber
  else if x.isInfinite then
    if y.isInfinite then notANumber else infinity negative
  else if y.isInfinite then ⟨negative, 0⟩
  else if y.isZero then
    if x.isZero then notANumber else infinity negative
  else
    let e := x.exponent - y.exponent
    ofRatio negative (x.significand * Nat.pow 2 e.toNat)
      (y.significand * Nat.pow 2 (-e).toNat)

/-- The nearest integer, a half going away from zero. An infinity gives an integer beyond
every word. -/
def toIntRounded (x : Binary64) : Int :=
  let n :=
    if 0 ≤ x.exponent then x.significand * Nat.pow 2 x.exponent.toNat
    else (2 * x.significand + Nat.pow 2 (-x.exponent).toNat) /
      Nat.pow 2 ((-x.exponent).toNat + 1)
  if x.isNaN then 0 else if x.negative then -(n : Int) else n

example : ofNat 1 = ⟨false, 0x3FF0000000000000⟩ := by decide
example : ofDecimal false 555 (-1) = ⟨false, 0x404BC00000000000⟩ := by decide
example : ofDecimal false 5 (-324) = ⟨false, 1⟩ := by decide +kernel

end Binary64
end MeshReadings
