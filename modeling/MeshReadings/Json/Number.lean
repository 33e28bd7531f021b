import MeshReadings.Binary64.Rounding
import MeshReadings.Text.Digits

/-!
Numbers as JSON texts spell them. A whole number that fits sixty-four bits is exact. Any
other spelling becomes a 64-bit number in two steps: its leading digits as a sixty-four
bit significand, then one multiplication or division by a power of ten, so that the last
bit can differ from the nearest number's.
-/

namespace MeshReadings
namespace Json

/-- The parts of a number's spelling; digits are kept as they stand. -/
structure Spelling where
  negative : Bool
  whole : List Char
  fraction : Option (List Char)
  exponent : Option (Bool × List Char)

inductive Number
  | whole (n : Int)
  | real (x : Binary64)

namespace Spelling

/-- Leading digits as a number, and how many powers of ten the digits after them stand
for. -/
structure Significand where
  value : Nat
  scale : Int
  full : Bool

def fits (n : Nat) : Bool := n < UInt64.size

/-- A digit before the point. From the first digit that does not fit on, only the scale
grows. -/
def Significand.pushWhole (s : Significand) (c : Char) : Significand :=
  let next := s.value * 10 + Text.digitValue c
  if s.full then { s with scale := s.scale + 1 }
  else if fits next then { s with value := next }
  else { s with scale := s.scale + 1, full := true }

/-- A digit after the point. From the first digit that does not fit on, digits are
dropped. -/
def Significand.pushFraction (s : Significand) (c : Char) : Significand :=
  let next := s.value * 10 + Text.digitValue c
  if s.full then s
  else if fits next then { s with value := next, scale := s.scale - 1 }
  else { s with full := true }

def significand (s : Spelling) : Significand :=
  let whole := s.whole.foldl Significand.pushWhole ⟨0, 0, false⟩
  match s.fraction with
  | none => whole
  | some ds => ds.foldl Significand.pushFraction { whole with full := false }

/-- The significand times a power of ten. A power below the table is reached in steps; two
of them bring every significand to zero. -/
def scaled : Nat → Binary64 → Int → Option Binary64
  | 0, _, _ => some Binary64.zero
  | steps + 1, f, e =>
    if e.natAbs ≤ 308 then
      let power := Binary64.ofNat (Nat.pow 10 e.natAbs)
      if 0 ≤ e then
        let product := f.mul power
        if product.isInfinite then none else some product
      else some (f.div power)
    else if f.isZero then some f
    else if 0 ≤ e then none
    else scaled steps (f.div (Binary64.ofNat (Nat.pow 10 308))) (e + 308)

def largestExponent : Int := Int32.maxValue.toInt

/-- The number a spelling stands for, or nothing when it is too large. -/
def number? (s : Spelling) : Option Number :=
  let sig := s.significand
  let signed (x : Binary64) : Number := .real (if s.negative then x.neg else x)
  let finish (scale : Int) : Option Number :=
    (scaled 4 (Binary64.ofNat sig.value) scale).map signed
  match s.fraction, s.exponent with
  | none, none =>
    if sig.full then finish sig.scale
    else if !s.negative then some (.whole sig.value)
    else if sig.value = 0 ∨
      UInt64.size / 2 < sig.value then some (signed (Binary64.ofNat sig.value))
    else some (.whole (-sig.value))
  | _, none => finish sig.scale
  | _, some (negative, ds) =>
    let e := Text.number ds
    if largestExponent < e then
      if sig.value ≠ 0 ∧ !negative then none else some (signed Binary64.zero)
    else
      finish (max (-largestExponent - 1)
        (min largestExponent (if negative then sig.scale - e else sig.scale + e)))

end Spelling
end Json
end MeshReadings
