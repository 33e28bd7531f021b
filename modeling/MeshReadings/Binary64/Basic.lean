/-!
Numbers of the 64-bit binary format, kept as a sign and the other sixty-three bits read as
a natural number. Among numbers of one sign the larger magnitude is the larger number, so
order and equality of numbers are those of integers; what lies above the infinities is not
a number and equal to nothing.
-/

namespace MeshReadings

structure Binary64 where
  negative : Bool
  magnitude : Nat
deriving DecidableEq, Inhabited

namespace Binary64

def infiniteMagnitude : Nat := 0x7FF0000000000000

def zero : Binary64 := ⟨false, 0⟩

def infinity (negative : Bool) : Binary64 := ⟨negative, infiniteMagnitude⟩

def notANumber : Binary64 := ⟨false, infiniteMagnitude + Nat.pow 2 51⟩

def isNaN (x : Binary64) : Bool := infiniteMagnitude < x.magnitude

def isInfinite (x : Binary64) : Bool := x.magnitude == infiniteMagnitude

def isFinite (x : Binary64) : Bool := x.magnitude < infiniteMagnitude

/-- Place in the order of numbers. Both zeros stand at 0. -/
def rank (x : Binary64) : Int := if x.negative then -(x.magnitude : Int) else x.magnitude

/-- Numeric equality: the zeros are equal and nothing equals what is not a number. -/
def same (x y : Binary64) : Bool := !x.isNaN && !y.isNaN && x.rank == y.rank

def below (x y : Binary64) : Bool := !x.isNaN && !y.isNaN && x.rank < y.rank

def atMost (x y : Binary64) : Bool := !x.isNaN && !y.isNaN && x.rank ≤ y.rank

def neg (x : Binary64) : Binary64 := ⟨!x.negative, x.magnitude⟩

/-- The eleven exponent bits. -/
def field (x : Binary64) : Nat := x.magnitude / Nat.pow 2 52

/-- A finite number is `significand * 2 ^ exponent`, up to sign. -/
def significand (x : Binary64) : Nat :=
  if x.field = 0 then x.magnitude else x.magnitude % Nat.pow 2 52 + Nat.pow 2 52

def exponent (x : Binary64) : Int := (max x.field 1 : Nat) - 1075

def toBits (x : Binary64) : Nat := (if x.negative then Nat.pow 2 63 else 0) + x.magnitude

/-- The nearest number between two bounds. The bounds must be ordered. -/
def clamp (x lo hi : Binary64) : Binary64 :=
  let raised := if x.below lo then lo else x
  if hi.below raised then hi else raised

@[simp] theorem same_self {x : Binary64} (h : x.isNaN = false) : x.same x = true := by
  simp [same, h]

theorem same_comm (x y : Binary64) : x.same y = y.same x := by
  simp only [same, Bool.and_comm, Bool.beq_comm]

end Binary64

end MeshReadings
