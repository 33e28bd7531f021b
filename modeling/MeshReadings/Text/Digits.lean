/-!
Natural numbers and integers as decimal and hexadecimal text. Reading the digits of a
number gives it back.
-/

namespace MeshReadings
namespace Text

def digitChar (d : Nat) : Char := Char.ofNat (48 + d)

def digitValue (c : Char) : Nat := c.toNat - 48

/-- The decimal digits, most significant first; zero is written `0`. -/
def digits (n : Nat) : List Char :=
  if n < 10 then [digitChar n] else digits (n / 10) ++ [digitChar (n % 10)]
termination_by n
decreasing_by omega

def number (cs : List Char) : Nat := cs.foldl (fun n c => n * 10 + digitValue c) 0

def integer (n : Int) : List Char :=
  if n < 0 then '-' :: digits n.natAbs else digits n.natAbs

def hexDigit (upper : Bool) (d : Nat) : Char :=
  if d < 10 then Char.ofNat (48 + d) else Char.ofNat ((if upper then 55 else 87) + d)

/-- The last `width` hexadecimal digits. -/
def hex (upper : Bool) : Nat → Nat → List Char
  | 0, _ => []
  | width + 1, n => hex upper width (n / 16) ++ [hexDigit upper (n % 16)]

/-- Hexadecimal digits without leading zeros. -/
def hexShort (n : Nat) : List Char :=
  match (hex false 8 n).dropWhile (· == '0') with
  | [] => ['0']
  | ds => ds

theorem digitValue_digitChar {d : Nat} (h : d < 10) : digitValue (digitChar d) = d := by
  have all : ∀ d < 10, digitValue (digitChar d) = d := by decide
  exact all d h

theorem number_digits (n : Nat) : number (digits n) = n := by
  rw [digits]
  split
  · simp [number, digitValue_digitChar (by assumption)]
  · have ih := number_digits (n / 10)
    simp only [number, List.foldl_append, List.foldl_cons, List.foldl_nil] at ih ⊢
    rw [ih, digitValue_digitChar (by omega)]
    omega
termination_by n
decreasing_by omega

end Text
end MeshReadings
