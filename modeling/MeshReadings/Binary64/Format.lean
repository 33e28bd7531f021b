import MeshReadings.Binary64.Shortest

/-!
Two ways to write a number: as shown to people, always positional, and as it stands in a
JSON text, with an exponent outside a middle range and a fraction part on whole numbers.
-/

namespace MeshReadings

structure NumberFormat where
  tie : Tie
  /-- Whether a number of this scientific exponent is written positionally. -/
  positional : Int → Bool
  /-- What follows the digits of a whole number. -/
  wholeMark : String

namespace NumberFormat

def display : NumberFormat := ⟨.up, fun _ => true, ""⟩

def json : NumberFormat := ⟨.even, fun e => -5 ≤ e && e < 16, ".0"⟩

def zeros (n : Nat) : String := String.ofList (List.replicate n '0')

/-- The text of `0.d₁d₂… * 10 ^ point` without exponent. -/
def writePositional (f : NumberFormat) (digits : String) (point : Int) : String :=
  let length : Int := digits.length
  if point ≤ 0 then "0." ++ zeros (-point).toNat ++ digits
  else if length ≤ point then digits ++ zeros (point - length).toNat ++ f.wholeMark
  else
    String.ofList (digits.toList.take point.toNat) ++ "." ++
      String.ofList (digits.toList.drop point.toNat)

def writeScientific (digits : String) (exponent : Int) : String :=
  let rest := String.ofList (digits.toList.drop 1)
  String.ofList (digits.toList.take 1) ++ (if rest.isEmpty then "" else "." ++ rest) ++
    (if exponent < 0 then "e-" else "e+") ++ toString exponent.natAbs

def write (f : NumberFormat) (x : Binary64) : String :=
  let d := x.shortest f.tie
  let digits := toString d.digits
  let point := digits.length + d.exponent
  let sign := if x.negative then "-" else ""
  if d.digits = 0 then sign ++ "0" ++ f.wholeMark
  else if f.positional (point - 1) then sign ++ f.writePositional digits point
  else sign ++ writeScientific digits (point - 1)

end NumberFormat

def Binary64.display (x : Binary64) : String :=
  if x.isNaN then "NaN"
  else if x.isInfinite then if x.negative then "-inf" else "inf"
  else NumberFormat.display.write x

end MeshReadings
