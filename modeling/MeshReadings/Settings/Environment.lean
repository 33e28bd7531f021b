import MeshReadings.Text.Digits

/-!
Environments: variables with their values, of which the first assignment counts. Some
settings may be given there; a number that cannot be read counts as not given.
-/

namespace MeshReadings

abbrev Environment := List (String × String)

namespace Environment

def get? (env : Environment) (name : String) : Option String :=
  (env.find? (·.1 == name)).map (·.2)

def isDecimal (cs : List Char) : Bool := !cs.isEmpty && cs.all fun c => '0' ≤ c && c ≤ '9'

/-- A natural number up to a bound, in decimal digits after an optional plus sign. -/
def number? (bound : Nat) (s : String) : Option Nat :=
  let digits := match s.toList with
    | '+' :: cs => cs
    | cs => cs
  if isDecimal digits && Text.number digits ≤ bound then some (Text.number digits)
  else none

def getNumber? (env : Environment) (name : String) (bound : Nat) : Option Nat :=
  (env.get? name).bind (number? bound)

end Environment
end MeshReadings
