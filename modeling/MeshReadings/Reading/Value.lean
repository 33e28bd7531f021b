import MeshReadings.Json.Basic

/-!
Decoded readings as channels carry them: plain decimals, quantities with a unit, switches
and texts.
-/

namespace MeshReadings

inductive UnitOfMeasure
  | volt
  | celsius
deriving DecidableEq

def UnitOfMeasure.symbol : UnitOfMeasure → String
  | volt => "V"
  | celsius => "°C"

def UnitOfMeasure.name : UnitOfMeasure → String
  | volt => "Volt"
  | celsius => "Celsius"

inductive Value
  | decimal (x : Binary64)
  | quantity (x : Binary64) (unit : UnitOfMeasure)
  | onOff (on : Bool)
  | text (s : String)
deriving DecidableEq

namespace Value

def display : Value → String
  | decimal x => x.display
  | quantity x u => x.display ++ " " ++ u.symbol
  | onOff true => "ON"
  | onOff false => "OFF"
  | text s => s

def toJson : Value → Json
  | decimal x => .num x
  | quantity x u => .obj [("value", .num x), ("unit", .str u.name)]
  | onOff b => .bool b
  | text s => .str s

/-- Equality of readings compares numbers numerically, so a reading that is not a number
equals none. -/
def same : Value → Value → Bool
  | decimal x, decimal y => x.same y
  | quantity x u, quantity y v => x.same y && u = v
  | onOff a, onOff b => a == b
  | text s, text t => s == t
  | _, _ => false

end Value
end MeshReadings
