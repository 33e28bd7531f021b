import MeshReadings.KnownAttribute

/-!
Attribute values as a gateway delivers them, before any decoding. A value the bridge
publishes is turned back into the count the device sent where the scale is fixed, and kept
as published where it is not.
-/

namespace MeshReadings

inductive Raw
  /-- A count as the device sends it. -/
  | integer (n : Int64)
  /-- A value already in engineering units. -/
  | float (x : Binary64)
  | bool (b : Bool)
  | text (s : String)
deriving DecidableEq

namespace Raw

def display : Raw → String
  | integer n => String.ofList (Text.integer n.toInt)
  | float x => x.display
  | bool b => String.ofList (Json.boolText b)
  | text s => Text.quoted s

def integer? : Raw → Option Int64
  | integer n => some n
  | _ => none

/-- The nearest sixty-four bit integer, an integer beyond them going to the nearer end. -/
def saturated (n : Int) : Int64 :=
  Int64.ofInt (max Int64.minValue.toInt (min Int64.maxValue.toInt n))

def jsonNumber? : Json → Option Binary64
  | .int n => some (Binary64.ofInt n)
  | .num x => some x
  | _ => none

/-- The raw value behind a published property. -/
def ofProperty? (value : Json) (encoding : Encoding) : Option Raw :=
  match value, encoding with
  | .bool b, _ => some (.bool b)
  | .str s, _ => some (.text s)
  | .int n, .flag =>
      if n ≤ Int64.maxValue.toInt then some (.integer (Int64.ofInt n)) else none
  | v, .scaled factor =>
      (jsonNumber? v).map fun x => .integer (saturated (x.mul factor).toIntRounded)
  | v, .engineering => (jsonNumber? v).map .float
  | _, .flag => none

end Raw
end MeshReadings
