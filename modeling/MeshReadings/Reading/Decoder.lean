import MeshReadings.Fault
import MeshReadings.Reading.Raw
import MeshReadings.Reading.Value

/-!
How raw values become readings. Of the decoders known here only whole counts are scaled; a
value that already comes in engineering units passes through unchanged. An engine may be
given any other.
-/

namespace MeshReadings

inductive Decoder
  /-- Hundredths of a percent. -/
  | humidity
  /-- Hundredths of a degree. -/
  | temperature
  /-- Counts times `multiplier / divisor` volts. -/
  | rmsVoltage (multiplier divisor : UInt32)
  /-- A bitmap whose lowest bit says occupied. -/
  | occupancy
  /-- Whatever an engine was given instead. -/
  | custom (read : Raw → Except Fault Value)

namespace Decoder

/-- The voltage decoder of a device. Unless both factors are given and neither is zero,
counts are volts. -/
def voltage (multiplier divisor : Option UInt32) : Decoder :=
  match multiplier, divisor with
  | some m, some d => if m ≠ 0 ∧ d ≠ 0 then rmsVoltage m d else rmsVoltage 1 1
  | _, _ => rmsVoltage 1 1

/-- The count by which a device marks a temperature it could not measure. -/
def invalidTemperature : Int := -0x8000

def expectInteger (raw : Raw) : Except Fault Int :=
  match raw.integer? with
  | some n => .ok n.toInt
  | none => .error (.decode ("expected integer, got " ++ raw.display))

def hundredths (n : Int) : Binary64 := (Binary64.ofInt n).div (Binary64.ofNat 100)

def decode : Decoder → Raw → Except Fault Value
  | humidity, .float x => .ok (.decimal x)
  | humidity, raw => do return .decimal (hundredths (← expectInteger raw))
  | temperature, .float x => .ok (.quantity x .celsius)
  | temperature, raw => do
    let n ← expectInteger raw
    if n = invalidTemperature then .error (.decode "temperature reading is invalid")
    else return .quantity (hundredths n) .celsius
  | rmsVoltage _ _, .float x => .ok (.quantity x .volt)
  | rmsVoltage m d, raw => do
    let n ← expectInteger raw
    return .quantity (((Binary64.ofInt n).mul (Binary64.ofNat m.toNat)).div
      (Binary64.ofNat d.toNat)) .volt
  | occupancy, .bool b => .ok (.onOff b)
  | occupancy, raw => do return .onOff ((← expectInteger raw) % 2 ≠ 0)
  | custom read, raw => read raw

end Decoder
end MeshReadings
