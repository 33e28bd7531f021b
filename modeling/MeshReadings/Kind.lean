import MeshReadings.Reading.Decoder
import MeshReadings.KnownAttribute
import MeshReadings.Key
import MeshReadings.Reporting.Options

/-!
The kinds of attribute that can be kept in sync. A kind settles everything in which
attributes differ: where they live, what reporting starts from, how often to poll without
reports, and how to decode.
-/

namespace MeshReadings

/-- Polling periods in seconds, for a device that was bound but refused to report and for
one that could not be bound at all. -/
structure PollingPolicy where
  normal : UInt32 := 7200
  high : UInt32 := 86400
deriving DecidableEq, Inhabited

namespace PollingPolicy

open Json.Reader in
def reader : Json.Reader PollingPolicy :=
  record "PollingPolicy"
    [ field "normal" true uint32 fun p v => { p with normal := v },
      field "high" true uint32 fun p v => { p with high := v } ]
    {}

def toJson (p : PollingPolicy) : Json :=
  .obj [("normal", .int p.normal.toNat), ("high", .int p.high.toNat)]

end PollingPolicy

inductive Kind
  | relativeHumidity
  | temperature
  | rmsVoltage
  | occupancy
deriving DecidableEq, Inhabited

namespace Kind

def all : List Kind := [relativeHumidity, temperature, rmsVoltage, occupancy]

def name : Kind → String
  | relativeHumidity => "relative_humidity"
  | temperature => "temperature"
  | rmsVoltage => "rms_voltage"
  | occupancy => "occupancy"

def ofName? (s : String) : Option Kind := all.find? (·.name == s)

def cluster : Kind → Cluster
  | relativeHumidity => .relativeHumidityMeasurement
  | temperature => .temperatureMeasurement
  | rmsVoltage => .electricalMeasurement
  | occupancy => .occupancySensing

def attributeId : Kind → UInt16
  | relativeHumidity | temperature => KnownAttribute.measuredValueId
  | rmsVoltage => KnownAttribute.rmsVoltageId
  | occupancy => KnownAttribute.occupancyId

/-- The change that triggers a report at first; it may be set between 1 and 100. -/
def changeBounds? : Kind → Option Reporting.ChangeBounds
  | relativeHumidity => bounds 1
  | temperature => bounds 10
  | rmsVoltage => bounds 5
  | occupancy => none
where
  bounds (n : Nat) : Option Reporting.ChangeBounds :=
    some ⟨Binary64.ofNat n, Binary64.ofNat 1, Binary64.ofNat 100⟩

def defaults (k : Kind) : Reporting.Defaults := { change := k.changeBounds? }

/-- Mains meters are polled slowly even when only reporting was refused. -/
def pollingPolicy : Kind → PollingPolicy
  | rmsVoltage => { normal := 86400, high := 86400 }
  | _ => {}

def decoder : Kind → Decoder
  | relativeHumidity => .humidity
  | temperature => .temperature
  | rmsVoltage => .voltage none none
  | occupancy => .occupancy

def reader : Json.Reader Kind := Json.Reader.choice (all.map fun k => (k.name, k))

end Kind
end MeshReadings
