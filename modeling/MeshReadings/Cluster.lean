import MeshReadings.Json.Reader

/-!
The measurement clusters whose attributes are kept in sync, with their numbers and the
names by which settings and the bridge know them.
-/

namespace MeshReadings

inductive Cluster
  | temperatureMeasurement
  | relativeHumidityMeasurement
  | occupancySensing
  | electricalMeasurement
deriving DecidableEq, Inhabited

namespace Cluster

def all : List Cluster :=
  [temperatureMeasurement, relativeHumidityMeasurement, occupancySensing,
    electricalMeasurement]

def id : Cluster → UInt16
  | temperatureMeasurement => 0x0402
  | relativeHumidityMeasurement => 0x0405
  | occupancySensing => 0x0406
  | electricalMeasurement => 0x0B04

def name : Cluster → String
  | temperatureMeasurement => "temperature_measurement"
  | relativeHumidityMeasurement => "relative_humidity_measurement"
  | occupancySensing => "occupancy_sensing"
  | electricalMeasurement => "electrical_measurement"

/-- The name in requests to the bridge and in its device lists. -/
def bridgeName : Cluster → String
  | temperatureMeasurement => "msTemperatureMeasurement"
  | relativeHumidityMeasurement => "msRelativeHumidity"
  | occupancySensing => "msOccupancySensing"
  | electricalMeasurement => "haElectricalMeasurement"

def ofId? (n : UInt16) : Option Cluster := all.find? (·.id == n)

def ofName? (s : String) : Option Cluster := all.find? (·.name == s)

def reader : Json.Reader Cluster := Json.Reader.choice (all.map fun c => (c.name, c))

@[simp] theorem mem_all (c : Cluster) : c ∈ all := by cases c <;> decide

theorem id_injective {c d : Cluster} (h : c.id = d.id) : c = d := by
  revert h; cases c <;> cases d <;> decide

end Cluster
end MeshReadings
