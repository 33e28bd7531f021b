import MeshReadings.Cluster

/-!
The attributes that the bridge publishes as properties of a device's state, and how it
presents their values.
-/

namespace MeshReadings

inductive Encoding
  /-- The count is the published value times a fixed factor. -/
  | scaled (factor : Binary64)
  /-- Published in engineering units, with a scale only the device knows. -/
  | engineering
  /-- Published as a truth value. -/
  | flag
deriving DecidableEq

structure KnownAttribute where
  cluster : Cluster
  id : UInt16
  /-- Name in requests to configure reports. -/
  name : String
  /-- Name in state messages. -/
  property : String
  encoding : Encoding
deriving DecidableEq

namespace KnownAttribute

def measuredValueId : UInt16 := 0x0000

def occupancyId : UInt16 := 0x0000

def rmsVoltageId : UInt16 := 0x0505

def hundred : Binary64 := Binary64.ofNat 100

def table : List KnownAttribute :=
  [ ⟨.relativeHumidityMeasurement, measuredValueId, "measuredValue", "humidity",
      .scaled hundred⟩,
    ⟨.temperatureMeasurement, measuredValueId, "measuredValue", "temperature",
      .scaled hundred⟩,
    ⟨.electricalMeasurement, rmsVoltageId, "rmsVoltage", "voltage", .engineering⟩,
    ⟨.occupancySensing, occupancyId, "occupancy", "occupancy", .flag⟩ ]

def find? (cluster : Cluster) (id : UInt16) : Option KnownAttribute :=
  table.find? fun a => a.cluster = cluster && a.id == id

end KnownAttribute
end MeshReadings
