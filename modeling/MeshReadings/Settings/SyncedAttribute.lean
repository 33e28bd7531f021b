import MeshReadings.Engine.Basic

/-!
The settings of one attribute to keep in sync: its channel, where it lives, and what
differs from the defaults of its kind.
-/

namespace MeshReadings
namespace Settings

structure SyncedAttribute where
  channel : String
  device : String
  endpoint : UInt8 := 1
  kind : Kind
  reporting : Reporting.Update := {}
  /-- Polling periods in place of the kind's. -/
  polling : Option PollingPolicy := none
  voltageMultiplier : Option UInt32 := none
  voltageDivisor : Option UInt32 := none
deriving DecidableEq

namespace SyncedAttribute

open Json.Reader in
def reader : Json.Reader SyncedAttribute :=
  record "AttributeConfig"
    [ field "channel" true string fun a v => { a with channel := v },
      field "device" true string fun a v => { a with device := v },
      field "endpoint" false uint8 fun a v => { a with endpoint := v },
      field "kind" true Kind.reader fun a v => { a with kind := v },
      field "reporting" false Reporting.Update.reader fun a v =>
        { a with reporting := v },
      field "polling" false (option PollingPolicy.reader) fun a v =>
        { a with polling := v },
      field "voltage_multiplier" false (option uint32) fun a v =>
        { a with voltageMultiplier := v },
      field "voltage_divisor" false (option uint32) fun a v =>
        { a with voltageDivisor := v } ]
    { channel := "", device := "", kind := default }

def factorJson : Option UInt32 → Json
  | none => .null
  | some n => .int n.toNat

def toJson (a : SyncedAttribute) : Json :=
  .obj [("channel", .str a.channel), ("device", .str a.device),
    ("endpoint", .int a.endpoint.toNat),
    ("kind", .str a.kind.name), ("reporting", a.reporting.toJson),
    ("polling", match a.polling with
      | none => .null
      | some p => p.toJson),
    ("voltage_multiplier", factorJson a.voltageMultiplier),
    ("voltage_divisor", factorJson a.voltageDivisor)]

/-- The spec of the attribute's engine, with a command timeout in seconds. What the user
asks of reporting is not part of it. -/
def toSpec (a : SyncedAttribute) (timeout : UInt64) : Spec :=
  let spec := Spec.ofKind a.channel a.device a.endpoint a.kind
  { spec with
    polling := a.polling.getD spec.polling
    decoder :=
      if a.kind = .rmsVoltage then .voltage a.voltageMultiplier a.voltageDivisor
        else spec.decoder
    timeout := 1000 * timeout.toNat }

end SyncedAttribute
end Settings
end MeshReadings
