import MeshReadings.Reporting.Basic

/-!
The fields of a reporting configuration that a user may edit, with their present values
and valid ranges.
-/

namespace MeshReadings
namespace Reporting

structure EditableOption where
  name : String
  label : String
  description : String
  value : Binary64
  min : Binary64
  max : Binary64
deriving DecidableEq

def EditableOption.toJson (o : EditableOption) : Json :=
  .obj
    [("name", .str o.name), ("label", .str o.label), ("description", .str o.description),
    ("value", .num o.value), ("min", .num o.min), ("max", .num o.max)]

def minIntervalName : String := "zigbee_reporting_min"

def maxIntervalName : String := "zigbee_reporting_max"

def changeName : String := "zigbee_reporting_change"

def pollingName : String := "zigbee_reporting_polling"

namespace Config

def minIntervalOption (c : Config) : EditableOption where
  name := minIntervalName
  label := "Minimum Reporting Period"
  description := "Minimum number of seconds between reports"
  value := Binary64.ofNat c.minInterval
  min := Binary64.ofNat 0
  max := Binary64.ofNat minIntervalCeiling

def maxIntervalOption (c : Config) : EditableOption where
  name := maxIntervalName
  label := "Maximum Reporting Period"
  description := "Maximum number of seconds between reports"
  value := Binary64.ofNat c.maxInterval
  min := Binary64.ofNat maxIntervalFloor
  max := Binary64.ofNat maxIntervalCeiling

def changeOption? (c : Config) : Option EditableOption :=
  match c.bounds, c.change with
  | some b, some x => some
      { name := changeName
        label := "Report On Change"
        description := "Minimum change in value that triggers a report"
        value := x
        min := b.low
        max := b.high }
  | _, _ => none

def pollingOption (c : Config) : EditableOption where
  name := pollingName
  label := "Polling Period"
  description := "Seconds between polls when reporting is unavailable"
  value := Binary64.ofNat c.pollingPeriod
  min := Binary64.ofNat pollingFloor
  max := Binary64.ofNat pollingCeiling

/-- The options in the order in which they are offered. Only measured changes have an
option. -/
def options (c : Config) : List EditableOption :=
  [c.minIntervalOption, c.maxIntervalOption] ++ c.changeOption?.toList ++
    [c.pollingOption]

end Config

namespace Update

open Json.Reader in
def reader : Json.Reader Update :=
  record "ReportingUpdate"
    [ field minIntervalName false (option int64) fun u v => { u with minInterval := v },
      field maxIntervalName false (option int64) fun u v => { u with maxInterval := v },
      field changeName false (option binary64) fun u v => { u with change := v },
      field pollingName false (option int64) fun u v => { u with pollingPeriod := v } ]
    {}

def integerJson : Option Int64 → Json
  | none => .null
  | some n => .int n.toInt

def toJson (u : Update) : Json :=
  .obj [(minIntervalName, integerJson u.minInterval),
    (maxIntervalName, integerJson u.maxInterval), (changeName, match u.change with
      | none => .null
      | some x => .num x),
    (pollingName, integerJson u.pollingPeriod)]

end Update

open Json.Reader in
def ChangeBounds.reader : Json.Reader ChangeBounds :=
  record "ChangeBounds"
    [ field "default" true binary64 fun b v => { b with initial := v },
      field "min" true binary64 fun b v => { b with low := v },
      field "max" true binary64 fun b v => { b with high := v } ]
    ⟨Binary64.zero, Binary64.zero, Binary64.zero⟩

open Json.Reader in
def Defaults.reader : Json.Reader Defaults :=
  record "ReportingDefaults"
    [ field "min_interval" false uint16 fun d v => { d with minInterval := v },
      field "max_interval" false uint16 fun d v => { d with maxInterval := v },
      field "polling_period" false uint32 fun d v => { d with pollingPeriod := v },
      field "change" false (option ChangeBounds.reader) fun d v =>
        { d with change := v } ]
    {}

end Reporting
end MeshReadings
