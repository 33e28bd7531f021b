import MeshReadings.Proofs.Json.Rereading
import MeshReadings.Settings.SyncedAttribute

/-!
Keys and settings survive their texts. What is written of a key or of an attribute's
settings is read back as it was, so that it can be written, read and written again without
any change.
-/

namespace MeshReadings
open Json.Reader

section
variable {depth : Nat}

theorem restores_cluster (c : Cluster) :
    Restores Cluster.reader depth (.str c.name) c := by
  refine ⟨trivial, ?_⟩
  cases c <;> rfl

theorem restores_key (k : Key) : Restores Key.reader (depth + 2) k.toJson k :=
  restores_record (by decide) <|
    .field (restores_string _) <| .field (restores_uint8 _) <|
      .field (restores_cluster _) <| .field (restores_uint16 _) <| .nil k

theorem restores_kind (k : Kind) : Restores Kind.reader depth (.str k.name) k := by
  refine ⟨trivial, ?_⟩
  cases k <;> rfl

theorem restores_polling (p : PollingPolicy) :
    Restores PollingPolicy.reader (depth + 2) p.toJson p :=
  restores_record (by decide) <| .field (restores_uint32 _) <|
    .field (restores_uint32 _) <| .nil p

end

namespace Reporting.Update

theorem restores_integer {depth : Nat} (n : Option Int64) :
    Restores (option int64) depth (integerJson n) n := by
  cases n with
  | none => exact restores_none
  | some n => exact restores_some (restores_int64 n) nofun

/-- A change is a number of another format, of which this says nothing. -/
theorem restores_update {depth : Nat} (u : Update) (unchanged : u.change = none) :
    Restores reader (depth + 2) u.toJson u := by
  obtain ⟨shortest, longest, change, period⟩ := u
  cases unchanged
  exact restores_record (by decide) <| .field (restores_integer _) <| .field
    (restores_integer _) <| .field restores_none <| .field (restores_integer _) <| .nil _

end Reporting.Update

namespace Settings.SyncedAttribute

theorem restores_factor {depth : Nat} (n : Option UInt32) :
    Restores (option uint32) depth (factorJson n) n := by
  cases n with
  | none => exact restores_none
  | some n => exact restores_some (restores_uint32 n) nofun

theorem restores_attribute {depth : Nat} (a : SyncedAttribute)
    (unchanged : a.reporting.change = none) : Restores reader (depth + 3) a.toJson a := by
  obtain ⟨channel, device, endpoint, kind, reporting, polling, multiplier, divisor⟩ := a
  refine restores_record (by decide) <| .field (restores_string _) <|
    .field (restores_string _) <| .field (restores_uint8 _) <| .field (restores_kind _) <|
    .field (reporting.restores_update unchanged) <| .field ?_ <|
    .field (restores_factor _) <| .field (restores_factor _) <| .nil _
  cases polling with
  | none => exact restores_none
  | some p => exact restores_some (restores_polling p) nofun

/-- Keys and settings survive their texts, whatever characters stand in them: each is read
back as it was, and so what is read makes the same spec and is written as the same text
again. -/
theorem reread_eq_written (k : Key) (a : SyncedAttribute)
    (unchanged : a.reporting.change = none) :
    Json.readText Key.reader k.toJson.compact = .ok k ∧
    Json.readText reader a.toJson.compact = .ok a ∧
      (∀ k', Json.readText Key.reader k.toJson.compact = .ok k' →
        k'.toJson.compact = k.toJson.compact) ∧
      ∀ a', Json.readText reader a.toJson.compact = .ok a' →
        (∀ timeout, a'.toSpec timeout = a.toSpec timeout) ∧
        a'.toJson.compact = a.toJson.compact := by
  have key : Json.readText Key.reader k.toJson.compact = .ok k :=
    (restores_key k).readText
  have settings : Json.readText reader a.toJson.compact = .ok a :=
    (restores_attribute a unchanged).readText
  refine ⟨key, settings, fun k' reread => ?_, fun a' reread => ?_⟩
  · cases key.symm.trans reread
    rfl
  · cases settings.symm.trans reread
    exact ⟨fun _ => rfl, rfl⟩

/-- Names with quotes, control characters and a character beyond sixteen bits, and numbers
at the ends of their ranges. -/
theorem odd_names_are_reread :
    let k : Key := ⟨"0x\"\\\x01\n", 255, .electricalMeasurement, 65535⟩
    let a : SyncedAttribute :=
      { channel := "\x00\x1f\x7f/ü𝄞\t"
        device := ""
        endpoint := 0
        kind := .rmsVoltage
        reporting :=
          { minInterval := some Int64.minValue, pollingPeriod := some Int64.maxValue }
        polling := some ⟨0, 4294967295⟩
        voltageDivisor := some 10 }
    a.reporting.change = none ∧ Json.readText Key.reader k.toJson.compact = .ok k ∧
      Json.readText reader a.toJson.compact = .ok a ∧
      ∀ a', Json.readText reader a.toJson.compact = .ok a' →
        a'.toSpec 10 = a.toSpec 10 := by
  intro k a
  obtain ⟨key, settings, -, again⟩ := reread_eq_written k a rfl
  exact ⟨rfl, key, settings, fun a' reread => (again a' reread).1 10⟩

end Settings.SyncedAttribute
end MeshReadings
