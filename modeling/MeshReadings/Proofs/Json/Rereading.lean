import MeshReadings.Proofs.Json.Records
import MeshReadings.Proofs.Json.Texts

/-!
Values that their readers restore: numbers of each width, values that may be absent, and
records whose object holds every field under its name, in order. What is restored from a
value is restored from the value's text as well.
-/

namespace MeshReadings
namespace Json
namespace Reader

/-- The reader makes `x` of the value, and the value's text says all that the value
does. -/
structure Restores (read : Reader α) (depth : Nat) (v : Json) (x : α) : Prop where
  exact : v.Exact
  reads : read depth v.outlined = .ok x

theorem Restores.readText {read : Reader α} {v : Json} {x : α}
    (restores : Restores read nestingLimit v x) : readText read v.compact = .ok x := by
  rw [readText_compact restores.exact, restores.reads]

section
variable {depth : Nat}

theorem restores_string (s : String) : Restores string depth (.str s) s := ⟨trivial, rfl⟩

theorem restores_whole {expected : String} {low high n : Int} (exact : Whole n)
    (fits : low ≤ n ∧ n ≤ high) :
    Restores (whole expected low high) depth (.int n) n := ⟨exact, if_pos fits⟩

/-- Numbers of some width are read as whole numbers within bounds and then made narrow. -/
theorem Restores.map {read : Reader α} {v : Json} {x : α} {y : β} {narrow : α → β}
    (restores : Restores read depth v x) (same : narrow x = y) :
    Restores (fun depth v => (read depth v).map narrow) depth v y :=
  ⟨restores.exact, by rw [restores.reads, Except.map, same]⟩

theorem restores_natural {expected : String} {high : Int} {ofNat : Nat → β} {n : Nat}
    {x : β} (fits : (n : Int) ≤ high) (narrow : high < UInt64.size) (same : ofNat n = x) :
    Restores (fun depth v => (whole expected 0 high depth v).map fun n => ofNat n.toNat)
      depth (.int n) x := by
  have low : Int64.minValue.toInt ≤ 0 := by decide
  have exact : Whole n := ⟨by omega, by omega⟩
  exact (restores_whole exact ⟨by omega, fits⟩).map same

theorem restores_uint8 (n : UInt8) : Restores uint8 depth (.int n.toNat) n := by
  have fits := n.toNat_lt
  exact restores_natural (by omega) (by decide) UInt8.ofNat_toNat

theorem restores_uint16 (n : UInt16) : Restores uint16 depth (.int n.toNat) n := by
  have fits := n.toNat_lt
  exact restores_natural (by omega) (by decide) UInt16.ofNat_toNat

theorem restores_uint32 (n : UInt32) : Restores uint32 depth (.int n.toNat) n := by
  have fits := n.toNat_lt
  have size : UInt32.size = 2 ^ 32 := rfl
  exact restores_natural (by omega) (by decide) UInt32.ofNat_toNat

theorem whole_int64 (n : Int64) : Whole n.toInt := by
  have low := n.minValue_le_toInt
  have high := n.toInt_lt
  have size : UInt64.size = 2 ^ 64 := rfl
  exact ⟨low, by omega⟩

theorem restores_int64 (n : Int64) : Restores int64 depth (.int n.toInt) n :=
  (restores_whole (whole_int64 n) ⟨n.minValue_le_toInt, n.toInt_le⟩).map (by simp)

theorem restores_none {read : Reader α} : Restores (option read) depth .null none :=
  ⟨trivial, rfl⟩

theorem restores_some {read : Reader α} {v : Json} {x : α}
    (restores : Restores read depth v x) (present : v.outlined ≠ .null) :
    Restores (option read) depth v (some x) :=
  ⟨restores.exact, by rw [option.eq_2 _ _ _ present, restores.reads, Except.map]⟩

end

section
variable {fields : List (Field α)} {entries : List (String × Json)} {depth : Nat}
  {r r' : α}

/-- Reading each field from the entry of its name, one after the other, leads from one
record to another. -/
inductive Fills (depth : Nat) : List (Field α) → List (String × Json) → α → α → Prop
  | nil (r : α) : Fills depth [] [] r r
  | cons {f : Field α} {v : Json} {fields : List (Field α)}
      {entries : List (String × Json)} {r r₁ r' : α}
      (exact : v.Exact) (reads : f.read depth v.outlined r = .ok r₁)
      (rest : Fills depth fields entries r₁ r') :
      Fills depth (f :: fields) ((f.name, v) :: entries) r r'

theorem Fills.field {name : String} {required : Bool} {read : Reader β} {set : α → β → α}
    {v : Json} {x : β} (restores : Restores read depth v x)
    (rest : Fills depth fields entries (set r x) r') :
    Fills depth (Reader.field name required read set :: fields)
      ((name, v) :: entries) r r' :=
  .cons (f := Reader.field name required read set) restores.exact
    (by simp [Reader.field, restores.reads, Except.map]) rest

theorem Fills.exact (fills : Fills depth fields entries r r') : ExactEntries entries := by
  induction fills with
  | nil r => trivial
  | cons exact reads rest ih => exact ⟨exact, ih⟩

theorem recordEntries_fills {before all : List (Field α)} (split : all = before ++ fields)
    (distinct : (all.map (·.name)).Nodup) (fills : Fills depth fields entries r r') :
    recordEntries all depth .closed (outlinedEntries entries)
      (before.map (·.name)).reverse r = .ok ((all.map (·.name)).reverse, r') := by
  induction fills generalizing before with
  | nil r =>
      rw [split, List.append_nil]
      rfl
  | @cons f v fields entries r r₁ r' exact reads rest ih =>
      have place : all[before.length]? = some f := by simp [split]
      have fresh : f.name ∉ before.map (·.name) := by
        rw [split, List.map_append, List.nodup_append] at distinct
        exact fun again => distinct.2.2 _ again _ List.mem_cons_self rfl
      have split' : all = before ++ [f] ++ fields := by simp [split]
      have later := ih split'
      rw [List.map_append, List.reverse_append] at later
      simpa [outlinedEntries, recordEntries, name, bind, Except.bind,
        find?_name_eq distinct place, fresh, reads] using later

theorem restores_record {title : String} {initial : α}
    (distinct : (fields.map (·.name)).Nodup)
    (fills : Fills (depth + 1) fields entries initial r) :
    Restores (record title fields initial) (depth + 2) (.obj entries) r := by
  refine ⟨fills.exact, ?_⟩
  have filled :
      recordEntries fields (depth + 1) .closed (outlinedEntries entries) [] initial =
      .ok ((fields.map (·.name)).reverse, r) :=
    recordEntries_fills (List.nil_append fields).symm distinct fills
  have complete : fields.find?
      (fun f => f.required && !(fields.map (·.name)).reverse.contains f.name) = none := by
    refine List.find?_eq_none.mpr fun f member => ?_
    have met : f.name ∈ (fields.map (·.name)).reverse :=
      List.mem_reverse.mpr (List.mem_map_of_mem member)
    simp [met]
  have deep : deeper (depth + 2) = .ok (depth + 1) := if_neg (by omega)
  simp only [outlined, record, deep, filled, complete, bind, Except.bind]
  rfl

end
end Reader
end Json
end MeshReadings
