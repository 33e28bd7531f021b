import MeshReadings.Json.Basic
import MeshReadings.Json.Outline
import MeshReadings.Text.Quoted

/-!
Typed readers of outlines. A record is read from an object by the names of its fields or
from an array by their order; unknown names are skipped, a repeated name is refused, and a
field with a default may be absent. Arrays and objects may nest only so deep.
-/

namespace MeshReadings
namespace Json

def nestingLimit : Nat := 128

/-- A reader is told how much deeper values may nest. -/
abbrev Reader (α : Type) := Nat → Outline → Except ReadError α

def ReadError.message : ReadError → String
  | .truncated => "text ends too soon"
  | .malformed => "text is not JSON"
  | .mismatch m => m

def Number.found : Number → String
  | .whole n => "integer `" ++ String.ofList (Text.integer n) ++ "`"
  | .real x => "floating point `" ++ String.ofList (numberText x) ++ "`"

def Outline.mismatch (expected : String) : Outline → ReadError
  | .null => wrong "null"
  | .bool b => wrong ("boolean `" ++ String.ofList (boolText b) ++ "`")
  | .number (some n) => wrong n.found
  | .number none => .malformed
  | .str (some s) => wrong ("string " ++ Text.quoted s)
  | .str none => .malformed
  | .arr _ _ => wrong "sequence"
  | .obj _ _ | .unnamed _ => wrong "map"
  | .broken e _ => e
where
  wrong (found : String) : ReadError :=
.mismatch ("invalid type: " ++ found ++ ", expected " ++ expected)

def outOfRange (n : Number) (expected : String) : ReadError :=
  .mismatch ("invalid value: " ++ n.found ++ ", expected " ++ expected)

/-- One level deeper, if that is allowed. -/
def deeper (depth : Nat) : Except ReadError Nat :=
  if depth ≤ 1 then .error .malformed else .ok (depth - 1)

namespace Reader

def string : Reader String
  | _, .str (some s) => .ok s
  | _, v => .error (v.mismatch "a string")

def whole (expected : String) (low high : Int) : Reader Int
  | _, .number (some (.whole n)) =>
    if low ≤ n ∧ n ≤ high then .ok n else .error (outOfRange (.whole n) expected)
  | _, v => .error (v.mismatch expected)

def uint8 : Reader UInt8 :=
  fun d v => (whole "u8" 0 255 d v).map fun n => UInt8.ofNat n.toNat

def uint16 : Reader UInt16 :=
  fun d v => (whole "u16" 0 65535 d v).map fun n => UInt16.ofNat n.toNat

def uint32 : Reader UInt32 :=
  fun d v => (whole "u32" 0 (UInt32.size - 1) d v).map fun n => UInt32.ofNat n.toNat

def uint64 : Reader UInt64 :=
  fun d v => (whole "u64" 0 (UInt64.size - 1) d v).map fun n => UInt64.ofNat n.toNat

def int64 : Reader Int64 :=
  fun d v => (whole "i64" Int64.minValue.toInt Int64.maxValue.toInt d v).map Int64.ofInt

def binary64 : Reader Binary64
  | _, .number (some (.whole n)) => .ok (Binary64.ofInt n)
  | _, .number (some (.real x)) => .ok x
  | _, v => .error (v.mismatch "f64")

def option (read : Reader α) : Reader (Option α)
  | _, .null => .ok none
  | d, v => (read d v).map some

/-- What is wrong at the end of a list for a reader who asks for another entry. -/
def next : Ending → Except ReadError Unit
  | .closed => .ok ()
  | .cut e _ | .dangling e _ => .error e

/-- What is wrong at the end of a list for a reader who needs no more entries. -/
def close : Ending → Except ReadError Unit
  | .closed => .ok ()
  | .cut e _ => .error e
  | .dangling _ _ => .error .malformed

def items (read : Outline → Except ReadError α) (ending : Ending) :
    List Outline → Except ReadError (List α)
  | [] => do next ending; return []
  | v :: vs => do
    let x ← read v
    let xs ← items read ending vs
    return x :: xs

def list (read : Reader α) : Reader (List α)
  | d, .arr vs ending => do
    let d ← deeper d
    items (read d) ending vs
  | _, v => .error (v.mismatch "a sequence")

def name : Option String → Except ReadError String
  | some s => .ok s
  | none => .error .malformed

def entries (read : Outline → Except ReadError α) (ending : Ending) :
    List (Option String × Outline) → Except ReadError (List (String × α))
  | [] => do next ending; return []
  | (k, v) :: es => do
    let k ← name k
    let x ← read v
    let xs ← entries read ending es
    return (k, x) :: xs

/-- An object with names of any kind, its entries in order. -/
def dictionary (read : Reader α) : Reader (List (String × α))
  | d, .obj es ending => do
    let d ← deeper d
    entries (read d) ending es
  | _, .unnamed _ => .error .malformed
  | _, v => .error (v.mismatch "a map")

/-- A field of a record: how its value is read into the record. -/
structure Field (α : Type) where
  name : String
  required : Bool
  read : Nat → Outline → α → Except ReadError α

def field (name : String) (required : Bool) (read : Reader β) (set : α → β → α) :
    Field α :=
  ⟨name, required, fun d v r => (read d v).map (set r)⟩

/-- The entries of a record's object, with the names met so far. -/
def recordEntries (fields : List (Field α)) (depth : Nat) (ending : Ending) :
    List (Option String × Outline) → List String → α → Except ReadError (List String × α)
  | [], seen, r => do next ending; return (seen, r)
  | (k, v) :: es, seen, r => do
    let k ← name k
    match fields.find? (·.name == k) with
    | none =>
      match v.skipFault with
      | some e => .error e
      | none => recordEntries fields depth ending es seen r
    | some f =>
      if seen.contains k then .error (.mismatch ("duplicate field `" ++ k ++ "`"))
      else do
        let r ← f.read depth v r
        recordEntries fields depth ending es (k :: seen) r

/-- The items of a record's array from the field at `index` on. -/
def recordItems (title : String) (count : Nat) (depth : Nat) (ending : Ending) :
    Nat → List (Field α) → List Outline → α → Except ReadError α
  | _, [], [], r => do close ending; return r
  | _, [], _ :: _, _ => .error .malformed
  | index, f :: fs, v :: vs, r => do
    let r ← f.read depth v r
    recordItems title count depth ending (index + 1) fs vs r
  | index, f :: fs, [], r => do
    next ending
    if f.required then
      .error (.mismatch ("invalid length " ++ toString index ++ ", expected struct " ++
        title ++ " with " ++ toString count ++ " elements"))
    else recordItems title count depth ending (index + 1) fs [] r

/-- A record, read over an initial one whose fields with defaults hold them. -/
def record (title : String) (fields : List (Field α)) (initial : α) : Reader α
  | d, .obj es ending => do
    let d ← deeper d
    let (seen, r) ← recordEntries fields d ending es [] initial
    match fields.find? fun f => f.required && !seen.contains f.name with
    | some f => .error (.mismatch ("missing field `" ++ f.name ++ "`"))
    | none => return r
  | d, .arr vs ending => do
    let d ← deeper d
    recordItems title fields.length d ending 0 fields vs initial
  | _, .unnamed _ => .error .malformed
  | _, v => .error (v.mismatch ("struct " ++ title))

/-- The choices as a message lists them. -/
def listed : List String → String
  | [] => ""
  | [s] => "`" ++ s ++ "`"
  | s :: rest => "`" ++ s ++ "`, " ++ listed rest

def choose (choices : List (String × α)) (s : String) : Except ReadError α :=
  match choices.find? (·.1 == s) with
  | some c => .ok c.2
  | none =>
    .error (.mismatch ("unknown variant `" ++ s ++ "`, expected one of " ++
      listed (choices.map (·.1))))

/-- One of several names, alone or as the only name of an object that holds null. -/
def choice (choices : List (String × α)) : Reader α
  | _, .str s => do choose choices (← name s)
  | d, .obj es ending => do
    let _ ← deeper d
    match es with
    | [] => match ending with
      | .closed => .error .malformed
      | .cut e _ | .dangling e _ => .error e
    | (k, v) :: rest =>
      let x ← choose choices (← name k)
      match v with
      | .null => if rest.isEmpty then do close ending; return x else .error .malformed
      | v => .error (v.mismatch "unit")
  | d, .unnamed first => do
    let _ ← deeper d
    .error (first.mismatch "variant identifier")
  | _, .broken e _ => .error e
  | _, _ => .error .malformed

mutual

def any (depth : Nat) : Outline → Except ReadError Json
  | .null => .ok .null
  | .bool b => .ok (.bool b)
  | .number (some (.whole n)) => .ok (.int n)
  | .number (some (.real x)) => .ok (.num x)
  | .number none => .error .malformed
  | .str (some s) => .ok (.str s)
  | .str none => .error .malformed
  | .arr vs ending => do
    let depth ← deeper depth
    return .arr (← anyItems depth ending vs)
  | .obj es ending => do
    let depth ← deeper depth
    return .obj (← anyEntries depth ending es)
  | .unnamed _ => .error .malformed
  | .broken e _ => .error e

def anyItems (depth : Nat) (ending : Ending) : List Outline → Except ReadError (List Json)
  | [] => do next ending; return []
  | v :: vs => do
    let x ← any depth v
    let xs ← anyItems depth ending vs
    return x :: xs

def anyEntries (depth : Nat) (ending : Ending) :
    List (Option String × Outline) → Except ReadError (List (String × Json))
  | [] => do next ending; return []
  | (k, v) :: es => do
    let k ← name k
    let x ← any depth v
    let xs ← anyEntries depth ending es
    return (k, x) :: xs

end

end Reader

/-- Reads a whole text: one value with nothing but space around it. -/
def readText (read : Reader α) (text : String) : Except ReadError α := do
  let (v, rest) := outline text.toList
  let x ← read nestingLimit v
  if (skipSpace (rest.getD [])).isEmpty then return x else .error .malformed

end Json
end MeshReadings
