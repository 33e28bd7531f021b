import MeshReadings.Json.Reader

/-!
When a device reports an attribute. A configuration holds the shortest and longest time
between reports, the change that triggers one, and the period of polling in place of
reports. What users ask for is never refused: whatever lies out of range is moved to the
nearest value that a device accepts, and the longest time stays above the shortest.
-/

namespace MeshReadings
namespace Reporting

structure ChangeBounds where
  initial : Binary64
  low : Binary64
  high : Binary64
deriving DecidableEq

/-- What a class of devices starts from. Without change bounds every change is
reported. -/
structure Defaults where
  minInterval : UInt16 := 1
  maxInterval : UInt16 := 7200
  pollingPeriod : UInt32 := 7200
  change : Option ChangeBounds := none
deriving DecidableEq

/-- What a user asks for. Absent fields keep their value. -/
structure Update where
  minInterval : Option Int64 := none
  maxInterval : Option Int64 := none
  change : Option Binary64 := none
  pollingPeriod : Option Int64 := none
deriving DecidableEq

@[ext]
structure Config where
  minInterval : Nat
  maxInterval : Nat
  change : Option Binary64
  bounds : Option ChangeBounds
  pollingPeriod : Nat
deriving DecidableEq

/-- The largest shortest time; one more must fit as longest time. -/
def minIntervalCeiling : Nat := 65534

def maxIntervalFloor : Nat := 1

def maxIntervalCeiling : Nat := 65535

def pollingFloor : Nat := 15

def pollingCeiling : Nat := 86400

/-- The natural number nearest to `n` between two bounds. -/
def between (low high : Nat) (n : Int) : Nat :=
  (max (low : Int) (min (high : Int) n)).toNat

/-- Both times in range, and the longest above the shortest. -/
def intervals (shortest longest : Int) : Nat × Nat :=
  let lo := between 0 minIntervalCeiling shortest
  let hi := between maxIntervalFloor maxIntervalCeiling longest
  if lo < hi then (lo, hi) else (lo, lo + 1)

def ChangeBounds.same (a b : ChangeBounds) : Bool :=
  a.initial.same b.initial && a.low.same b.low && a.high.same b.high

/-- Two absent values agree, and two present ones that are the same. -/
def sameOption (same : α → α → Bool) : Option α → Option α → Bool
  | none, none => true
  | some a, some b => same a b
  | _, _ => false

namespace Config

/-- Numeric equality of configurations. -/
def same (a b : Config) : Bool :=
  a.minInterval == b.minInterval && a.maxInterval == b.maxInterval &&
    sameOption Binary64.same a.change b.change &&
      sameOption ChangeBounds.same a.bounds b.bounds &&
    a.pollingPeriod == b.pollingPeriod

/-- Makes the attribute one whose changes are measured. The bounds may come in either
order, but there is no result when one of them is not a number. -/
def withChange? (c : Config) (b : ChangeBounds) : Option Config :=
  let bounds := if b.low.atMost b.high then b else { b with low := b.high, high := b.low }
  if bounds.low.atMost bounds.high then
    some { c with
      change := some (b.initial.clamp bounds.low bounds.high), bounds := some bounds }
  else none

def ofDefaults? (d : Defaults) : Option Config :=
  let (lo, hi) := intervals d.minInterval.toNat d.maxInterval.toNat
  let c : Config :=
    ⟨lo, hi, none, none, between pollingFloor pollingCeiling d.pollingPeriod.toNat⟩
  match d.change with
  | none => some c
  | some b => c.withChange? b

def isAnalogue (c : Config) : Bool := c.bounds.isSome

/-- The change after a request. Requests that are not finite are passed over, as are all
for an attribute whose changes are not measured. -/
def changeAfter (c : Config) (request : Option Binary64) : Option Binary64 :=
  match c.bounds, request with
  | some b, some x => if x.isFinite then some (x.clamp b.low b.high) else c.change
  | _, _ => c.change

def update (c : Config) (u : Update) : Config :=
  let (lo, hi) := intervals ((u.minInterval.map Int64.toInt).getD c.minInterval)
    ((u.maxInterval.map Int64.toInt).getD c.maxInterval)
  { c with
    minInterval := lo
    maxInterval := hi
    change := c.changeAfter u.change
    pollingPeriod := match u.pollingPeriod with
      | none => c.pollingPeriod
      | some p => between pollingFloor pollingCeiling p.toInt }

/-- Whether an update changes anything that counts. -/
def isChangedBy (c : Config) (u : Update) : Bool := !(c.update u).same c

end Config
end Reporting
end MeshReadings
