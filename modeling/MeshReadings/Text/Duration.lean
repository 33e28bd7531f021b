import MeshReadings.Text.Digits

/-!
Spans of time, counted in milliseconds and written in the largest unit that leaves a whole
part.
-/

namespace MeshReadings
namespace Text

/-- The digits of a three-place fraction without its trailing zeros, after a point if any
are left. -/
def fraction (thousandths : Nat) : List Char :=
  let places := [thousandths / 100 % 10, thousandths / 10 % 10, thousandths % 10]
  match (places.reverse.dropWhile (· == 0)).reverse with
  | [] => []
  | ds => '.' :: ds.map digitChar

/-- Seconds from one second on, whole milliseconds below, and no unit smaller than
that. -/
def duration (ms : Nat) : String :=
  String.ofList <|
    if ms = 0 then ['0', 'n', 's']
    else if ms < 1000 then digits ms ++ ['m', 's']
    else digits (ms / 1000) ++ fraction (ms % 1000) ++ ['s']

example : duration 1001 = "1.001s" := by decide +kernel

end Text
end MeshReadings
