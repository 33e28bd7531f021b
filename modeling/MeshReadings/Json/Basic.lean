import MeshReadings.Binary64.Format
import MeshReadings.Binary64.Rounding
import MeshReadings.Text.Digits

/-!
JSON values and their texts, compact and indented. Whole numbers within sixty-four bits
and other numbers are kept apart, since the two are written and read differently; the
entries of an object keep their order.
-/

namespace MeshReadings

inductive Json
  | null
  | bool (b : Bool)
  | int (n : Int)
  | num (x : Binary64)
  | str (s : String)
  | arr (items : List Json)
  | obj (entries : List (String × Json))

namespace Json

/-- The value of the last entry with a name. -/
def find? (name : String) (entries : List (String × Json)) : Option Json :=
  (entries.reverse.find? (·.1 == name)).map (·.2)

/-- Inside a string, quote, backslash and control characters are escaped and nothing
else. -/
def escape (c : Char) : List Char :=
  if c = '"' then ['\\', '"']
  else if c = '\\' then ['\\', '\\']
  else if c = '\x08' then ['\\', 'b']
  else if c = '\t' then ['\\', 't']
  else if c = '\n' then ['\\', 'n']
  else if c = '\x0c' then ['\\', 'f']
  else if c = '\r' then ['\\', 'r']
  else if c.toNat < 32 then ['\\', 'u'] ++ Text.hex false 4 c.toNat
  else [c]

def quote (s : String) : List Char := '"' :: s.toList.flatMap escape ++ ['"']

/-- A number that is not finite has no JSON text and is written as null. -/
def numberText (x : Binary64) : List Char :=
  if x.isFinite then (NumberFormat.json.write x).toList else ['n', 'u', 'l', 'l']

def boolText (b : Bool) : List Char :=
  if b then ['t', 'r', 'u', 'e'] else ['f', 'a', 'l', 's', 'e']

mutual

def render : Json → List Char
  | .null => ['n', 'u', 'l', 'l']
  | .bool b => boolText b
  | .int n => Text.integer n
  | .num x => numberText x
  | .str s => quote s
  | .arr [] => ['[', ']']
  | .arr (v :: vs) => '[' :: (render v ++ renderItems vs)
  | .obj [] => ['\x7b', '\x7d']
  | .obj ((k, v) :: es) => '\x7b' :: (quote k ++ ':' :: (render v ++ renderEntries es))

/-- The rest of an array after an item. -/
def renderItems : List Json → List Char
  | [] => [']']
  | v :: vs => ',' :: (render v ++ renderItems vs)

/-- The rest of an object after an entry. -/
def renderEntries : List (String × Json) → List Char
  | [] => ['\x7d']
  | (k, v) :: es => ',' :: (quote k ++ ':' :: (render v ++ renderEntries es))

end

def indent (depth : Nat) : List Char := '\n' :: List.replicate (2 * depth) ' '

mutual

/-- The text with every item and entry on a line of its own, two spaces deeper than what
holds it. -/
def renderIndented (depth : Nat) : Json → List Char
  | .arr (v :: vs) =>
    '[' :: (indent (depth + 1) ++ renderIndented (depth + 1) v ++ indentedItems depth vs)
  | .obj ((k, v) :: es) =>
    '\x7b' ::
      (indent (depth + 1) ++ quote k ++ [':', ' '] ++ renderIndented (depth + 1) v ++
      indentedEntries depth es)
  | v => render v

def indentedItems (depth : Nat) : List Json → List Char
  | [] => indent depth ++ [']']
  | v :: vs =>
      ',' ::
        (indent (depth + 1) ++ renderIndented (depth + 1) v ++ indentedItems depth vs)

def indentedEntries (depth : Nat) : List (String × Json) → List Char
  | [] => indent depth ++ ['\x7d']
  | (k, v) :: es =>
    ',' :: (indent (depth + 1) ++ quote k ++ [':', ' '] ++ renderIndented (depth + 1) v ++
      indentedEntries depth es)

end

def compact (v : Json) : String := String.ofList v.render

def indented (v : Json) : String := String.ofList (renderIndented 0 v)

end Json
end MeshReadings
