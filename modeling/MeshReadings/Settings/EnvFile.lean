import MeshReadings.Settings.Environment
import MeshReadings.Text.Blank

/-!
Environment files: one assignment a line, with blanks around names and values left out and
one pair of quotes around a value taken off. Comments and lines that assign nothing are
passed over. Variables that are set already keep their value.
-/

namespace MeshReadings
namespace EnvFile

/-- The text between line feeds. What follows the last one is a line too. -/
def lines : List Char → List (List Char)
  | [] => [[]]
  | c :: cs =>
    if c = '\n' then [] :: lines cs
    else match lines cs with
      | [] => [[c]]
      | l :: ls => (c :: l) :: ls

/-- What stands between a quote at the start and the same quote at the end. -/
def between? (quote : Char) (cs : List Char) : Option (List Char) :=
  match cs with
  | [] => none
  | c :: rest =>
    if c = quote then
      match rest.reverse with
      | [] => none
      | d :: inner => if d = quote then some inner.reverse else none
    else none

def unquote (cs : List Char) : List Char :=
  match between? '"' cs with
  | some inner => inner
  | none => (between? '\'' cs).getD cs

/-- The text before and after the first equals sign. -/
def splitAssignment? : List Char → Option (List Char × List Char)
  | [] => none
  | c :: cs =>
    if c = '=' then some ([], cs)
    else (splitAssignment? cs).map fun (name, value) => (c :: name, value)

/-- The assignment on a line. -/
def assignment? (line : List Char) : Option (List Char × List Char) :=
  let line := Text.trim line
  if line.head? = some '#' then none
  else match splitAssignment? line with
    | none => none
    | some (name, value) =>
      let name := Text.trim name
      if name.isEmpty then none else some (name, unquote (Text.trim value))

def assignments (text : List Char) : List (String × String) :=
  (lines text).filterMap fun line =>
    (assignment? line).map fun (name, value) => (String.ofList name, String.ofList value)

/-- No environment can hold a null character. -/
def isExportable (entry : String × String) : Bool :=
  !entry.1.toList.contains '\x00' && !entry.2.toList.contains '\x00'

section
-- The words of an environment are those of the system and need be no text. `encode` makes
-- a word of a text.
variable {ω : Type} [DecidableEq ω] (encode : String → ω)

/-- Sets the variables that are not set yet, and counts them. There is no result when one
of them cannot be set. -/
def exportAll (env : List (ω × ω)) : List (String × String) → Option (List (ω × ω) × Nat)
  | [] => some (env, 0)
  | entry :: rest =>
    if encode entry.1 ∈ env.map (·.1) then exportAll env rest
    else if isExportable entry then
      (exportAll (env ++ [entry.map encode encode]) rest).map fun (env, n) => (env, n + 1)
    else none

/-- The environment after a file's text, if it has one, and how many variables came from
there. -/
def loadInto (text? : Option String) (env : List (ω × ω)) : Option (List (ω × ω) × Nat) :=
  match text? with
  | none => some (env, 0)
  | some text => exportAll encode env (assignments text.toList)

end

def load (text? : Option String) (env : Environment) : Option (Environment × Nat) :=
  loadInto id text? env

end EnvFile
end MeshReadings
