import MeshReadings.Settings.Layers

/-!
Where settings are read from. A file that was asked for must be there; without one, the
file at the default place is read if it is there.
-/

namespace MeshReadings

abbrev Files := String → Except FileFault String

namespace Files

def has (files : Files) (path : String) : Bool :=
  match files path with
  | .ok _ | .error .directory | .error .encoding => true
  | .error _ => false

end Files

namespace Settings

def isAbsolute (path : String) : Bool := path.toList.head? == some '/'

def below (directory path : String) : String :=
  if directory.toList.getLast? == some '/' then directory ++ path
  else directory ++ "/" ++ path

/-- The directory for settings: the one set aside for them if it is an absolute path, or
else one in the home directory. -/
def directory? (env : Environment) : Option String :=
  match (env.get? "XDG_CONFIG_HOME").filter isAbsolute with
  | some path => some path
  | none => ((env.get? "HOME").filter fun home => !home.isEmpty).map (below · ".config")

def defaultPath? (env : Environment) : Option String :=
  (directory? env).map fun path =>
    below (below path "zigbee-attribute-sync") "config.json"

def ofFile (files : Files) (path : String) : Except Fault Settings := do
  ofText (← (files path).mapError .file)

/-- The text that settings are read from, if there is one. -/
def source (files : Files) (env : Environment) :
    Option String → Except Fault (Option String)
  | some path => (files path).mapError .file |>.map some
  | none =>
    match defaultPath? env with
    | none => .ok none
    | some path =>
        if files.has path then (files path).mapError .file |>.map some else .ok none

def locate (files : Files) (env : Environment) (path : Option String) :
    Except Fault Settings :=
  do
  load (← source files env path) env

end Settings
end MeshReadings
