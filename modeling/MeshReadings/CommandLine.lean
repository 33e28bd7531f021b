import MeshReadings.Settings.EnvFile
import MeshReadings.Settings.OptionListing
import MeshReadings.Settings.Source

/-!
The program as it is called: with arguments, an environment and files. Variables from the
environment file in the working directory count like those that are set. Without
attributes there is nothing to do; with some, the program would go on to connect to the
broker.
-/

namespace MeshReadings
namespace CommandLine

structure Arguments where
  settings : Option String := none
  listOptions : Bool := false
deriving DecidableEq

inductive Refusal
  | help
  | usage
deriving DecidableEq

/-- Takes note of the settings file, which may be named once. -/
def Arguments.withSettings (a : Arguments) (path : String) : Except Refusal Arguments :=
  if path.isEmpty || a.settings.isSome then .error .usage
  else .ok { a with settings := some path }

/-- A lone dash is a value, anything longer that starts with one is an option. -/
def isOption (arg : String) : Bool :=
  match arg.toList with
  | '-' :: _ :: _ => true
  | _ => false

/-- Reads the arguments in order. The first that is wrong decides. -/
def read (a : Arguments) : List String → Except Refusal Arguments
  | [] => .ok a
  | arg :: rest =>
    if arg = "--list-options" then
      if a.listOptions then .error .usage else read { a with listOptions := true } rest
    else if arg = "--help" then .error .help
    else if arg = "--" then if rest.isEmpty then .ok a else .error .usage
    else if arg = "--config" || arg = "-c" then
      match rest with
      | [] => .error .usage
      | path :: rest =>
        if isOption path then .error .usage
        else match a.withSettings path with
          | .ok a => read a rest
          | .error r => .error r
    else match arg.toList with
      | '-' :: 'h' :: _ => .error .help
      | '-' :: 'c' :: '=' :: path | '-' :: 'c' :: path =>
        match a.withSettings (String.ofList path) with
        | .ok a => read a rest
        | .error r => .error r
      | cs =>
        match "--config=".toList.isPrefixOf? cs with
        | none => .error .usage
        | some path =>
          match a.withSettings (String.ofList path) with
          | .ok a => read a rest
          | .error r => .error r

def settingsVariable : String := "SYNC_CONFIG"

/-- The arguments, with the settings file from the environment if they name none. -/
def readAll (env : Environment) (args : List String) : Except Refusal Arguments := do
  let a ← read {} args
  match a.settings, env.get? settingsVariable with
  | none, some path => a.withSettings path
  | _, _ => return a

def helpText (env : Environment) : String :=
  "Keep ZigBee device attributes in sync via zigbee2mqtt\n\n" ++
  "Usage: zigbee-attribute-sync [OPTIONS]\n\n" ++
  "Options:\n" ++
  "  -c, --config <CONFIG>  Path to the JSON configuration file [env: SYNC_CONFIG=" ++
    (env.get? settingsVariable).getD "" ++ "]\n" ++
  "      --list-options     Print the editable reporting options of every attribute and exit\n" ++
  "  -h, --help             Print help\n"

inductive Outcome
  /-- The environment cannot hold what the environment file says. -/
  | crash
  | usage
  | help (text : String)
  | failed (f : Fault)
  | listed (text : String)
  | nothingToDo
  | connect (s : Settings)

def Outcome.exitCode : Outcome → Nat
  | crash => 101
  | usage => 2
  | failed _ => 1
  | _ => 0

def Outcome.output : Outcome → String
  | help text | listed text => text
  | _ => ""

def Outcome.fault? : Outcome → Option Fault
  | failed f => some f
  | _ => none

def envFile : String := ".env"

def environment? (files : Files) (env : Environment) : Option Environment :=
  (EnvFile.load (files envFile).toOption env).map (·.1)

def run (files : Files) (env : Environment) (args : List String) : Outcome :=
  match environment? files env with
  | none => .crash
  | some env =>
    match readAll env args with
    | .error .usage => .usage
    | .error .help => .help (helpText env)
    | .ok a =>
      match Settings.locate files env a.settings with
      | .error f => .failed f
      | .ok s =>
        if a.listOptions then .listed (s.optionListingJson.indented ++ "\n")
        else if s.attributes.isEmpty then .nothingToDo
        else .connect s

/-- The settings file that a call asks for or finds at the default place. -/
def settingsPath? (env : Environment) (args : List String) : Option String :=
  match readAll env args with
  | .ok a => a.settings.orElse fun _ => Settings.defaultPath? env
  | .error _ => none

end CommandLine
end MeshReadings
