import MeshReadings.CommandLine

/-!
The command line program. It takes in the environment file and the settings, lists the
options of all attributes when asked to, and says on the error stream what is wrong.
-/

namespace MeshReadings
namespace Main

def variableNames : List String :=
  ["SYNC_CONFIG", "XDG_CONFIG_HOME", "HOME", "MQTT_BROKER_HOST", "MQTT_BROKER_PORT",
    "MQTT_CLIENT_ID", "MQTT_USERNAME", "MQTT_PASSWORD", "Z2M_BASE_TOPIC",
    "SYNC_COMMAND_TIMEOUT_SECS", "SYNC_PUBLISH_TOPIC"]

def readFile (path : String) : IO (Except FileFault String) := do
  try
    let bytes ← IO.FS.readBinFile path
    match String.fromUTF8? bytes with
    | some text => return .ok text
    | none => return .error .encoding
  catch
    | .noFileOrDirectory .. => return .error .missing
    | .inappropriateType .. => return .error .directory
    | e => return .error (.other (toString e))

def environment (names : List String) : IO Environment := do
  let entries ← names.mapM fun name => return (← IO.getEnv name).map (name, ·)
  return entries.filterMap id

end Main
end MeshReadings

open MeshReadings in
def main (args : List String) : IO UInt32 := do
  let envText ← Main.readFile CommandLine.envFile
  let assigned := match envText with
    | .ok text => (EnvFile.assignments text.toList).map (·.1)
    | .error _ => []
  let env ← Main.environment (Main.variableNames ++ assigned)
  let full := (CommandLine.environment? (fun _ => envText) env).getD env
  let settingsPath := CommandLine.settingsPath? full args
  let settingsText ← match settingsPath with
    | some path => Main.readFile path
    | none => pure (.error .missing)
  let files : Files :=
    fun path => if path = CommandLine.envFile then envText else settingsText
  let outcome := CommandLine.run files env args
  IO.print outcome.output
  if let some f := outcome.fault? then IO.eprintln f.message
  return UInt32.ofNat outcome.exitCode
