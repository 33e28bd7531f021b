import MeshReadings.Fault
import MeshReadings.Settings.Basic
import MeshReadings.Settings.Environment

/-!
How settings come together: defaults, over them the file, over that the environment.
Settings hold together when commands have time to finish and no two attributes share a
channel.
-/

namespace MeshReadings
namespace Settings

/-- The settings with what the environment says in place of what a file says. -/
def overlay (s : Settings) (env : Environment) : Settings where
  broker :=
    { host := (env.get? "MQTT_BROKER_HOST").getD s.broker.host
      tcpPort :=
        ((env.getNumber? "MQTT_BROKER_PORT" 65535).map UInt16.ofNat).getD s.broker.tcpPort
      clientId := (env.get? "MQTT_CLIENT_ID").getD s.broker.clientId
      username := (env.get? "MQTT_USERNAME").orElse fun _ => s.broker.username
      password := (env.get? "MQTT_PASSWORD").orElse fun _ => s.broker.password }
  bridge :=
    { s.bridge with baseTopic := (env.get? "Z2M_BASE_TOPIC").getD s.bridge.baseTopic }
  sync :=
    { commandTimeout :=
        ((env.getNumber? "SYNC_COMMAND_TIMEOUT_SECS" (UInt64.size - 1)).map
          UInt64.ofNat).getD s.sync.commandTimeout
      publishTopic :=
        (env.get? "SYNC_PUBLISH_TOPIC").orElse fun _ => s.sync.publishTopic }
  attributes := s.attributes

/-- The first entry that was there before. -/
def firstRepeated? : List String → List String → Option String
  | _, [] => none
  | before, c :: cs =>
      if before.contains c then some c else firstRepeated? (c :: before) cs

def validate (s : Settings) : Except Fault Settings :=
  if s.sync.commandTimeout = 0 then
    .error (.settings "command_timeout_secs must be positive")
  else match firstRepeated? [] (s.attributes.map (·.channel)) with
    | some channel => .error (.settings ("duplicate channel '" ++ channel ++ "'"))
    | none => .ok s

def ofText (text : String) : Except Fault Settings := (read text).mapError .json

/-- The settings of a file's text, if there is a file, and an environment. -/
def load (text? : Option String) (env : Environment) : Except Fault Settings := do
  let s ← match text? with
    | none => .ok {}
    | some text => ofText text
  (s.overlay env).validate

end Settings
end MeshReadings
