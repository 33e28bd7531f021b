import MeshReadings.Mqtt.Client
import MeshReadings.Reading.Value

/-!
Where new readings go. Every reading is an update of a channel, which may be logged, kept
in a queue, or published through a broker, where it is retained for whoever subscribes
later.
-/

namespace MeshReadings
namespace Channel

structure Update where
  channel : String
  value : Value
deriving DecidableEq

def topic (base channel : String) : String := base ++ "/" ++ channel

namespace Update

def logLine (u : Update) : String := "[Channel] " ++ u.channel ++ " = " ++ u.value.display

def request (u : Update) (base : String) : Mqtt.Request :=
  .publish (topic base u.channel) 1 true u.value.toJson.compact

end Update

/-- Publishes an update through a client. One that the client refuses is dropped. -/
def publish (base : String) (c : Mqtt.Client) (u : Update) : Mqtt.Client :=
  c.offer (u.request base)

end Channel
end MeshReadings
