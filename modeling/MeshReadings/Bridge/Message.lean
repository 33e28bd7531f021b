import MeshReadings.Bridge.Basic
import MeshReadings.Reading.Raw

/-!
Messages from the broker. A list of devices replaces the one before, a response answers
the request with its transaction, and the state of a device becomes events for the keys
listened to under its name. A payload that cannot be read changes nothing.
-/

namespace MeshReadings
namespace Bridge

inductive Subject
  | devices
  | response
  | state (friendlyName : String)
deriving DecidableEq

def devicesTopic : List Char := "bridge/devices".toList

def responseTopic : List Char := "bridge/response/device/".toList

def bridgeTopic : List Char := "bridge/".toList

/-- The subject of a topic below the base. What else the bridge says of itself is passed
over. -/
def Subject.ofPath? (path : List Char) : Option Subject :=
  if path = devicesTopic then some .devices
  else if responseTopic.isPrefixOf path then some .response
  else if bridgeTopic.isPrefixOf path then none
  else some (.state (String.ofList path))

def Subject.ofTopic? (base topic : String) : Option Subject :=
  ((base.toList ++ ['/']).isPrefixOf? topic.toList).bind Subject.ofPath?

structure Response where
  status : String
  error : Option String
  transaction : Option String
deriving DecidableEq

namespace Response

open Json.Reader in
def reader : Json.Reader Response :=
  record "BridgeResponse"
    [ field "status" true string fun r v => { r with status := v },
      field "error" false (option string) fun r v => { r with error := v },
      field "transaction" false (option string) fun r v => { r with transaction := v } ]
    ⟨"", none, none⟩

def reply (r : Response) : Reply :=
  if r.status = "ok" then .ok else .refused (r.error.getD r.status)

end Response

def handleDevices (b : Bridge) (payload : String) : Bridge :=
  match Directory.read payload with
  | .ok devices => { b with devices := devices, isLoaded := true }
  | .error _ => b

/-- Answers the caller of a transaction, which is over with that. -/
def answer (b : Bridge) (n : Nat) (r : Reply) : Bridge :=
  { b with
    pending := b.pending.filter (· != n)
    waits := b.waits.map fun (t, w) => match w with
      | .response m deadline none =>
          if m = n then (t, .response m deadline (some r)) else (t, w)
      | w => (t, w) }

/-- Takes in a response. One to no pending transaction is passed over. -/
def handleResponse (b : Bridge) (payload : String) : Bridge :=
  match Json.readText Response.reader payload with
  | .error _ => b
  | .ok r =>
    match r.transaction with
    | none => b
    | some text =>
      match b.pending.find? fun n => transactionText n == text with
      | none => b
      | some n => b.answer n r.reply

/-- The event of one key in a device's state. -/
def event? (state : List (String × Json)) (key : Key) : Option AttributeEvent := do
  let known ← KnownAttribute.find? key.cluster key.attributeId
  let value ← Json.find? known.property state
  let raw ← Raw.ofProperty? value known.encoding
  return ⟨key, raw⟩

/-- The events in the state of a device, in the order in which its keys were added. -/
def events (b : Bridge) (friendlyName payload : String) : List AttributeEvent :=
  match Json.readText (Json.Reader.dictionary Json.Reader.any) payload with
  | .error _ => []
  | .ok state => (b.keysAt friendlyName).filterMap (event? state)

def handle (b : Bridge) (topic payload : String) : Bridge × List AttributeEvent :=
  match Subject.ofTopic? b.baseTopic topic with
  | none => (b, [])
  | some .devices => (b.handleDevices payload, [])
  | some .response => (b.handleResponse payload, [])
  | some (.state friendlyName) => (b, b.events friendlyName payload)

end Bridge
end MeshReadings
