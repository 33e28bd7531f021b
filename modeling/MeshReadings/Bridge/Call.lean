import MeshReadings.Bridge.Basic

/-!
Calls to the bridge, from the request that is sent to the reply that the caller takes
away. A call that cannot be made is answered on the spot, any other when its response
comes or its time is up.
-/

namespace MeshReadings
namespace Bridge

def friendlyName? (b : Bridge) (key : Key) : Option String :=
  Directory.friendlyName? b.devices key

def resolution (b : Bridge) (key : Key) : Reply :=
  if Directory.serves b.devices key then .ok else .fault (.attributeNotFound key.display)

def requestTopic (b : Bridge) (operation : String) : String :=
  b.baseTopic ++ "/bridge/request/device/" ++ operation

/-- Sends a request with a transaction of its own and waits for the response. -/
def request (b : Bridge) (now : Nat) (t : Ticket) (operation : String)
    (fields : List (String × Json)) : Bridge × Option Reply :=
  if b.isClosed then (b, some (.fault .gatewayClosed))
  else
    let n := b.transactions + 1
    let body := Json.obj (fields ++ [("transaction", .str (transactionText n))])
    match b.client.send? (.publish (b.requestTopic operation) 1 false body.compact) with
    | none =>
        (b, some (.fault (.transport
          (operation ++ " publish failed: " ++ Fault.clientRefused.message))))
    | some client =>
      ({ b with client := client, transactions := n, pending := n :: b.pending }.putWait t
        (.response n (now + b.timeout) none), none)

def bindFields (b : Bridge) (key : Key) : List (String × Json) :=
  [("clusters", .arr [.str key.cluster.bridgeName]), ("from", .str key.endpointAddress),
    ("to", .str b.settings.coordinator)]

def reportFields (key : Key) (known : KnownAttribute) (min max : Nat)
    (change : Option Binary64) : List (String × Json) :=
  [("attribute", .str known.name), ("cluster", .str key.cluster.bridgeName),
    ("id", .str key.endpointAddress), ("maximum_report_interval", .int max),
    ("minimum_report_interval", .int min),
    ("reportable_change", .num (change.getD Binary64.zero))]

def unsupported (key : Key) : Reply := .fault (.unsupported ("attribute " ++ key.display))

/-- Asks the device for the value, which comes as a state message. -/
def read (b : Bridge) (key : Key) : Bridge × Reply :=
  if b.isClosed then (b, .fault .gatewayClosed)
  else match KnownAttribute.find? key.cluster key.attributeId with
    | none => (b, unsupported key)
    | some known =>
      match b.friendlyName? key with
      | none => (b, .fault (.attributeNotFound key.display))
      | some name =>
        let body := Json.obj [(known.property, .str "")]
        match b.client.send?
          (.publish (b.baseTopic ++ "/" ++ name ++ "/get") 0 false body.compact) with
        | none =>
            (b, .fault
              (.transport ("read publish failed: " ++ Fault.clientRefused.message)))
        | some client => ({ b with client := client }, .ok)

/-- Adds a key to those listened to. While it is the only one of its device, the device's
topic is subscribed to. -/
def listen (b : Bridge) (key : Key) : Bridge × Reply :=
  match b.friendlyName? key with
  | none => (b, .fault (.attributeNotFound key.display))
  | some name =>
    let keys := b.keysAt name
    let keys := if keys.contains key then keys else keys ++ [key]
    let b := b.setKeys name keys
    if keys.length = 1 then
      match b.client.send? (.subscribe (b.baseTopic ++ "/" ++ name) 0) with
      | none => (b, .fault .clientRefused)
      | some client => ({ b with client := client }, .ok)
    else (b, .ok)

/-- Removes a key from those listened to under the present name of its device. With the
last key goes the subscription. -/
def unlisten (b : Bridge) (key : Key) : Bridge :=
  match b.friendlyName? key with
  | none => b
  | some name =>
    match b.listeners.find? (·.1 == name) with
    | none => b
    | some (_, keys) =>
      let keys := keys.filter (· != key)
      let b := b.setKeys name keys
      if keys.isEmpty then
        { b with client := b.client.offer (.unsubscribe (b.baseTopic ++ "/" ++ name)) }
      else b

def place (b : Bridge) (now : Nat) (t : Ticket) (key : Key) : Call → Bridge × Option Reply
  | .resolve => (b.putWait t (.devices key (now + b.timeout)), none)
  | .bind => b.request now t "bind" (b.bindFields key)
  | .report min max change =>
    match KnownAttribute.find? key.cluster key.attributeId with
    | none => (b, some (unsupported key))
    | some known =>
        b.request now t "configure_reporting" (reportFields key known min max change)
  | .read => let (b, r) := b.read key; (b, some r)
  | .listen => let (b, r) := b.listen key; (b, some r)
  | .unlisten => (b.unlisten key, some .ok)

/-- Begins a call. A caller that waits already makes no other. -/
def call (b : Bridge) (now : Nat) (t : Ticket) (key : Key) (c : Call) :
    Bridge × Option Reply :=
  if (b.wait? t).isSome then (b, none) else b.place now t key c

/-- The reply to a call, once it is known. A response that has come counts even when the
time is up. -/
def reply? (b : Bridge) (now : Nat) (t : Ticket) : Option Reply :=
  match b.wait? t with
  | none => none
  | some (.devices key deadline) =>
    if b.isLoaded || deadline ≤ now then some (b.resolution key) else none
  | some (.response _ deadline answer) =>
    match answer with
    | some r => some r
    | none => if deadline ≤ now then some (.fault (.timeout b.timeout)) else none

def deadline? (b : Bridge) (t : Ticket) : Option Nat :=
  match b.wait? t with
  | none => none
  | some (.devices _ deadline) | some (.response _ deadline _) => some deadline

def settle (b : Bridge) (t : Ticket) : Bridge :=
  match b.wait? t with
  | some (.response n _ _) => { b with pending := b.pending.filter (· != n) }.abandon t
  | _ => b.abandon t

end Bridge
end MeshReadings
