import MeshReadings.Fault
import MeshReadings.Key
import MeshReadings.KnownAttribute

/-!
The devices that the bridge knows, as its last readable list told them. Of several entries
with one address the last counts, and so does the last of several endpoints with one name.
-/

namespace MeshReadings
namespace Bridge

structure Device where
  address : String
  friendlyName : String
  /-- The endpoints by name, each with the clusters it serves. -/
  endpoints : List (String × List String)
deriving DecidableEq

namespace Device

open Json.Reader in
def endpointReader : Json.Reader (List String) :=
  record "EndpointInfo"
    [ field "clusters" false
      (record "EndpointClusters" [field "input" false (list string) fun _ v => v] [])
        fun _ v => v ]
    []

open Json.Reader in
def reader : Json.Reader Device :=
  record "DeviceInfo"
    [ field "ieee_address" true string fun d v => { d with address := v },
      field "friendly_name" true string fun d v => { d with friendlyName := v },
      field "endpoints" false (dictionary endpointReader) fun d v =>
        { d with endpoints := v } ]
    ⟨"", "", []⟩

def clusters? (d : Device) (endpoint : String) : Option (List String) :=
  (d.endpoints.reverse.find? (·.1 == endpoint)).map (·.2)

/-- Whether the device serves the attribute, as far as the bridge can tell. -/
def serves (d : Device) (key : Key) : Bool :=
  match d.clusters? (String.ofList (Text.digits key.endpoint.toNat)) with
  | none => false
  | some clusters =>
    clusters.contains key.cluster.bridgeName &&
      (KnownAttribute.find? key.cluster key.attributeId).isSome

end Device

abbrev Directory := List Device

namespace Directory

def find? (ds : Directory) (address : String) : Option Device :=
  ds.reverse.find? (·.address == address)

def friendlyName? (ds : Directory) (key : Key) : Option String :=
  (Directory.find? ds key.device).map (·.friendlyName)

def serves (ds : Directory) (key : Key) : Bool :=
  match Directory.find? ds key.device with
  | none => false
  | some d => d.serves key

def read (payload : String) : Except Json.ReadError Directory :=
  Json.readText (Json.Reader.list Device.reader) payload

theorem isSome_friendlyName_of_serves {ds : Directory} {key : Key}
    (h : serves ds key = true) : (friendlyName? ds key).isSome = true := by
  simp only [serves] at h
  simp only [friendlyName?, Option.isSome_map]
  split at h
  · exact absurd h Bool.false_ne_true
  · simp [*]

end Directory
end Bridge
end MeshReadings
