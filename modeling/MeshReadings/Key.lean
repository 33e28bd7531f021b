import MeshReadings.Cluster

/-!
Which attribute is meant: a device by its network address, one of its endpoints, a cluster
there, and an attribute of the cluster. A key has a text for messages and a shorter one
that addresses the endpoint.
-/

namespace MeshReadings

structure Key where
  device : String
  endpoint : UInt8
  cluster : Cluster
  attributeId : UInt16
deriving DecidableEq, Inhabited

namespace Key

/-- The endpoint as the bridge addresses it. -/
def endpointAddress (k : Key) : String :=
  k.device ++ "/" ++ String.ofList (Text.digits k.endpoint.toNat)

/-- The endpoint, then cluster and attribute as four hexadecimal digits each. -/
def display (k : Key) : String :=
  k.endpointAddress ++ " 0x" ++ String.ofList (Text.hex true 4 k.cluster.id.toNat) ++
    "/0x" ++ String.ofList (Text.hex true 4 k.attributeId.toNat)

def toJson (k : Key) : Json :=
  .obj [("device", .str k.device), ("endpoint", .int k.endpoint.toNat),
    ("cluster", .str k.cluster.name), ("attribute", .int k.attributeId.toNat)]

open Json.Reader in
def reader : Json.Reader Key :=
  record "AttributeKey"
    [ field "device" true string fun k v => { k with device := v },
      field "endpoint" true uint8 fun k v => { k with endpoint := v },
      field "cluster" true Cluster.reader fun k v => { k with cluster := v },
      field "attribute" true uint16 fun k v => { k with attributeId := v } ]
    default

end Key
end MeshReadings
