import MeshReadings.Bridge.Basic
import MeshReadings.Settings.SyncedAttribute

/-!
All settings with their defaults, as a settings file holds them. Whatever a file leaves
out has its default.
-/

namespace MeshReadings
namespace Settings

structure Broker where
  host : String := "localhost"
  tcpPort : UInt16 := 1883
  clientId : String := "zigbee-attribute-sync"
  username : Option String := none
  password : Option String := none
deriving DecidableEq

open Json.Reader in
def Broker.reader : Json.Reader Broker :=
  record "MqttConfig"
    [ field "broker_host" false string fun b v => { b with host := v },
      field "broker_port" false uint16 fun b v => { b with tcpPort := v },
      field "client_id" false string fun b v => { b with clientId := v },
      field "username" false (option string) fun b v => { b with username := v },
      field "password" false (option string) fun b v => { b with password := v } ]
    {}

open Json.Reader in
def bridgeReader : Json.Reader Bridge.Settings :=
  record "Zigbee2MqttConfig"
    [ field "base_topic" false string fun b v => { b with baseTopic := v },
      field "coordinator" false string fun b v => { b with coordinator := v },
      field "response_timeout_secs" false uint64 fun b v =>
        { b with responseTimeout := v } ]
    {}

structure Sync where
  /-- How many seconds a command may take. -/
  commandTimeout : UInt64 := 10
  publishTopic : Option String := none
deriving DecidableEq

open Json.Reader in
def Sync.reader : Json.Reader Sync :=
  record "SyncConfig"
    [ field "command_timeout_secs" false uint64 fun s v => { s with commandTimeout := v },
      field "publish_topic" false (option string) fun s v =>
        { s with publishTopic := v } ]
    {}

end Settings

structure Settings where
  broker : Settings.Broker := {}
  bridge : Bridge.Settings := {}
  sync : Settings.Sync := {}
  attributes : List Settings.SyncedAttribute := []
deriving DecidableEq

namespace Settings

open Json.Reader in
def reader : Json.Reader Settings :=
  record "Config"
    [ field "mqtt" false Broker.reader fun s v => { s with broker := v },
      field "zigbee2mqtt" false bridgeReader fun s v => { s with bridge := v },
      field "sync" false Sync.reader fun s v => { s with sync := v },
      field "attributes" false (list SyncedAttribute.reader) fun s v =>
        { s with attributes := v } ]
    {}

def read (text : String) : Except Json.ReadError Settings := Json.readText reader text

end Settings
end MeshReadings
