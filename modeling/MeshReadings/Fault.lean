import MeshReadings.Json.Reader
import MeshReadings.Text.Duration

/-!
What can go wrong while readings are kept fresh. Most faults only cost a binding its
reports; four of them leave it failed until it is opened anew.
-/

namespace MeshReadings

inductive FileFault
  | missing
  | notDirectory
  | directory
  | encoding
  | other (message : String)
deriving DecidableEq

def FileFault.message : FileFault → String
  | .missing => "No such file or directory (os error 2)"
  | .notDirectory => "Not a directory (os error 20)"
  | .directory => "Is a directory (os error 21)"
  | .encoding => "stream did not contain valid UTF-8"
  | .other m => m

inductive Fault
  | attributeNotFound (what : String)
  | transport (why : String)
  | timeout (ms : Nat)
  | unsupported (feature : String)
  | gatewayClosed
  | disposed
  | decode (why : String)
  | settings (why : String)
  | file (fault : FileFault)
  | json (error : Json.ReadError)
  | clientRefused
deriving DecidableEq

namespace Fault

def message : Fault → String
  | attributeNotFound what => "Attribute not found on device: " ++ what
  | transport why => "Gateway transport failure: " ++ why
  | timeout ms => "Gateway command timed out after " ++ Text.duration ms
  | unsupported feature => "Feature not supported by device: " ++ feature
  | gatewayClosed => "Device gateway is closed"
  | disposed => "Sync engine has been disposed"
  | decode why => "Failed to decode attribute value: " ++ why
  | settings why => "Invalid configuration: " ++ why
  | file fault => fault.message
  | json error => error.message
  | clientRefused => "Failed to send mqtt requests to eventloop"

/-- Whether polling can stand in after the fault. -/
def isRecoverable : Fault → Bool
  | gatewayClosed | disposed | attributeNotFound _ | settings _ => false
  | _ => true

end Fault
end MeshReadings
