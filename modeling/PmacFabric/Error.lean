import PmacFabric.Control.Message
import PmacFabric.Device.Port

/-!
# Failures

One type per level, innermost first: a device, the fabric manager, the network, and the topology
builder. `message` is the text for people, with one prefix for every level passed; `kind` names the
innermost cause.
-/

namespace PmacFabric

/-- What a single device refuses. -/
inductive DeviceError where
  /-- The device has no such port. -/
  | invalidPort (port : Port)
  /-- The port already has a link. -/
  | portAlreadyConnected (port : Port)
  /-- The host has no link yet. -/
  | notConnected
deriving DecidableEq, Repr

namespace DeviceError

def message : DeviceError → String
  | .invalidPort port => s!"Port {port} does not exist on the device"
  | .portAlreadyConnected port => s!"Port {port} is already connected"
  | .notConnected => "Host is not connected to the fabric"

def kind : DeviceError → String
  | .invalidPort _ => "InvalidPort"
  | .portAlreadyConnected _ => "PortAlreadyConnected"
  | .notConnected => "NotConnected"

end DeviceError

/-- What the fabric manager refuses. -/
inductive ManagerError where
  /-- No switch may send this kind of message. -/
  | unexpectedMessage (message : ControlMessage)
  /-- The sender is not registered. -/
  | unknownSwitch (id : DeviceId)
deriving DecidableEq, Repr

namespace ManagerError

def message : ManagerError → String
  | .unexpectedMessage message =>
    s!"Fabric manager cannot handle the message: {message.inspect}"
  | .unknownSwitch id =>
    s!"Switch {DeviceId.inspect id} is not registered with the fabric manager"

def kind : ManagerError → String
  | .unexpectedMessage _ => "UnexpectedMessage"
  | .unknownSwitch _ => "UnknownSwitch"

end ManagerError

/-- What an operation on the network refuses, or why a run of its queue ended early. -/
inductive NetworkError where
  | device (cause : DeviceError)
  | manager (cause : ManagerError)
  | deviceNotFound (id : DeviceId)
  | deviceNameNotFound (name : String)
  | deviceIsNotASwitch (id : DeviceId)
  | deviceIsNotAHost (id : DeviceId)
  /-- A link joins an upper port with a lower port of another switch. -/
  | invalidLink (south north : Endpoint)
  /-- The event budget ran out before the queue did. -/
  | noConvergence
deriving DecidableEq, Repr

namespace NetworkError

def message : NetworkError → String
  | .device cause => s!"Device Error: {cause.message}"
  | .manager cause => s!"Fabric Manager Error: {cause.message}"
  | .deviceNotFound id => s!"Network device was not found in topology: {DeviceId.inspect id}"
  | .deviceNameNotFound name => s!"Network device name was not found in topology: {name}"
  | .deviceIsNotASwitch id => s!"Network device is not a switch: {DeviceId.inspect id}"
  | .deviceIsNotAHost id => s!"Network device is not a host: {DeviceId.inspect id}"
  | .invalidLink south north => s!"Invalid link: {south.inspect} -> {north.inspect}"
  | .noConvergence => "Network cannot converge in the given time!"

def kind : NetworkError → String
  | .device cause => cause.kind
  | .manager cause => cause.kind
  | .deviceNotFound _ => "DeviceNotFound"
  | .deviceNameNotFound _ => "DeviceNameNotFound"
  | .deviceIsNotASwitch _ => "DeviceIsNotASwitch"
  | .deviceIsNotAHost _ => "DeviceIsNotAHost"
  | .invalidLink _ _ => "InvalidLink"
  | .noConvergence => "NoConvergence"

end NetworkError

/-- What the topology builder refuses. -/
inductive TopologyError where
  | network (cause : NetworkError)
  /-- The parameter is odd or out of range. -/
  | invalidK (k : Nat)
  /-- No switch or host has this place. -/
  | invalidLocation (pod position port : Nat)
deriving DecidableEq, Repr

namespace TopologyError

/-- The largest parameter: the number of every core switch has to fit into one octet. -/
def maxK : Nat := 32

def message : TopologyError → String
  | .network cause => s!"Network Error: {cause.message}"
  | .invalidK k => s!"Invalid fat-tree parameter k = {k}: must be even and between 2 and {maxK}"
  | .invalidLocation pod position port =>
    s!"No such location in the fat-tree: pod {pod}, position {position}, port {port}"

def kind : TopologyError → String
  | .network cause => cause.kind
  | .invalidK _ => "InvalidK"
  | .invalidLocation _ _ _ => "InvalidLocation"

end TopologyError

/-- Any failure of the library. -/
inductive FabricError where
  | network (cause : NetworkError)
  | topology (cause : TopologyError)
deriving DecidableEq, Repr

def FabricError.message : FabricError → String
  | .network cause => s!"Network Error: {cause.message}"
  | .topology cause => s!"Topology Error: {cause.message}"

instance : Coe DeviceError NetworkError := ⟨.device⟩

instance : Coe NetworkError TopologyError := ⟨.network⟩

end PmacFabric
