import PmacFabric.Control.Message
import PmacFabric.Device.Port
import PmacFabric.Frame.Basic

/-!
# Events

Everything that happens in the fabric is the arrival of a frame at a port, or of a message from the
fabric manager at a switch.
-/

namespace PmacFabric

inductive Event where
  | frame (target : Endpoint) (frame : Frame)
  | control (target : DeviceId) (message : ControlMessage)
deriving DecidableEq, Repr

end PmacFabric
