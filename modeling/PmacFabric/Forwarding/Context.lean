import PmacFabric.Control.Manager
import PmacFabric.Forwarding.PmacTable
import PmacFabric.Forwarding.Route
import PmacFabric.Frame.Headers

/-!
# What a forwarding decision sees and changes

A decision about a frame reads the `Site` of the switch, which never changes, and threads a
`ForwardState`: the PMAC table, the fabric manager, the numbers drawn so far, and the events that
the manager raised on the way. Its `Verdict` is the list of frames to transmit, or the reason for
dropping the frame. A drop keeps the changes made before it.
-/

namespace PmacFabric

/-- Why a switch drops a frame. Drops are counted, never reported to the sender. -/
inductive DropReason where
  /-- The destination address is not registered. -/
  | unresolved
  /-- The frame carries neither ARP nor IPv4. -/
  | unsupportedProtocol
  /-- No host of the edge switch has the destination PMAC. -/
  | unknownPmac
  /-- The frame or message came from where the tier never receives one. -/
  | protocolViolation
  /-- The port towards the destination does not exist. -/
  | invalidPort
deriving DecidableEq, Repr, Inhabited, Ord

namespace DropReason

/-- All reasons, in the order in which counters are listed. -/
def all : List DropReason :=
  [.unresolved, .unsupportedProtocol, .unknownPmac, .protocolViolation, .invalidPort]

/-- The name under which a reason is reported. -/
def text : DropReason → String
  | .unresolved => "Unresolved"
  | .unsupportedProtocol => "UnsupportedProtocol"
  | .unknownPmac => "UnknownPmac"
  | .protocolViolation => "ProtocolViolation"
  | .invalidPort => "InvalidPort"

instance : ToString DropReason := ⟨text⟩

end DropReason

/-- The frames to transmit, each with its port, or the reason for the drop. -/
abbrev Verdict := Except DropReason (List (Port × Frame))

/-- The fixed data of a switch that decides about a frame. -/
structure Site where
  id : DeviceId
  identity : SwitchIdentity
  numLower : Nat
  numUpper : Nat
  /-- The numbers that the switch draws. -/
  stream : Choice.Stream

def Site.hasPort (site : Site) : Port → Bool
  | .lower i => i < site.numLower
  | .upper i => i < site.numUpper

/-- What a decision may change. -/
structure ForwardState where
  table : PmacTable
  manager : FabricManager
  /-- How many numbers the switch has drawn. -/
  drawn : Nat := 0
  /-- Events raised by the manager, in order. -/
  raised : List Event := []

namespace ForwardState

/-- The port towards `dst`, if the switch has it. -/
def route (state : ForwardState) (site : Site) (dst : Pmac) : Option Port × ForwardState :=
  ((outputPort site.identity dst site.numUpper (site.stream state.drawn)).filter site.hasPort,
    { state with drawn := state.drawn + 1 })

/-- Sends a message to the manager and returns its reply. -/
def tell (state : ForwardState) (site : Site) (message : ControlMessage) :
    Except ManagerError ControlMessage × ForwardState :=
  let answer := state.manager.receive site.id message
  (answer.reply,
    { state with manager := answer.manager, raised := state.raised ++ answer.events })

/-- Registers a host; a refusal has no consequence. -/
def register (state : ForwardState) (site : Site) (ip : Ipv4Address) (pmac : Pmac) :
    ForwardState :=
  (state.tell site (.macRegister ip pmac)).2

/-- Asks for the PMAC of `dstIp`; the broadcast address if the manager has or gives none. -/
def query (state : ForwardState) (site : Site) (dstIp srcIp : Ipv4Address) (srcPmac : Pmac) :
    Pmac × ForwardState :=
  let (reply, state) := state.tell site (.arpRequest srcIp srcPmac dstIp)
  match reply with
  | .ok (.arpResponse _ _ _ dstPmac) => (dstPmac, state)
  | _ => (.broadcast, state)

end ForwardState

/-- One copy of a frame for every lower port. -/
def Site.floodLower (site : Site) (frame : Frame) : List (Port × Frame) :=
  (List.range site.numLower).map fun i => (.lower i, frame)

end PmacFabric
