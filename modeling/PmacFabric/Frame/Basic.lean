import PmacFabric.Address.Ipv4
import PmacFabric.Address.Mac

/-!
# Frames

A frame carries two hardware addresses and a payload: an ARP packet, an IPv4 packet, or bytes of
another protocol. Only the fields that forwarding needs are modelled; data is opaque.
-/

namespace PmacFabric

abbrev Bytes := List UInt8

inductive ArpOperation where
  /-- Who has the target address? -/
  | request
  /-- The sender address is at the sender hardware. -/
  | reply
deriving DecidableEq, Repr, Inhabited

/-- An ARP packet for IPv4 over Ethernet. -/
structure ArpPacket where
  operation : ArpOperation
  senderHw : MacAddress
  senderIp : Ipv4Address
  targetHw : MacAddress
  targetIp : Ipv4Address
deriving DecidableEq, Repr

namespace ArpPacket

/-- A question for the hardware address of `targetIp`, which is left zero. -/
def request (senderHw : MacAddress) (senderIp targetIp : Ipv4Address) : ArpPacket :=
  ⟨.request, senderHw, senderIp, .zero, targetIp⟩

/-- The answer that `senderIp` is at `senderHw`. -/
def reply (senderHw : MacAddress) (senderIp : Ipv4Address) (targetHw : MacAddress)
    (targetIp : Ipv4Address) : ArpPacket :=
  ⟨.reply, senderHw, senderIp, targetHw, targetIp⟩

def isRequest (arp : ArpPacket) : Bool := arp.operation = .request

end ArpPacket

structure Ipv4Packet where
  src : Ipv4Address
  dst : Ipv4Address
  data : Bytes
deriving DecidableEq, Repr

inductive Payload where
  | arp (packet : ArpPacket)
  | ipv4 (packet : Ipv4Packet)
  | raw (etherType : UInt16) (data : Bytes)
deriving DecidableEq, Repr

structure Frame where
  src : MacAddress
  dst : MacAddress
  payload : Payload
deriving DecidableEq, Repr

namespace Frame

def ipv4Type : UInt16 := 0x0800

def arpType : UInt16 := 0x0806

/-- The protocol number of the payload. -/
def etherType (frame : Frame) : UInt16 :=
  match frame.payload with
  | .arp _ => arpType
  | .ipv4 _ => ipv4Type
  | .raw etherType _ => etherType

/-- The bytes that the frame takes on the wire: a header of 14, and an ARP packet of 28, or an IPv4
header of 20 with its data, or the raw data. -/
def size (frame : Frame) : Nat :=
  14 + match frame.payload with
    | .arp _ => 28
    | .ipv4 packet => 20 + packet.data.length
    | .raw _ data => data.length

def arp? (frame : Frame) : Option ArpPacket :=
  match frame.payload with
  | .arp packet => some packet
  | _ => none

end Frame

end PmacFabric
