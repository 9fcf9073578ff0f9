import PmacFabric.Frame.Basic
import PmacFabric.Text.Hex

/-!
# What a switch reads from a frame

`Frame.headers` extracts the fields on which forwarding depends. `Frame.describe` writes a frame on
one line.
-/

namespace PmacFabric

/-- The fields of a frame that matter for its way through the fabric. -/
structure FrameHeaders where
  /-- The hardware address of the sender, its own one when the sender is a host. -/
  srcMac : MacAddress
  /-- Inside the fabric a PMAC. -/
  dstMac : MacAddress
  etherType : UInt16
  /-- The ARP sender or the IPv4 source. -/
  srcIp : Option Ipv4Address
  /-- The ARP target or the IPv4 destination. -/
  dstIp : Option Ipv4Address
  isArpRequest : Bool
deriving DecidableEq, Repr

/-- Source and destination, when the frame has both. -/
def FrameHeaders.ips (headers : FrameHeaders) : Option (Ipv4Address × Ipv4Address) :=
  match headers.srcIp, headers.dstIp with
  | some src, some dst => some (src, dst)
  | _, _ => none

namespace Frame

def headers (frame : Frame) : FrameHeaders :=
  match frame.payload with
  | .arp packet =>
    ⟨frame.src, frame.dst, frame.etherType, some packet.senderIp, some packet.targetIp,
      packet.isRequest⟩
  | .ipv4 packet =>
    ⟨frame.src, frame.dst, frame.etherType, some packet.src, some packet.dst, false⟩
  | .raw _ _ => ⟨frame.src, frame.dst, frame.etherType, none, none, false⟩

private def describePayload : Payload → String
  | .arp packet =>
    if packet.isRequest then
      s!"ARP who-has {packet.targetIp} tell {packet.senderIp} ({packet.senderHw})"
    else
      s!"ARP {packet.senderIp} is-at {packet.senderHw} " ++
        s!"(to {packet.targetIp} at {packet.targetHw})"
  | .ipv4 packet => s!"IPv4 {packet.src} -> {packet.dst}, {packet.data.length} bytes"
  | .raw etherType data =>
    "type 0x" ++ String.ofList (Hex.word etherType) ++ s!", {data.length} bytes"

/-- Both hardware addresses and a summary of the payload. -/
def describe (frame : Frame) : String :=
  s!"[{frame.src} -> {frame.dst}] " ++ describePayload frame.payload

end Frame

end PmacFabric
