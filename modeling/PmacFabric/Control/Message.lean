import PmacFabric.Address.Ipv4
import PmacFabric.Address.Pmac

/-!
# Control messages

What switches and the fabric manager say to each other. Switches register hosts and ask for
addresses; the fabric manager acknowledges, answers, and has core switches ask all hosts.
-/

namespace PmacFabric

inductive ControlMessage where
  /-- To the manager: a newly seen host has this PMAC. -/
  | macRegister (hostIp : Ipv4Address) (pmac : Pmac)
  /-- To the manager: which PMAC has `dstIp`? -/
  | arpRequest (srcIp : Ipv4Address) (srcPmac : Pmac) (dstIp : Ipv4Address)
  /-- From the manager: `dstIp` has `dstPmac`, which is the broadcast address if it is unknown. -/
  | arpResponse (srcIp : Ipv4Address) (srcPmac : Pmac) (dstIp : Ipv4Address) (dstPmac : Pmac)
  /-- From the manager to a core switch: ask every host for `dstIp`. -/
  | arpFlood (dstIp srcIp : Ipv4Address) (srcPmac : Pmac)
  /-- From the manager: done. -/
  | ack
deriving DecidableEq, Repr

namespace ControlMessage

/-- The name of the kind of message. -/
def kind : ControlMessage → String
  | .macRegister .. => "MAC_REGISTER"
  | .arpRequest .. => "ARP_REQUEST"
  | .arpResponse .. => "ARP_RESPONSE"
  | .arpFlood .. => "ARP_FLOOD"
  | .ack => "ACK"

/-- The message on one line, for people. -/
def describe (message : ControlMessage) : String :=
  match message with
  | .macRegister hostIp pmac => s!"MAC_REGISTER {hostIp} at {pmac}"
  | .arpRequest srcIp _ dstIp => s!"ARP_REQUEST {dstIp} from {srcIp}"
  | .arpResponse _ _ dstIp dstPmac => s!"ARP_RESPONSE {dstIp} is at {dstPmac}"
  | .arpFlood dstIp srcIp srcPmac => s!"ARP_FLOOD who-has {dstIp} tell {srcIp} ({srcPmac})"
  | .ack => "ACK"

/-- The form in which error texts quote a message: kind and all fields. -/
def inspect (message : ControlMessage) : String :=
  match message with
  | .macRegister hostIp pmac =>
    s!"MacRegister \x7b host_ip: {hostIp}, pmac: {pmac.inspect} \x7d"
  | .arpRequest srcIp srcPmac dstIp =>
    s!"ArpRequest \x7b src_ip: {srcIp}, src_pmac: {srcPmac.inspect}, dst_ip: {dstIp} \x7d"
  | .arpResponse srcIp srcPmac dstIp dstPmac =>
    s!"ArpResponse \x7b src_ip: {srcIp}, src_pmac: {srcPmac.inspect}, dst_ip: {dstIp}, " ++
      s!"dst_pmac: {dstPmac.inspect} \x7d"
  | .arpFlood dstIp srcIp srcPmac =>
    s!"ArpFlood \x7b dst_ip: {dstIp}, src_ip: {srcIp}, src_pmac: {srcPmac.inspect} \x7d"
  | .ack => "Ack"

end ControlMessage

end PmacFabric
