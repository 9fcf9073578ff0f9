import PmacFabric.Forwarding.Context

/-!
# Edge switches

Edge switches assign PMACs to their hosts and exchange addresses at the border of the fabric: a
frame from a host leaves with PMACs, a frame to a host arrives with the host's own address.
-/

namespace PmacFabric.Edge

/-- The PMAC of the sending host. A host that is not in the table gets one for its port, and is
registered with the manager. -/
def sourcePmac (site : Site) (inPort : Nat) (amac : MacAddress) (ip : Ipv4Address)
    (state : ForwardState) : Except DropReason Pmac × ForwardState :=
  match state.table.pmacOfIp? ip with
  | some pmac => (.ok pmac, state)
  | none =>
    if inPort < 256 then
      let pmac := Pmac.encode site.identity.pod site.identity.position (UInt8.ofNat inPort)
      let state := { state with table := state.table.add ⟨pmac, amac, ip, inPort⟩ }
      (.ok pmac, state.register site ip pmac)
    else (.error .invalidPort, state)

/-- The PMAC of the destination, from the own table or else from the manager. -/
def destinationPmac (site : Site) (dstIp srcIp : Ipv4Address) (srcPmac : Pmac)
    (state : ForwardState) : Pmac × ForwardState :=
  match state.table.pmacOfIp? dstIp with
  | some pmac => (pmac, state)
  | none => state.query site dstIp srcIp srcPmac

/-- The frame as it enters the fabric: from a PMAC, to `dst`. An ARP packet names the sender by its
PMAC, and an ARP reply names its target by `dst`. -/
def inbound (frame : Frame) (srcPmac : Pmac) (dst : MacAddress) : Frame :=
  { src := srcPmac.mac
    dst
    payload :=
      match frame.payload with
      | .arp arp =>
        .arp { arp with
          senderHw := srcPmac.mac
          targetHw := if arp.isRequest then arp.targetHw else dst }
      | payload => payload }

/-- The frame as it reaches a host: to the host's own address. An ARP reply names its sender by the
source of the frame, and its target by the host's own address. -/
def outbound (frame : Frame) (amac : MacAddress) : Frame :=
  { frame with
    dst := amac
    payload :=
      match frame.payload with
      | .arp arp =>
        .arp (if arp.isRequest then arp else { arp with senderHw := frame.src, targetHw := amac })
      | payload => payload }

/-- Sends a frame with resolved addresses: down to a host of this switch, or up. -/
def forward (site : Site) (frame : Frame) (srcPmac dstPmac : Pmac) (state : ForwardState) :
    Verdict × ForwardState :=
  match state.route site dstPmac with
  | (none, state) => (.error .invalidPort, state)
  | (some (.upper i), state) => (.ok [(.upper i, inbound frame srcPmac dstPmac.mac)], state)
  | (some (.lower i), state) =>
    match state.table.amac? dstPmac with
    | none => (.error .unknownPmac, state)
    | some amac => (.ok [(.lower i, inbound frame srcPmac amac)], state)

/-- A frame from below. It is dropped while its destination is unresolved: the manager has the
question flooded, and the destination will answer it. -/
def fromBelow (site : Site) (inPort : Nat) (frame : Frame) (state : ForwardState) :
    Verdict × ForwardState :=
  match frame.headers.ips with
  | none => (.error .unsupportedProtocol, state)
  | some (srcIp, dstIp) =>
    match sourcePmac site inPort frame.src srcIp state with
    | (.error reason, state) => (.error reason, state)
    | (.ok srcPmac, state) =>
      let (dstPmac, state) := destinationPmac site dstIp srcIp srcPmac state
      if dstPmac.isBroadcast then (.error .unresolved, state)
      else forward site frame srcPmac dstPmac state

/-- A frame from above: a broadcast goes to every lower port, any other to the host with the
destination PMAC. -/
def fromAbove (site : Site) (frame : Frame) (state : ForwardState) : Verdict × ForwardState :=
  if frame.dst.isBroadcast then (.ok (site.floodLower frame), state)
  else
    match state.table.amac? ⟨frame.dst⟩ with
    | none => (.error .unknownPmac, state)
    | some amac =>
      match state.route site ⟨frame.dst⟩ with
      | (some (.lower i), state) => (.ok [(.lower i, outbound frame amac)], state)
      | (_, state) => (.error .invalidPort, state)

end PmacFabric.Edge
