import PmacFabric.Forwarding.Context

/-!
# Aggregation and core switches

Switches above the edge forward by the destination PMAC and change nothing in a frame. Core switches
also start the floods that the manager asks for.
-/

namespace PmacFabric.Transit

/-- Sends the frame to the port towards its destination. -/
def forward (site : Site) (frame : Frame) (state : ForwardState) : Verdict × ForwardState :=
  match state.route site ⟨frame.dst⟩ with
  | (some port, state) => (.ok [(port, frame)], state)
  | (none, state) => (.error .invalidPort, state)

/-- At an aggregation switch a frame from above is a flood, or it goes down; it never turns back
up. -/
def fromAbove (site : Site) (frame : Frame) (state : ForwardState) : Verdict × ForwardState :=
  if frame.dst.isBroadcast then (.ok (site.floodLower frame), state)
  else
    match state.route site ⟨frame.dst⟩ with
    | (some (.lower i), state) => (.ok [(.lower i, frame)], state)
    | (some (.upper _), state) => (.error .protocolViolation, state)
    | (none, state) => (.error .invalidPort, state)

/-- The broadcast ARP request that a core switch sends on behalf of the manager. -/
def floodFrame (dstIp srcIp : Ipv4Address) (srcPmac : Pmac) : Frame :=
  { src := srcPmac.mac
    dst := .broadcast
    payload := .arp (.request srcPmac.mac srcIp dstIp) }

/-- A core switch floods when it is told to, and expects no other message. -/
def coreMessage (site : Site) : ControlMessage → Verdict
  | .arpFlood dstIp srcIp srcPmac => .ok (site.floodLower (floodFrame dstIp srcIp srcPmac))
  | _ => .error .protocolViolation

end PmacFabric.Transit
