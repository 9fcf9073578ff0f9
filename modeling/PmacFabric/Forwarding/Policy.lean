import PmacFabric.Forwarding.Edge
import PmacFabric.Forwarding.Transit

/-!
# Forwarding policies

The tier of a switch decides what it does with a frame from below, a frame from above, and a message
from the fabric manager.
-/

namespace PmacFabric.Policy

/-- A frame that arrived on lower port `inPort`. -/
def fromBelow (tier : Tier) (site : Site) (inPort : Nat) (frame : Frame) (state : ForwardState) :
    Verdict × ForwardState :=
  match tier with
  | .edge => Edge.fromBelow site inPort frame state
  | .aggregation | .core => Transit.forward site frame state

/-- A frame that arrived on an upper port; a core switch has nothing above it. -/
def fromAbove (tier : Tier) (site : Site) (frame : Frame) (state : ForwardState) :
    Verdict × ForwardState :=
  match tier with
  | .edge => Edge.fromAbove site frame state
  | .aggregation => Transit.fromAbove site frame state
  | .core => (.error .protocolViolation, state)

/-- A message from the fabric manager; only core switches act on one. -/
def onMessage (tier : Tier) (site : Site) (message : ControlMessage) : Verdict :=
  match tier with
  | .edge | .aggregation => .ok []
  | .core => Transit.coreMessage site message

end PmacFabric.Policy
