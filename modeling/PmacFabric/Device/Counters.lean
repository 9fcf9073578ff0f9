import PmacFabric.Forwarding.Context
import PmacFabric.Total

/-!
# Counters of a switch

Every port counts the frames and bytes in both directions, and a switch counts its drops by reason.
-/

namespace PmacFabric

structure PortCounters where
  rxPackets : Nat := 0
  rxBytes : Nat := 0
  txPackets : Nat := 0
  txBytes : Nat := 0
  /-- Frames that found no link. -/
  txDropped : Nat := 0
deriving DecidableEq, Repr, Inhabited

namespace PortCounters

def isZero (c : PortCounters) : Bool := c = {}

def add (c d : PortCounters) : PortCounters :=
  ⟨c.rxPackets + d.rxPackets, c.rxBytes + d.rxBytes, c.txPackets + d.txPackets,
    c.txBytes + d.txBytes, c.txDropped + d.txDropped⟩

instance : Add PortCounters := ⟨add⟩

def receive (c : PortCounters) (bytes : Nat) : PortCounters :=
  { c with rxPackets := c.rxPackets + 1, rxBytes := c.rxBytes + bytes }

def transmit (c : PortCounters) (bytes : Nat) : PortCounters :=
  { c with txPackets := c.txPackets + 1, txBytes := c.txBytes + bytes }

def drop (c : PortCounters) : PortCounters := { c with txDropped := c.txDropped + 1 }

end PortCounters

/-- How often each reason for a drop has occurred. -/
structure DropCounts where
  unresolved : Nat := 0
  unsupportedProtocol : Nat := 0
  unknownPmac : Nat := 0
  protocolViolation : Nat := 0
  invalidPort : Nat := 0
deriving DecidableEq, Repr, Inhabited

namespace DropCounts

def count (drops : DropCounts) : DropReason → Nat
  | .unresolved => drops.unresolved
  | .unsupportedProtocol => drops.unsupportedProtocol
  | .unknownPmac => drops.unknownPmac
  | .protocolViolation => drops.protocolViolation
  | .invalidPort => drops.invalidPort

/-- Counts one more drop. -/
def record (drops : DropCounts) : DropReason → DropCounts
  | .unresolved => { drops with unresolved := drops.unresolved + 1 }
  | .unsupportedProtocol => { drops with unsupportedProtocol := drops.unsupportedProtocol + 1 }
  | .unknownPmac => { drops with unknownPmac := drops.unknownPmac + 1 }
  | .protocolViolation => { drops with protocolViolation := drops.protocolViolation + 1 }
  | .invalidPort => { drops with invalidPort := drops.invalidPort + 1 }

def total (drops : DropCounts) : Nat := totalOf drops.count DropReason.all

/-- The reasons that have occurred, each with its count. -/
def toList (drops : DropCounts) : List (DropReason × Nat) :=
  (DropReason.all.map fun reason => (reason, drops.count reason)).filter fun entry => entry.2 != 0

/-- Recording a drop counts it under its reason only. -/
@[simp] theorem count_record (drops : DropCounts) (reason other : DropReason) :
    (drops.record reason).count other = drops.count other + if reason = other then 1 else 0 := by
  cases reason <;> cases other <;> simp [record, count]

/-- Recording a drop adds one to the total. -/
theorem total_record (drops : DropCounts) (reason : DropReason) :
    (drops.record reason).total = drops.total + 1 := by
  cases reason <;> simp [total, DropReason.all, record, count] <;> omega

end DropCounts

end PmacFabric
