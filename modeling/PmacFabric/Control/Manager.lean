import PmacFabric.Device.Identity
import PmacFabric.Error
import PmacFabric.Event.Basic
import Std.Data.TreeMap

/-!
# The fabric manager

The manager keeps the **directory** of the fabric, which maps the IP address of every registered
host to its PMAC, and the registry of all switches. A query for an unknown address has all core
switches flood an ARP request and is answered with the broadcast address. Nothing is remembered
about the query: the host asks again, and by then the owner of the address has registered.
-/

namespace PmacFabric

structure ManagerCounters where
  registrations : Nat := 0
  queries : Nat := 0
  /-- Queries answered from the directory. -/
  hits : Nat := 0
  /-- Queries that caused a flood. -/
  misses : Nat := 0
  /-- Flood messages sent to core switches. -/
  floods : Nat := 0
  /-- Messages refused. -/
  rejected : Nat := 0
deriving DecidableEq, Repr, Inhabited

structure FabricManager where
  switches : Std.TreeMap DeviceId SwitchIdentity := {}
  directory : Std.TreeMap Ipv4Address Pmac := {}
  counters : ManagerCounters := {}
deriving Inhabited

namespace FabricManager

def empty : FabricManager := {}

/-- Registers a switch; the first identity of a switch stays. -/
def addSwitch (manager : FabricManager) (id : DeviceId) (identity : SwitchIdentity) :
    FabricManager :=
  { manager with switches := manager.switches.insertIfNew id identity }

def switchIdentity? (manager : FabricManager) (id : DeviceId) : Option SwitchIdentity :=
  manager.switches[id]?

/-- The PMAC of an address, or the broadcast address if it is not registered. -/
def pmacFor (manager : FabricManager) (ip : Ipv4Address) : Pmac :=
  manager.directory[ip]?.getD .broadcast

def isRegistered (manager : FabricManager) (ip : Ipv4Address) : Bool :=
  manager.directory.contains ip

/-- All addresses registered with a PMAC, in increasing order. -/
def ipsFor (manager : FabricManager) (pmac : Pmac) : List Ipv4Address :=
  (manager.directory.toList.filter fun entry => entry.2 = pmac).map Prod.fst

/-- The core switches that a flood reaches, in increasing order. -/
def floodRecipients (manager : FabricManager) (exclude : DeviceId) : List DeviceId :=
  (manager.switches.toList.filter fun entry =>
    entry.2.tier = .core && entry.1 != exclude).map Prod.fst

/-- Sends a message to every core switch but `exclude`. -/
def flood (manager : FabricManager) (message : ControlMessage) (exclude : DeviceId) :
    List Event × FabricManager :=
  let events := (manager.floodRecipients exclude).map fun id => Event.control id message
  let counters := manager.counters
  (events, { manager with counters := { counters with floods := counters.floods + events.length } })

/-- What a message to the manager leads to. -/
structure Answer where
  reply : Except ManagerError ControlMessage
  manager : FabricManager
  /-- Messages to switches, in order. -/
  events : List Event

/-- A message that is counted as refused and changes nothing else. -/
def refuse (manager : FabricManager) (error : ManagerError) : Answer :=
  let counters := manager.counters
  { reply := .error error
    manager := { manager with counters := { counters with rejected := counters.rejected + 1 } }
    events := [] }

/-- A later registration of the same address replaces an earlier one. -/
def register (manager : FabricManager) (ip : Ipv4Address) (pmac : Pmac) : Answer :=
  let counters := manager.counters
  { reply := .ok .ack
    manager :=
      { manager with
        directory := manager.directory.insert ip pmac
        counters := { counters with registrations := counters.registrations + 1 } }
    events := [] }

/-- Answers from the directory, or floods and answers with the broadcast address. -/
def resolve (manager : FabricManager) (sender : DeviceId) (srcIp : Ipv4Address) (srcPmac : Pmac)
    (dstIp : Ipv4Address) : Answer :=
  let counters := { manager.counters with queries := manager.counters.queries + 1 }
  match manager.directory[dstIp]? with
  | some pmac =>
    { reply := .ok (.arpResponse srcIp srcPmac dstIp pmac)
      manager := { manager with counters := { counters with hits := counters.hits + 1 } }
      events := [] }
  | none =>
    let missed :=
      { manager with counters := { counters with misses := counters.misses + 1 } }
    let (events, manager) := missed.flood (.arpFlood dstIp srcIp srcPmac) sender
    { reply := .ok (.arpResponse srcIp srcPmac dstIp .broadcast), manager, events }

/-- Handles a message from a switch. An unregistered sender is refused before its message is
looked at. -/
def receive (manager : FabricManager) (sender : DeviceId) (message : ControlMessage) : Answer :=
  if manager.switches.contains sender then
    match message with
    | .macRegister hostIp pmac => manager.register hostIp pmac
    | .arpRequest srcIp srcPmac dstIp => manager.resolve sender srcIp srcPmac dstIp
    | message => manager.refuse (.unexpectedMessage message)
  else
    manager.refuse (.unknownSwitch sender)

end FabricManager

end PmacFabric
