import PmacFabric.Error
import PmacFabric.Event.Basic
import PmacFabric.Total
import Std.Data.TreeMap

/-!
# Hosts

A host knows nothing of PMACs. It uses its own hardware address and resolves IP addresses by ARP;
data for an address that is not resolved waits until a reply arrives. Every function that sends
returns the events it adds, in order.
-/

namespace PmacFabric

structure HostCounters where
  /-- Frames sent. -/
  sent : Nat := 0
  /-- Frames received, ignored ones included. -/
  received : Nat := 0
  arpRequests : Nat := 0
  arpReplies : Nat := 0
deriving DecidableEq, Repr, Inhabited

structure Host where
  name : String
  id : DeviceId
  /-- The host's own hardware address. -/
  amac : MacAddress
  ip : Ipv4Address
  /-- The switch port that the host is attached to. -/
  uplink : Option Endpoint := none
  /-- The hardware addresses learned. -/
  arpCache : Std.TreeMap Ipv4Address MacAddress := {}
  /-- Data waiting for the resolution of an address, oldest first. -/
  pending : Std.TreeMap Ipv4Address (List Bytes) := {}
  /-- Packets delivered to the host, oldest first. -/
  inbox : Array Ipv4Packet := #[]
  counters : HostCounters := {}
deriving Inhabited

namespace Host

def new (name : String) (id : DeviceId) (amac : MacAddress) (ip : Ipv4Address) : Host :=
  { name, id, amac, ip }

def resolve? (host : Host) (ip : Ipv4Address) : Option MacAddress := host.arpCache[ip]?

/-- The data waiting for the resolution of an address. -/
def pendingFor (host : Host) (ip : Ipv4Address) : List Bytes := host.pending[ip]?.getD []

/-- The number of data items waiting for any resolution. -/
def totalPending (host : Host) : Nat := totalOf List.length host.pending.values

/-- Attaches the host, once and for all. -/
def attach (host : Host) (uplink : Endpoint) : Except DeviceError Host :=
  if host.uplink.isSome then .error (.portAlreadyConnected (.upper 0))
  else .ok { host with uplink := some uplink }

/-- Sends a frame over the uplink. -/
def transmit (host : Host) (uplink : Endpoint) (dst : MacAddress) (payload : Payload) :
    Event × Host :=
  let counters := host.counters
  (.frame uplink ⟨host.amac, dst, payload⟩,
    { host with counters := { counters with sent := counters.sent + 1 } })

/-- Broadcasts a question for an address. -/
def ask (host : Host) (uplink : Endpoint) (target : Ipv4Address) : Event × Host :=
  let counters := host.counters
  let host := { host with counters := { counters with arpRequests := counters.arpRequests + 1 } }
  host.transmit uplink .broadcast (.arp (.request host.amac host.ip target))

def sendData (host : Host) (uplink : Endpoint) (dst : Ipv4Address) (mac : MacAddress)
    (data : Bytes) : Event × Host :=
  host.transmit uplink mac (.ipv4 ⟨host.ip, dst, data⟩)

/-- Sends data items to a resolved address, in order. -/
def sendAll (host : Host) (uplink : Endpoint) (dst : Ipv4Address) (mac : MacAddress) :
    List Bytes → List Event × Host
  | [] => ([], host)
  | data :: rest =>
    let (event, host) := host.sendData uplink dst mac data
    let (events, host) := host.sendAll uplink dst mac rest
    (event :: events, host)

/-- Broadcasts a question for each address, in order. -/
def askAll (host : Host) (uplink : Endpoint) : List Ipv4Address → List Event × Host
  | [] => ([], host)
  | target :: rest =>
    let (event, host) := host.ask uplink target
    let (events, host) := host.askAll uplink rest
    (event :: events, host)

/-- Sends data to an address. If the address is not resolved the data waits, and the first item to
wait has the question broadcast. -/
def send (host : Host) (dst : Ipv4Address) (data : Bytes) :
    Except DeviceError (List Event × Host) :=
  match host.uplink with
  | none => .error .notConnected
  | some uplink =>
    match host.resolve? dst with
    | some mac =>
      let (event, host) := host.sendData uplink dst mac data
      .ok ([event], host)
    | none =>
      let waiting := host.pendingFor dst
      let host := { host with pending := host.pending.insert dst (waiting ++ [data]) }
      if waiting.isEmpty then
        let (event, host) := host.ask uplink dst
        .ok ([event], host)
      else .ok ([], host)

/-- Asks again for every address with waiting data, by increasing address. -/
def retransmit (host : Host) : Except DeviceError (List Event × Host) :=
  match host.uplink with
  | none => .error .notConnected
  | some uplink => .ok (host.askAll uplink host.pending.keys)

/-- What a frame leads to. The changes made before an error stay. -/
structure Outcome where
  result : Except DeviceError Unit
  host : Host
  /-- Events to add, in order. -/
  events : List Event

/-- Remembers the hardware address of `ip` and sends all data that waits for it. -/
def learn (host : Host) (ip : Ipv4Address) (mac : MacAddress) : Outcome :=
  let waiting := host.pending[ip]?
  let host :=
    { host with
      arpCache := host.arpCache.insert ip mac
      pending := host.pending.erase ip }
  match waiting with
  | none => ⟨.ok (), host, []⟩
  | some items =>
    match host.uplink with
    | none => ⟨.error .notConnected, host, []⟩
    | some uplink =>
      let (events, host) := host.sendAll uplink ip mac items
      ⟨.ok (), host, events⟩

/-- Answers a question for the host's own address. -/
def answer (host : Host) (arp : ArpPacket) : Outcome :=
  match host.uplink with
  | none => ⟨.error .notConnected, host, []⟩
  | some uplink =>
    let counters := host.counters
    let host := { host with counters := { counters with arpReplies := counters.arpReplies + 1 } }
    let (event, host) := host.transmit uplink arp.senderHw
      (.arp (.reply host.amac host.ip arp.senderHw arp.senderIp))
    ⟨.ok (), host, [event]⟩

/-- Handles an ARP packet for the host's own address: the sender is learned, and a question is
answered. -/
def receiveArp (host : Host) (arp : ArpPacket) : Outcome :=
  let learned := host.learn arp.senderIp arp.senderHw
  match learned.result with
  | .error _ => learned
  | .ok () =>
    if arp.isRequest then
      let answered := learned.host.answer arp
      { answered with events := learned.events ++ answered.events }
    else learned

/-- Handles the arrival of a frame. Frames for other hardware addresses, for other IP addresses or
of other protocols are counted and ignored. -/
def receive (host : Host) (frame : Frame) : Outcome :=
  let counters := host.counters
  let host := { host with counters := { counters with received := counters.received + 1 } }
  if frame.dst ≠ host.amac ∧ ¬ frame.dst.isBroadcast then ⟨.ok (), host, []⟩
  else
    match frame.payload with
    | .arp arp => if arp.targetIp = host.ip then host.receiveArp arp else ⟨.ok (), host, []⟩
    | .ipv4 packet =>
      if packet.dst = host.ip then
        ⟨.ok (), { host with inbox := host.inbox.push packet }, []⟩
      else ⟨.ok (), host, []⟩
    | .raw _ _ => ⟨.ok (), host, []⟩

end Host

end PmacFabric
