import PmacFabric.Device.Host
import PmacFabric.Device.Switch
import PmacFabric.Event.Queue

/-!
# Networks

A network is everything that a run can change: the devices in the order in which they were added,
the links in the order in which they were made, the fabric manager, and the waiting events. The
number of a device is its place in that order, so switches and hosts share one numbering without
gaps. The graph of the fabric is kept beside them for callers that look for neighbors only: it knows
devices by their numbers, and no ports.
-/

namespace PmacFabric

/-- The parameters of a simulation. -/
structure FabricConfig where
  /-- How many events one operation may process, or no limit. -/
  stopAfter : Option Nat := some 100000
  /-- The seed of the choices of upper ports, or a fresh one for every network. -/
  seed : Option Nat := none
  /-- How many events an operation without a limit may process. It only has to be beyond reach: no
  machine handles as many. -/
  horizon : Nat := UInt64.size
deriving DecidableEq, Repr, Inhabited

/-- The numbers that the devices of a run draw. They follow from the seed; `fresh` is the seed for a
configuration that names none. -/
def FabricConfig.streams (config : FabricConfig) (fresh : Nat) : DeviceId → Choice.Stream :=
  Choice.perDevice (UInt64.ofNat (config.seed.getD fresh))

inductive Device where
  | switch (switch : Switch)
  | host (host : Host)

instance : Inhabited Device := ⟨.host default⟩

def Device.name : Device → String
  | .switch s => s.name
  | .host h => h.name

/-- An undirected graph. Nodes are numbered from 0 without gaps, and parallel edges repeat. -/
structure FabricGraph where
  numNodes : Nat := 0
  /-- In the order in which they were added. -/
  edges : Array (DeviceId × DeviceId) := #[]
deriving DecidableEq, Repr, Inhabited

namespace FabricGraph

def empty : FabricGraph := {}

def addNode (graph : FabricGraph) : FabricGraph := { graph with numNodes := graph.numNodes + 1 }

def addEdge (graph : FabricGraph) (a b : DeviceId) : FabricGraph :=
  { graph with edges := graph.edges.push (a, b) }

/-- The other ends of the edges of a node, by increasing number. -/
def neighbors (graph : FabricGraph) (id : DeviceId) : List DeviceId :=
  (graph.edges.toList.flatMap fun (a, b) =>
    (if a = id then [b] else []) ++ (if b = id then [a] else [])).mergeSort

end FabricGraph

structure Network where
  config : FabricConfig
  /-- The numbers that each device draws. -/
  streams : DeviceId → Choice.Stream
  devices : Array Device := #[]
  /-- South end and north end; a host is the south end of its link. -/
  links : Array (Endpoint × Endpoint) := #[]
  graph : FabricGraph := .empty
  manager : FabricManager := .empty
  queue : EventQueue := .empty
  /-- How many events have been processed. -/
  handled : Nat := 0
  /-- One line for every event processed since tracing began, or no tracing. -/
  trace : Option (Array String) := none

namespace Network

/-- A network without devices, whose switches draw the given numbers. -/
def empty (config : FabricConfig) (streams : DeviceId → Choice.Stream) : Network :=
  { config, streams }

def getDevice? (net : Network) (id : DeviceId) : Option Device := net.devices[id]?

def getSwitch (net : Network) (id : DeviceId) : Except NetworkError Switch :=
  match net.getDevice? id with
  | some (.switch switch) => .ok switch
  | some (.host _) => .error (.deviceIsNotASwitch id)
  | none => .error (.deviceNotFound id)

def getHost (net : Network) (id : DeviceId) : Except NetworkError Host :=
  match net.getDevice? id with
  | some (.host host) => .ok host
  | some (.switch _) => .error (.deviceIsNotAHost id)
  | none => .error (.deviceNotFound id)

def getName (net : Network) (id : DeviceId) : Except NetworkError String :=
  match net.getDevice? id with
  | some device => .ok device.name
  | none => .error (.deviceNotFound id)

/-- All switches, by increasing number. -/
def switches (net : Network) : List Switch :=
  net.devices.toList.filterMap fun
    | .switch switch => some switch
    | .host _ => none

/-- All hosts, by increasing number. -/
def hosts (net : Network) : List Host :=
  net.devices.toList.filterMap fun
    | .host host => some host
    | .switch _ => none

/-- An order in which somebody may come upon the switches and the hosts of a network. Both are kept
by number in maps, and a map promises no order. -/
structure Listing (net : Network) where
  switches : List Switch
  hosts : List Host
  switches_perm : switches.Perm net.switches
  hosts_perm : hosts.Perm net.hosts

/-- The order of addition. -/
def Listing.added (net : Network) : net.Listing where
  switches := net.switches
  hosts := net.hosts
  switches_perm := .refl _
  hosts_perm := .refl _

/-- The number of the first device with a name, in the order of a list. -/
def firstNamed {α : Type} (name : α → String) (id : α → DeviceId) (devices : List α)
    (wanted : String) : Except NetworkError DeviceId :=
  match devices.find? fun device => name device = wanted with
  | some device => .ok (id device)
  | none => .error (.deviceNameNotFound wanted)

/-- The number of a switch with a name: of several, the first that one comes upon. -/
def getSwitchId (net : Network) (listing : net.Listing) (name : String) :
    Except NetworkError DeviceId :=
  firstNamed Switch.name Switch.id listing.switches name

/-- The number of a host with a name: of several, the first that one comes upon. -/
def getHostId (net : Network) (listing : net.Listing) (name : String) :
    Except NetworkError DeviceId :=
  firstNamed Host.name Host.id listing.hosts name

/-- The edges of the graph. -/
def edges (net : Network) : List (DeviceId × DeviceId) := net.graph.edges.toList

/-- The devices at the other ends of the links of a device, by increasing number; parallel links
repeat theirs. -/
def neighbors (net : Network) (id : DeviceId) : List DeviceId := net.graph.neighbors id

def setSwitch (net : Network) (id : DeviceId) (switch : Switch) : Network :=
  { net with devices := net.devices.setIfInBounds id (.switch switch) }

def setHost (net : Network) (id : DeviceId) (host : Host) : Network :=
  { net with devices := net.devices.setIfInBounds id (.host host) }

def enqueue (net : Network) (events : List Event) : Network :=
  { net with queue := net.queue.pushAll events }

end Network

end PmacFabric
