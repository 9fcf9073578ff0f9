import PmacFabric.FatTree.Layout
import Std.Data.TreeMap

/-!
# Fat-trees

A `FatTree` is a network that was built by the plan, with the hosts that were attached at its
places. The network stays open: devices and links may be added to it, and the numbers of the
planned switches do not change.
-/

namespace PmacFabric

structure FatTree where
  k : Nat
  net : Network
  /-- The host at every taken place, by the number of the place. -/
  hostSlots : Std.TreeMap Nat DeviceId := {}

namespace Network

def addPlanned (net : Network) (plan : FatTree.SwitchPlan) : Network :=
  (net.addSwitch plan.name plan.identity plan.numLower plan.numUpper).2

/-- Adds links until one is refused. -/
def addLinks (net : Network) : List (Endpoint × Endpoint) → Except NetworkError Unit × Network
  | [] => (.ok (), net)
  | (south, north) :: rest =>
    match net.addLink south north with
    | (.error e, net) => (.error e, net)
    | (.ok (), net) => net.addLinks rest

end Network

namespace FatTree

/-- The parameter has to be even, at least 2, and small enough for one octet per core switch. -/
def accepts (k : Nat) : Bool := 2 ≤ k && k % 2 == 0 && k ≤ TopologyError.maxK

/-- All switches of a fat-tree, without links. -/
def planned (k : Nat) (config : FabricConfig) (streams : DeviceId → Choice.Stream) : Network :=
  (switchPlans k).foldl Network.addPlanned (Network.empty config streams)

/-- All switches and links of a fat-tree, without hosts. -/
def new (k : Nat) (config : FabricConfig) (streams : DeviceId → Choice.Stream) :
    Except TopologyError FatTree :=
  if !accepts k then .error (.invalidK k)
  else
    match (planned k config streams).addLinks (edgeLinks k ++ coreLinks k) with
    | (.error e, _) => .error e
    | (.ok (), net) => .ok { k, net }

/-- The number of an edge switch. -/
def edge (tree : FatTree) (pod position : Nat) : Except TopologyError DeviceId :=
  if pod < tree.k ∧ position < tree.k / 2 then .ok (edgeId tree.k pod position)
  else .error (.invalidLocation pod position 0)

/-- The number of an aggregation switch. -/
def aggregation (tree : FatTree) (pod position : Nat) : Except TopologyError DeviceId :=
  if pod < tree.k ∧ position < tree.k / 2 then .ok (aggregationId tree.k pod position)
  else .error (.invalidLocation pod position 0)

/-- The number of a core switch; the error text calls the place behind the last pod. -/
def core (tree : FatTree) (index : Nat) : Except TopologyError DeviceId :=
  if index < tree.k / 2 * (tree.k / 2) then .ok (coreId tree.k index)
  else .error (.invalidLocation tree.k index 0)

/-- The host at a place. -/
def hostAt? (tree : FatTree) (place : Place) : Option DeviceId :=
  (place.slot? tree.k).bind fun slot => tree.hostSlots[slot]?

def host (tree : FatTree) (place : Place) : Except TopologyError DeviceId :=
  match tree.hostAt? place with
  | some id => .ok id
  | none => .error (.invalidLocation place.pod place.edge place.port)

/-- All edge switches, pod by pod. -/
def edges (tree : FatTree) : List DeviceId :=
  (List.range tree.k).flatMap fun pod => (List.range (tree.k / 2)).map (edgeId tree.k pod)

/-- All aggregation switches, pod by pod. -/
def aggregations (tree : FatTree) : List DeviceId :=
  (List.range tree.k).flatMap fun pod => (List.range (tree.k / 2)).map (aggregationId tree.k pod)

def cores (tree : FatTree) : List DeviceId :=
  (List.range (tree.k / 2 * (tree.k / 2))).map (coreId tree.k)

/-- All hosts, by their places. -/
def hosts (tree : FatTree) : List DeviceId := tree.hostSlots.values

/-- Attaches a new host at a free place. The place counts as free if no host was added there through
this function; if its port has been taken otherwise, the new host stays in the network without a
link. -/
def addHost (tree : FatTree) (place : Place) (amac : MacAddress) (ip : Ipv4Address) :
    Except TopologyError DeviceId × FatTree :=
  match tree.edge place.pod place.edge with
  | .error e => (.error e, tree)
  | .ok switch =>
    match place.slot? tree.k with
    | none => (.error (.invalidLocation place.pod place.edge place.port), tree)
    | some slot =>
      if tree.hostSlots.contains slot then
        (.error (.network (.device (.portAlreadyConnected (.lower place.port)))), tree)
      else
        let (id, net) := tree.net.addHost place.hostName amac ip
        match net.attachHost id switch place.port with
        | (.error e, net) => (.error e, { tree with net })
        | (.ok (), net) =>
          (.ok id, { tree with net, hostSlots := tree.hostSlots.insert slot id })

/-- Attaches a host at every place until one is refused. -/
def addHosts (tree : FatTree) : List Place → Except TopologyError Unit × FatTree
  | [] => (.ok (), tree)
  | place :: rest =>
    match tree.addHost place place.amac place.ip with
    | (.error e, tree) => (.error e, tree)
    | (.ok _, tree) => tree.addHosts rest

/-- A fat-tree with a host at every place. -/
def build (k : Nat) (config : FabricConfig) (streams : DeviceId → Choice.Stream) :
    Except TopologyError FatTree :=
  match new k config streams with
  | .error e => .error e
  | .ok tree =>
    match tree.addHosts (places k) with
    | (.error e, _) => .error e
    | (.ok (), tree) => .ok tree

end FatTree

end PmacFabric
