import PmacFabric.Network.Basic

/-!
# Building a network

Devices are added one by one and then linked. A port takes one link, for good. An operation returns
its result together with the network; a refused one leaves the network as it was, because both ends
of a link are checked before either is connected: the errors behind the checks do not occur.
-/

namespace PmacFabric.Network

/-- Adds a switch with free ports and registers it with the fabric manager. -/
def addSwitch (net : Network) (name : String) (identity : SwitchIdentity)
    (numLower numUpper : Nat) : DeviceId × Network :=
  let id := net.devices.size
  (id,
    { net with
      devices := net.devices.push (.switch (.new name id identity numLower numUpper))
      graph := net.graph.addNode
      manager := net.manager.addSwitch id identity })

/-- Adds a host without a link. -/
def addHost (net : Network) (name : String) (amac : MacAddress) (ip : Ipv4Address) :
    DeviceId × Network :=
  let id := net.devices.size
  (id,
    { net with
      devices := net.devices.push (.host (.new name id amac ip))
      graph := net.graph.addNode })

/-- Whether a link end is a free port of a switch. -/
def checkFree (net : Network) (endpoint : Endpoint) : Except NetworkError Unit :=
  match net.getSwitch endpoint.device with
  | .error e => .error e
  | .ok switch => (switch.checkFree endpoint.port).mapError .device

/-- A link goes from an upper port to a lower port of another device. -/
def isLink (south north : Endpoint) : Bool :=
  south.port.isUpper && !north.port.isUpper && south.device != north.device

/-- Connects a free port of a switch, for good. -/
def connect (net : Network) (endpoint peer : Endpoint) : Except NetworkError Network :=
  match net.getSwitch endpoint.device with
  | .error e => .error e
  | .ok switch =>
    match switch.connect endpoint.port peer with
    | .error e => .error (.device e)
    | .ok connected => .ok (net.setSwitch endpoint.device connected)

/-- Gives a host its uplink, for good. -/
def attach (net : Network) (id : DeviceId) (uplink : Endpoint) : Except NetworkError Network :=
  match net.getHost id with
  | .error e => .error e
  | .ok host =>
    match host.attach uplink with
    | .error e => .error (.device e)
    | .ok attached => .ok (net.setHost id attached)

/-- Connects an upper port of one switch with a lower port of another. -/
def addLink (net : Network) (south north : Endpoint) : Except NetworkError Unit × Network :=
  if !isLink south north then (.error (.invalidLink south north), net)
  else
    match net.checkFree south with
    | .error e => (.error e, net)
    | .ok () =>
      match net.checkFree north with
      | .error e => (.error e, net)
      | .ok () =>
        match net.connect south north with
        | .error e => (.error e, net)
        | .ok begun =>
          match begun.connect north south with
          | .error e => (.error e, begun)
          | .ok linked =>
            (.ok (),
              { linked with
                graph := linked.graph.addEdge south.device north.device
                links := linked.links.push (south, north) })

/-- Attaches a host to a lower port of a switch. -/
def attachHost (net : Network) (id switch : DeviceId) (port : Nat) :
    Except NetworkError Unit × Network :=
  let hostEnd : Endpoint := ⟨id, .upper 0⟩
  let switchEnd : Endpoint := ⟨switch, .lower port⟩
  match net.getHost id with
  | .error e => (.error e, net)
  | .ok host =>
    if host.uplink.isSome then (.error (.device (.portAlreadyConnected hostEnd.port)), net)
    else
      match net.checkFree switchEnd with
      | .error e => (.error e, net)
      | .ok () =>
        match net.connect switchEnd hostEnd with
        | .error e => (.error e, net)
        | .ok begun =>
          match begun.attach id switchEnd with
          | .error e => (.error e, begun)
          | .ok linked =>
            (.ok (),
              { linked with
                graph := linked.graph.addEdge switch id
                links := linked.links.push (hostEnd, switchEnd) })

/-- Sets how many events one operation may process. -/
def setStopAfter (net : Network) (stopAfter : Option Nat) : Network :=
  { net with config := { net.config with stopAfter } }

end PmacFabric.Network
