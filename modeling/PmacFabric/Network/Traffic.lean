import PmacFabric.Network.Run

/-!
# Traffic

Each operation adds its first events and then processes the queue. An operation that is refused adds
none and processes none.
-/

namespace PmacFabric.Network

/-- Sends data from a host to an IP address. Data for an address that is not resolved waits at the
host until a reply arrives. -/
def send (net : Network) (id : DeviceId) (dst : Ipv4Address) (data : Bytes) :
    Except NetworkError Unit × Network :=
  match net.getHost id with
  | .error e => (.error e, net)
  | .ok host =>
    match host.send dst data with
    | .error e => (.error (.device e), net)
    | .ok (events, host) => ((net.setHost id host).enqueue events).settle

/-- Has a host ask again for every address with waiting data; the result is the number of
questions. -/
def retransmit (net : Network) (id : DeviceId) : Except NetworkError Nat × Network :=
  match net.getHost id with
  | .error e => (.error e, net)
  | .ok host =>
    match host.retransmit with
    | .error e => (.error (.device e), net)
    | .ok (events, host) =>
      let (result, net) := ((net.setHost id host).enqueue events).settle
      (result.map fun _ => events.length, net)

/-- Delivers a frame to a port of a switch as if it had arrived there. -/
def inject (net : Network) (id : DeviceId) (port : Port) (frame : Frame) :
    Except NetworkError Unit × Network :=
  match net.getSwitch id with
  | .error e => (.error e, net)
  | .ok _ => (net.enqueue [.frame ⟨id, port⟩ frame]).settle

end PmacFabric.Network
