import PmacFabric.Device.Counters
import PmacFabric.Forwarding.Policy

/-!
# Switches

A switch counts what arrives, keeps frames addressed to itself, has its policy decide about all
others, and transmits what the policy returns. Transmitting is adding an event for the peer of the
port: `Switch.Outcome` lists the events that a frame or a message leads to, those of the fabric
manager before the frames.
-/

namespace PmacFabric

/-- The link end that a port is connected to, and the counters of the port. -/
structure PortState where
  peer : Option Endpoint := none
  counters : PortCounters := {}
deriving DecidableEq, Repr, Inhabited

structure Switch where
  name : String
  id : DeviceId
  identity : SwitchIdentity
  lower : Array PortState
  upper : Array PortState
  /-- Used by edge switches only. -/
  table : PmacTable := .empty
  /-- How many numbers the switch has drawn. -/
  drawn : Nat := 0
  received : Nat := 0
  transmitted : Nat := 0
  drops : DropCounts := {}
  /-- Frames addressed to the switch itself, oldest first. -/
  inbox : Array Frame := #[]
deriving Inhabited

namespace Switch

/-- A switch with all ports free. -/
def new (name : String) (id : DeviceId) (identity : SwitchIdentity) (numLower numUpper : Nat) :
    Switch :=
  { name, id, identity
    lower := Array.replicate numLower {}
    upper := Array.replicate numUpper {} }

def tier (switch : Switch) : Tier := switch.identity.tier

/-- The switch's own hardware address: the low sixteen bits of its number behind a first octet that
neither hosts nor PMACs use. -/
def address (switch : Switch) : MacAddress :=
  ⟨0x06, 0, 0, 0, UInt8.ofNat (switch.id / 256), UInt8.ofNat switch.id⟩

def numLower (switch : Switch) : Nat := switch.lower.size

def numUpper (switch : Switch) : Nat := switch.upper.size

def port? (switch : Switch) : Port → Option PortState
  | .lower i => switch.lower[i]?
  | .upper i => switch.upper[i]?

/-- Changes one port; a port that does not exist stays absent. -/
def modifyPort (switch : Switch) (port : Port) (f : PortState → PortState) : Switch :=
  match port with
  | .lower i => { switch with lower := switch.lower.modify i f }
  | .upper i => { switch with upper := switch.upper.modify i f }

/-- Whether a port exists and has no link yet. -/
def checkFree (switch : Switch) (port : Port) : Except DeviceError Unit :=
  match switch.port? port with
  | none => .error (.invalidPort port)
  | some state => if state.peer.isSome then .error (.portAlreadyConnected port) else .ok ()

def setPeer (switch : Switch) (port : Port) (peer : Endpoint) : Switch :=
  switch.modifyPort port fun state => { state with peer := some peer }

/-- Connects a free port, for good. -/
def connect (switch : Switch) (port : Port) (peer : Endpoint) : Except DeviceError Switch :=
  (switch.checkFree port).map fun _ => switch.setPeer port peer

def site (switch : Switch) (stream : Choice.Stream) : Site :=
  { id := switch.id
    identity := switch.identity
    numLower := switch.numLower
    numUpper := switch.numUpper
    stream }

def forwardState (switch : Switch) (manager : FabricManager) : ForwardState :=
  { table := switch.table, manager, drawn := switch.drawn }

/-- Puts a frame on a port. The event is the arrival at the peer; there is none if the port does not
exist or has no link. -/
def output (switch : Switch) (port : Port) (frame : Frame) : Option Event × Switch :=
  match switch.port? port with
  | none => (none, switch)
  | some state =>
    match state.peer with
    | none =>
      (none, switch.modifyPort port fun state => { state with counters := state.counters.drop })
    | some peer =>
      let counted := switch.modifyPort port fun state =>
        { state with counters := state.counters.transmit frame.size }
      (some (.frame peer frame), { counted with transmitted := switch.transmitted + 1 })

/-- Puts frames on ports, in order. -/
def transmit (switch : Switch) : List (Port × Frame) → List Event × Switch
  | [] => ([], switch)
  | (port, frame) :: rest =>
    let (event, switch) := switch.output port frame
    let (events, switch) := switch.transmit rest
    (event.toList ++ events, switch)

/-- What a frame or a message leads to. -/
structure Outcome where
  /-- The number of frames transmitted, or the reason for the drop. -/
  result : Except DropReason Nat
  switch : Switch
  manager : FabricManager
  /-- Events to add, in order. -/
  events : List Event

/-- Carries out a verdict: transmits its frames, or counts the drop. -/
def conclude (switch : Switch) (verdict : Verdict) (state : ForwardState) : Outcome :=
  let switch := { switch with table := state.table, drawn := state.drawn }
  match verdict with
  | .error reason =>
    { result := .error reason
      switch := { switch with drops := switch.drops.record reason }
      manager := state.manager
      events := state.raised }
  | .ok frames =>
    let (sent, switch) := switch.transmit frames
    { result := .ok sent.length
      switch
      manager := state.manager
      events := state.raised ++ sent }

/-- Counts the arrival of a frame. -/
def countReceived (switch : Switch) (port : Port) (frame : Frame) : Switch :=
  let counted := switch.modifyPort port fun state =>
    { state with counters := state.counters.receive frame.size }
  { counted with received := switch.received + 1 }

/-- What the policy of the switch decides about a frame. -/
def judge (switch : Switch) (stream : Choice.Stream) (manager : FabricManager) (port : Port)
    (frame : Frame) : Verdict × ForwardState :=
  let site := switch.site stream
  let state := switch.forwardState manager
  match port with
  | .lower i => Policy.fromBelow switch.tier site i frame state
  | .upper _ => Policy.fromAbove switch.tier site frame state

/-- Handles the arrival of a frame. At a port that does not exist, only the drop is counted. -/
def receive (switch : Switch) (stream : Choice.Stream) (manager : FabricManager) (port : Port)
    (frame : Frame) : Outcome :=
  match switch.port? port with
  | none =>
    { result := .error .invalidPort
      switch := { switch with drops := switch.drops.record .invalidPort }
      manager
      events := [] }
  | some _ =>
    let switch := switch.countReceived port frame
    if frame.dst = switch.address then
      { result := .ok 0
        switch := { switch with inbox := switch.inbox.push frame }
        manager
        events := [] }
    else
      let (verdict, state) := switch.judge stream manager port frame
      switch.conclude verdict state

/-- Handles a message from the fabric manager. -/
def receiveMessage (switch : Switch) (stream : Choice.Stream) (manager : FabricManager)
    (message : ControlMessage) : Outcome :=
  switch.conclude (Policy.onMessage switch.tier (switch.site stream) message)
    (switch.forwardState manager)

end Switch

end PmacFabric
