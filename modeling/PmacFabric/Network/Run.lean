import PmacFabric.Network.Display

/-!
# Running a network

`step` processes the oldest waiting event. `run` repeats it until the queue is empty or a budget of
events is used up; events that remain stay queued, and the next run goes on with them. An event that
fails ends the run too. Every device acts alone: a switch that handles an event borrows the fabric
manager, and all further effects on other devices are new events.
-/

namespace PmacFabric.Network

/-- Adds the line of an event to the trace, if there is one. -/
def record (net : Network) (event : Event) : Except NetworkError Network :=
  match net.trace with
  | none => .ok net
  | some lines =>
    (net.describeEvent event).map fun line => { net with trace := some (lines.push line) }

/-- Stores what an event has made of a switch and of the manager. -/
def applySwitch (net : Network) (id : DeviceId) (outcome : Switch.Outcome) : Network :=
  { (net.setSwitch id outcome.switch).enqueue outcome.events with manager := outcome.manager }

/-- The target of the event handles it. Drops are counted by the switch and are no failures. -/
def deliver (net : Network) (event : Event) : Except NetworkError Unit × Network :=
  match event with
  | .frame target frame =>
    match net.getDevice? target.device with
    | some (.switch switch) =>
      (.ok (), net.applySwitch target.device
        (switch.receive (net.streams target.device) net.manager target.port frame))
    | some (.host host) =>
      let outcome := host.receive frame
      (outcome.result.mapError .device,
        (net.setHost target.device outcome.host).enqueue outcome.events)
    | none => (.error (.deviceNotFound target.device), net)
  | .control id message =>
    match net.getDevice? id with
    | some (.switch switch) =>
      (.ok (), net.applySwitch id (switch.receiveMessage (net.streams id) net.manager message))
    | _ => (.error (.deviceNotFound id), net)

/-- Processes the oldest waiting event; none if nothing waits. -/
def step (net : Network) : Option (Except NetworkError Unit × Network) :=
  match net.queue.pop? with
  | none => none
  | some (event, queue) =>
    let net := { net with queue }
    match net.record event with
    | .error e => some (.error e, net)
    | .ok net => some ({ net with handled := net.handled + 1 }.deliver event)

/-- Processes up to `budget` events. -/
def run : Nat → Network → Except NetworkError Unit × Network
  | 0, net => if net.queue.isEmpty then (.ok (), net) else (.error .noConvergence, net)
  | budget + 1, net =>
    match net.step with
    | none => (.ok (), net)
    | some (.error e, net) => (.error e, net)
    | some (.ok (), net) => run budget net

/-- The number of events that an operation may process. -/
def budget (net : Network) : Nat := net.config.stopAfter.getD net.config.horizon

/-- Processes the waiting events within the budget of the configuration. -/
def settle (net : Network) : Except NetworkError Unit × Network := run net.budget net

end PmacFabric.Network
