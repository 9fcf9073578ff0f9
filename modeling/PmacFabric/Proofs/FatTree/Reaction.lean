import PmacFabric.Proofs.FatTree.Routing

/-!
# What one event may lead to

`Reaction` lists, for each kind of sound event, the seat that it lets register, the host that it
changes and the events that it raises; `Changed` says that nothing else changes but counters. All
laws about runs of a fat-tree are drawn from this list, so that no later proof has to look into a
switch or a host again.
-/

namespace PmacFabric.FatTree

open Network (Ground)

/-! ## What an event may change -/

/-- The directory after an event that may let a seat register. -/
def enrolled? (directory : Directory) : Option Seat → Directory
  | none => directory
  | some seat => enrolled directory seat

/-- What a switch remembers after such an event. -/
def enrolMemory? (k : Nat) (directory : Directory) :
    Option Seat → DeviceId → Switch.Memory → Switch.Memory
  | none, _, memory => memory
  | some seat, id, memory => enrolMemory k directory seat id memory

/-- How a network changes when a seat registers, some hosts change and events are raised. -/
structure Changed (k : Nat) (net net' : Network) (who : Option Seat)
    (hosts : DeviceId → Option Host) (events : List Event) : Prop where
  ground : net'.ground = net.ground
  config : net'.config = net.config
  streams : net'.streams = net.streams
  handled : net'.handled = net.handled
  trace : net'.trace = net.trace
  directory : net'.manager.directory = enrolled? net.manager.directory who
  memory : ∀ id, net'.memoryAt? id =
    (net.memoryAt? id).map (enrolMemory? k net.manager.directory who id)
  hosts : ∀ id, net'.hostAt? id = hosts id
  queue : net'.queue.toList = net.queue.toList ++ events

/-- The hosts when one of them has changed. -/
def withHost (net : Network) (id : DeviceId) (host : Host) : DeviceId → Option Host :=
  fun key => if id = key then some host else net.hostAt? key

section Deliver

variable {k : Nat} {net : Network} {id : DeviceId}

/-- What a decision of a switch has changed besides counters. -/
structure Effects (k : Nat) (net : Network) (id : DeviceId) (switch : Switch) (who : Option Seat)
    (table : PmacTable) (manager : FabricManager) : Prop where
  directory : manager.directory = enrolled? net.manager.directory who
  memory : ⟨table, switch.inbox⟩ =
    enrolMemory? k net.manager.directory who id switch.memory
  own : ∀ seat, who = some seat → seat.edge k = id

/-- Nobody is registered where the table and the manager stay. -/
theorem effects_none (switch : Switch) :
    Effects k net id switch none switch.table net.manager :=
  ⟨rfl, rfl, nofun⟩

/-- What an event changes at a switch, it changes in the network. -/
theorem changed_applySwitch {switch : Switch} {who : Option Seat} {table : PmacTable}
    {manager : FabricManager} {events : List Event} {outcome : Switch.Outcome}
    (here : net.switchAt? id = some switch) (handled : switch.Handled table manager events outcome)
    (effects : Effects k net id switch who table manager)
    (ground : (net.applySwitch id outcome).ground = net.ground) :
    Changed k net (net.applySwitch id outcome) who net.hostAt? events := by
  refine ⟨ground, rfl, rfl, rfl, rfl, ?_, ?_, ?_, ?_⟩
  · exact (congrArg FabricManager.directory handled.manager).trans effects.directory
  · intro key
    show (net.setSwitch id outcome.switch).memoryAt? key = _
    rw [Network.memoryAt?_setSwitch here]
    by_cases same : id = key
    · subst same
      rw [if_pos rfl, Network.memoryAt?, here, Option.map_some, Option.map_some, ← effects.memory,
        Switch.memory, handled.table, handled.inbox]
    · rw [if_neg same]
      have untouched : enrolMemory? k net.manager.directory who key = (fun m => m) := by
        funext memory
        cases who with
        | none => rfl
        | some seat =>
          have own := effects.own seat rfl
          exact if_pos (.inr (own ▸ same))
      rw [untouched, Option.map_id_fun']
      rfl
  · intro key
    exact Network.hostAt?_setSwitch here _ key
  · show (net.queue.pushAll outcome.events).toList = _
    rw [EventQueue.toList_pushAll, handled.events]

/-- A frame that a switch forwards. -/
theorem deliver_ok {switch : Switch} {who : Option Seat} {port : Port} {frame : Frame}
    {frames : List (Port × Frame)} {state : ForwardState} (here : net.switchAt? id = some switch)
    (exists_port : (switch.port? port).isSome) (other : frame.dst ≠ switch.address)
    (verdict : switch.judge (net.streams id) net.manager port frame = (.ok frames, state))
    (effects : Effects k net id switch who state.table state.manager) :
    ∃ net', net.deliver (.frame ⟨id, port⟩ frame) = (.ok (), net') ∧
      Changed k net net' who net.hostAt? (state.raised ++ frames.filterMap switch.sent?) := by
  have ground := net.ground_deliver (.frame ⟨id, port⟩ frame)
  rw [Network.deliver_to_switch here] at ground ⊢
  exact ⟨_, rfl, changed_applySwitch here (Switch.receive_of_ok exists_port other verdict) effects
    ground⟩

/-- A frame that a switch forwards to one port. -/
theorem deliver_single {switch : Switch} {who : Option Seat} {port out : Port}
    {frame frame' : Frame} {target : Endpoint} {state : ForwardState}
    (here : net.switchAt? id = some switch) (exists_port : (switch.port? port).isSome)
    (other : frame.dst ≠ switch.address)
    (verdict : switch.judge (net.streams id) net.manager port frame = (.ok [(out, frame')], state))
    (effects : Effects k net id switch who state.table state.manager) (calm : state.raised = [])
    (linked : net.ground.peer? ⟨id, out⟩ = some target) :
    ∃ net', net.deliver (.frame ⟨id, port⟩ frame) = (.ok (), net') ∧
      Changed k net net' who net.hostAt? [.frame target frame'] := by
  obtain ⟨net', done, changed⟩ := deliver_ok here exists_port other verdict effects
  refine ⟨net', done, ?_⟩
  rwa [calm, List.nil_append, List.filterMap_cons, Network.sent?_of_peer? here linked,
    List.filterMap_nil] at changed

/-- A frame that a switch drops. -/
theorem deliver_error {switch : Switch} {who : Option Seat} {port : Port} {frame : Frame}
    {reason : DropReason} {state : ForwardState} (here : net.switchAt? id = some switch)
    (exists_port : (switch.port? port).isSome) (other : frame.dst ≠ switch.address)
    (verdict : switch.judge (net.streams id) net.manager port frame = (.error reason, state))
    (effects : Effects k net id switch who state.table state.manager) :
    ∃ net', net.deliver (.frame ⟨id, port⟩ frame) = (.ok (), net') ∧
      Changed k net net' who net.hostAt? state.raised := by
  have ground := net.ground_deliver (.frame ⟨id, port⟩ frame)
  rw [Network.deliver_to_switch here] at ground ⊢
  exact ⟨_, rfl, changed_applySwitch here (Switch.receive_of_error exists_port other verdict)
    effects ground⟩

/-- A message that a core switch acts on. -/
theorem deliver_message {switch : Switch} {message : ControlMessage}
    {frames : List (Port × Frame)} (here : net.switchAt? id = some switch)
    (verdict : Policy.onMessage switch.tier (switch.site (net.streams id)) message = .ok frames) :
    ∃ net', net.deliver (.control id message) = (.ok (), net') ∧
      Changed k net net' none net.hostAt? (frames.filterMap switch.sent?) := by
  have ground := net.ground_deliver (.control id message)
  rw [Network.deliver_control here] at ground ⊢
  exact ⟨_, rfl, changed_applySwitch here (Switch.receiveMessage_of_ok verdict)
    (effects_none switch) ground⟩

/-- A frame that a host takes. -/
theorem deliver_host {host host' : Host} {frame : Frame} {events : List Event} (port : Port)
    (here : net.hostAt? id = some host)
    (received : host.receive frame = { result := .ok (), host := host', events }) :
    ∃ net', net.deliver (.frame ⟨id, port⟩ frame) = (.ok (), net') ∧
      Changed k net net' none (withHost net id host') events := by
  have ground := net.ground_deliver (.frame ⟨id, port⟩ frame)
  rw [Network.deliver_to_host here, received] at ground ⊢
  refine ⟨_, rfl, ground, rfl, rfl, rfl, rfl, rfl, ?_, ?_, ?_⟩
  · intro key
    exact (Network.memoryAt?_setHost here host' key).trans Option.map_id'.symm
  · intro key
    exact Network.hostAt?_setHost here host' key
  · exact EventQueue.toList_pushAll _ _

end Deliver

/-! ## Reactions -/

/-- A question as it spreads through the fabric. -/
def flooded (seat : Seat) (asked : Ipv4Address) : Frame :=
  (Letter.question asked).frame seat.pmac.mac seat.ip .broadcast

/-- The letters that a host sends when it learns where a seat is: all data that waited for it. -/
def released (k : Nat) (dest : Seat) (host : Host) (seat : Seat) : List Event :=
  (host.pendingFor seat.ip).map fun bytes =>
    .frame (dest.uplink k) ((Letter.data seat.ip bytes).frame dest.amac dest.ip seat.pmac.mac)

/-- What a host is after a packet has been delivered to it. -/
def accepting (host : Host) (packet : Ipv4Packet) : Host :=
  { host.countReceived with inbox := host.inbox.push packet }

/-- What a host is after it has learned where a seat is. -/
def learned (host : Host) (seat : Seat) : Host :=
  (host.countReceived.knowing seat.ip seat.pmac.mac).countSent (host.pendingFor seat.ip).length

/-- What a sound event leads to: the seat that it lets register, the hosts afterwards, and the events
that it raises. -/
inductive Reaction (k : Nat) (net : Network) :
    Event → Option Seat → (DeviceId → Option Host) → List Event → Prop where
  /-- A letter for a known seat enters the fabric, or leaves it again at the same switch. -/
  | enter {seat dest : Seat} {letter : Letter} {dst : MacAddress} {n : Nat} {target : Endpoint} :
      Sits k net.ground seat → Sits k net.ground dest →
      Registered (enrolled net.manager.directory seat) dest → letter.dst = dest.ip →
      OnWay k seat dest n target → distance seat dest = n + 1 →
      Reaction k net (.frame (seat.uplink k) (letter.frame seat.amac seat.ip dst)) (some seat)
        net.hostAt? [.frame target (letter.frame seat.pmac.mac seat.ip (dest.address n))]
  /-- A question for an unknown address is dropped, and all core switches are told to flood it. -/
  | miss {seat : Seat} {asked : Ipv4Address} : Sits k net.ground seat →
      (enrolled net.manager.directory seat)[asked]? = none →
      Reaction k net
        (.frame (seat.uplink k) ((Letter.question asked).frame seat.amac seat.ip .broadcast))
        (some seat) net.hostAt?
        ((List.range (k / 2 * (k / 2))).map fun c =>
          .control (coreId k c) (.arpFlood asked seat.ip seat.pmac))
  /-- A letter makes one hop. -/
  | hop {seat dest : Seat} {letter : Letter} {n : Nat} {target next : Endpoint} :
      Sits k net.ground seat → Sits k net.ground dest →
      Registered net.manager.directory seat → Registered net.manager.directory dest →
      letter.dst = dest.ip → OnWay k seat dest (n + 1) target → OnWay k seat dest n next →
      Reaction k net
        (.frame target (letter.frame seat.pmac.mac seat.ip (dest.address (n + 1)))) none net.hostAt?
        [.frame next (letter.frame seat.pmac.mac seat.ip (dest.address n))]
  /-- A core switch floods a question to all pods. -/
  | order {seat : Seat} {asked : Ipv4Address} {a i : Nat} : Sits k net.ground seat →
      Registered net.manager.directory seat → a < k / 2 → i < k / 2 →
      Reaction k net
        (.control (coreId k (a * (k / 2) + i)) (.arpFlood asked seat.ip seat.pmac)) none net.hostAt?
        ((List.range k).map fun pod =>
          .frame ⟨aggregationId k pod a, .upper i⟩ (flooded seat asked))
  /-- An aggregation switch floods a question to all edge switches of its pod. -/
  | fan {seat : Seat} {asked : Ipv4Address} {pod a i : Nat} : Sits k net.ground seat →
      Registered net.manager.directory seat → pod < k → a < k / 2 → i < k / 2 →
      Reaction k net (.frame ⟨aggregationId k pod a, .upper i⟩ (flooded seat asked)) none net.hostAt?
        ((List.range (k / 2)).map fun e => .frame ⟨edgeId k pod e, .upper a⟩ (flooded seat asked))
  /-- An edge switch offers a question to all its hosts. -/
  | offer {seat : Seat} {asked : Ipv4Address} {pod e j : Nat} : Sits k net.ground seat →
      Registered net.manager.directory seat → pod < k → e < k / 2 → j < k / 2 →
      Reaction k net (.frame ⟨edgeId k pod e, .upper j⟩ (flooded seat asked)) none net.hostAt?
        ((List.range (k / 2)).filterMap fun i =>
          (net.ground.peer? ⟨edgeId k pod e, .lower i⟩).map fun line =>
            .frame line (flooded seat asked))
  /-- Data is delivered. -/
  | data {seat dest : Seat} {host : Host} {bytes : Bytes} : Sits k net.ground seat →
      Sits k net.ground dest → Registered net.manager.directory seat →
      Registered net.manager.directory dest → net.hostAt? dest.id = some host →
      Reaction k net
        (.frame dest.line ((Letter.data dest.ip bytes).frame seat.pmac.mac seat.ip dest.amac)) none
        (withHost net dest.id (accepting host ⟨seat.ip, dest.ip, bytes⟩)) []
  /-- An answer releases what waited for it. -/
  | answered {seat dest : Seat} {host : Host} : Sits k net.ground seat →
      Sits k net.ground dest → Registered net.manager.directory seat →
      Registered net.manager.directory dest → net.hostAt? dest.id = some host →
      Reaction k net
        (.frame dest.line ((Letter.answer dest.ip).frame seat.pmac.mac seat.ip dest.amac)) none
        (withHost net dest.id (learned host seat)) (released k dest host seat)
  /-- A question tells its host where the asker is, and is answered. -/
  | asked {seat dest : Seat} {host : Host} {dst : MacAddress} : Sits k net.ground seat →
      Sits k net.ground dest → Registered net.manager.directory seat →
      dst = dest.amac ∧ Registered net.manager.directory dest ∨ dst = .broadcast →
      net.hostAt? dest.id = some host →
      Reaction k net
        (.frame dest.line ((Letter.question dest.ip).frame seat.pmac.mac seat.ip dst)) none
        (withHost net dest.id (learned host seat).countAnswered)
        (released k dest host seat ++
          [.frame (dest.uplink k)
            ((Letter.answer seat.ip).frame dest.amac dest.ip seat.pmac.mac)])
  /-- A question for somebody else. -/
  | ignored {seat dest : Seat} {host : Host} {asked : Ipv4Address} : Sits k net.ground seat →
      Sits k net.ground dest → Registered net.manager.directory seat → asked ≠ dest.ip →
      net.hostAt? dest.id = some host →
      Reaction k net (.frame dest.line (flooded seat asked)) none
        (withHost net dest.id host.countReceived) []

end PmacFabric.FatTree
