import PmacFabric.Network.Traffic
import PmacFabric.Network.Wiring
import PmacFabric.Proofs.Control.History
import PmacFabric.Proofs.Device.Host
import PmacFabric.Proofs.Device.Outline

/-!
# What traffic does not change

The **ground** of a network is the part of it that no event changes: the outlines of its switches,
the cards of its hosts and the registry of the fabric manager. `ground_deliver` holds for every
network and every event, so whatever is said about wiring and addresses has to be proved only for
the operations that build a network.

The first sections give the two views through which networks are described: `switchAt?` and
`hostAt?`, with one law for each operation that writes a device.
-/

namespace PmacFabric

/-! ## The registry -/

namespace Policy

/-- The manager of a state after `tell` has the registry that it had before. -/
theorem switches_tell (state : ForwardState) (site : Site) (message : ControlMessage) :
    (state.tell site message).2.manager.switches = state.manager.switches :=
  state.manager.switches_receive site.id message

/-- No query changes which switches the fabric manager knows. -/
theorem switches_query (state : ForwardState) (site : Site) (dst src : Ipv4Address)
    (srcPmac : Pmac) :
    (state.query site dst src srcPmac).2.manager.switches = state.manager.switches := by
  have told := switches_tell state site (.arpRequest src srcPmac dst)
  simp only [ForwardState.query]
  split <;> exact told

/-- Entering the sender of a frame does not change which switches the fabric manager knows. -/
theorem switches_sourcePmac (site : Site) (inPort : Nat) (amac : MacAddress) (ip : Ipv4Address)
    (state : ForwardState) :
    (Edge.sourcePmac site inPort amac ip state).2.manager.switches = state.manager.switches := by
  unfold Edge.sourcePmac
  split
  · rfl
  · split
    · exact switches_tell _ site _
    · rfl

/-- Finding the destination of a frame does not change which switches the fabric manager knows. -/
theorem switches_destinationPmac (site : Site) (dst src : Ipv4Address) (srcPmac : Pmac)
    (state : ForwardState) :
    (Edge.destinationPmac site dst src srcPmac state).2.manager.switches =
      state.manager.switches := by
  unfold Edge.destinationPmac
  split
  · rfl
  · exact switches_query state site dst src srcPmac

/-- Looking for a route does not change which switches the fabric manager knows. -/
theorem switches_of_route {state next : ForwardState} {site : Site} {dst : Pmac}
    {port : Option Port} (h : state.route site dst = (port, next)) :
    next.manager.switches = state.manager.switches := by
  have : next = (state.route site dst).2 := (congrArg Prod.snd h).symm
  rw [this]
  rfl

/-- The registry of switches outlasts a frame that is passed on at the edge. -/
theorem switches_edge_forward (site : Site) (frame : Frame) (src dst : Pmac)
    (state : ForwardState) :
    (Edge.forward site frame src dst state).2.manager.switches = state.manager.switches := by
  unfold Edge.forward
  split
  · rename_i routed; exact switches_of_route routed
  · rename_i routed; exact switches_of_route routed
  · rename_i routed
    split <;> exact switches_of_route routed

/-- The registry of switches outlasts a frame that is passed on above the edge. -/
theorem switches_transit_forward (site : Site) (frame : Frame) (state : ForwardState) :
    (Transit.forward site frame state).2.manager.switches = state.manager.switches := by
  unfold Transit.forward
  split <;> (rename_i routed; exact switches_of_route routed)

/-- The registry of switches outlasts frames from below. -/
theorem switches_fromBelow (tier : Tier) (site : Site) (inPort : Nat) (frame : Frame)
    (state : ForwardState) :
    (fromBelow tier site inPort frame state).2.manager.switches = state.manager.switches := by
  cases tier with
  | edge =>
    show (Edge.fromBelow site inPort frame state).2.manager.switches = _
    unfold Edge.fromBelow
    split
    · rfl
    · rename_i src dst _
      have source := switches_sourcePmac site inPort frame.src src state
      split
      · rename_i h; rw [h] at source; exact source
      · rename_i srcPmac next h
        rw [h] at source
        have resolved := switches_destinationPmac site dst src srcPmac next
        dsimp only
        split
        · exact resolved.trans source
        · exact (switches_edge_forward _ _ _ _ _).trans (resolved.trans source)
  | aggregation => exact switches_transit_forward site frame state
  | core => exact switches_transit_forward site frame state

/-- The registry of switches outlasts frames from above. -/
theorem switches_fromAbove (tier : Tier) (site : Site) (frame : Frame) (state : ForwardState) :
    (fromAbove tier site frame state).2.manager.switches = state.manager.switches := by
  cases tier with
  | edge =>
    show (Edge.fromAbove site frame state).2.manager.switches = _
    unfold Edge.fromAbove
    split
    · rfl
    · split
      · rfl
      · split <;> (rename_i routed; exact switches_of_route routed)
  | aggregation =>
    show (Transit.fromAbove site frame state).2.manager.switches = _
    unfold Transit.fromAbove
    split
    · rfl
    · split <;> (rename_i routed; exact switches_of_route routed)
  | core => rfl

end Policy

namespace Switch

/-- The registry of switches outlasts whatever becomes of a verdict. -/
theorem switches_conclude (switch : Switch) (verdict : Verdict) (state : ForwardState) :
    (switch.conclude verdict state).manager.switches = state.manager.switches := by
  cases verdict <;> rfl

/-- The registry of switches outlasts every frame that a switch receives. -/
theorem switches_receive (switch : Switch) (stream : Choice.Stream) (manager : FabricManager)
    (port : Port) (frame : Frame) :
    (switch.receive stream manager port frame).manager.switches = manager.switches := by
  unfold receive
  split
  · rfl
  · dsimp only
    split
    · rfl
    · rw [switches_conclude]
      cases port with
      | lower i => exact Policy.switches_fromBelow _ _ _ _ _
      | upper i => exact Policy.switches_fromAbove _ _ _ _

/-- The registry of switches outlasts every message that a switch receives. -/
theorem switches_receiveMessage (switch : Switch) (stream : Choice.Stream)
    (manager : FabricManager) (message : ControlMessage) :
    (switch.receiveMessage stream manager message).manager.switches = manager.switches :=
  switches_conclude switch _ _

end Switch

/-- What a switch remembers of the frames it has handled, counters apart. -/
structure Switch.Memory where
  table : PmacTable
  inbox : Array Frame

def Switch.memory (switch : Switch) : Switch.Memory := ⟨switch.table, switch.inbox⟩

def Device.switch? : Device → Option Switch
  | .switch s => some s
  | .host _ => none

def Device.host? : Device → Option Host
  | .switch _ => none
  | .host h => some h

namespace Network

/-! ## Two views of the devices -/

/-- The switch with a number. -/
def switchAt? (net : Network) (id : DeviceId) : Option Switch :=
  net.devices[id]?.bind Device.switch?

/-- The host with a number. -/
def hostAt? (net : Network) (id : DeviceId) : Option Host :=
  net.devices[id]?.bind Device.host?

/-- What the switch with a number remembers. -/
def memoryAt? (net : Network) (id : DeviceId) : Option Switch.Memory :=
  (net.switchAt? id).map Switch.memory

theorem getDevice?_of_switchAt? {net : Network} {id : DeviceId} {switch : Switch}
    (h : net.switchAt? id = some switch) : net.getDevice? id = some (.switch switch) := by
  obtain ⟨device, found, shown⟩ := Option.bind_eq_some_iff.mp h
  cases device with
  | switch s => cases shown; exact found
  | host _ => cases shown

theorem getDevice?_of_hostAt? {net : Network} {id : DeviceId} {host : Host}
    (h : net.hostAt? id = some host) : net.getDevice? id = some (.host host) := by
  obtain ⟨device, found, shown⟩ := Option.bind_eq_some_iff.mp h
  cases device with
  | switch _ => cases shown
  | host host => cases shown; exact found

theorem switchAt?_of_getDevice? {net : Network} {id : DeviceId} {switch : Switch}
    (h : net.getDevice? id = some (.switch switch)) : net.switchAt? id = some switch :=
  Option.bind_eq_some_iff.mpr ⟨_, h, rfl⟩

theorem hostAt?_of_getDevice? {net : Network} {id : DeviceId} {host : Host}
    (h : net.getDevice? id = some (.host host)) : net.hostAt? id = some host :=
  Option.bind_eq_some_iff.mpr ⟨_, h, rfl⟩

/-- Callers get the host with a number, if it is a host. -/
theorem getHost_eq_ok_iff {net : Network} {id : DeviceId} {host : Host} :
    net.getHost id = .ok host ↔ net.hostAt? id = some host := by
  constructor
  · intro h
    unfold getHost at h
    split at h
    · rename_i found
      cases h
      exact hostAt?_of_getDevice? found
    · cases h
    · cases h
  · intro h
    simp only [getHost, getDevice?_of_hostAt? h]

/-- Callers get the switch with a number, if it is a switch. -/
theorem getSwitch_eq_ok_iff {net : Network} {id : DeviceId} {switch : Switch} :
    net.getSwitch id = .ok switch ↔ net.switchAt? id = some switch := by
  constructor
  · intro h
    unfold getSwitch at h
    split at h
    · rename_i found
      cases h
      exact switchAt?_of_getDevice? found
    · cases h
    · cases h
  · intro h
    simp only [getSwitch, getDevice?_of_switchAt? h]

/-- No number belongs to a switch and to a host. -/
theorem hostAt?_of_switchAt? {net : Network} {id : DeviceId} {switch : Switch}
    (h : net.switchAt? id = some switch) : net.hostAt? id = none := by
  have h : net.devices[id]? = _ := getDevice?_of_switchAt? h
  simp only [hostAt?, h, Option.bind_some, Device.host?]

/-- No device is a host and a switch. -/
theorem switchAt?_of_hostAt? {net : Network} {id : DeviceId} {host : Host}
    (h : net.hostAt? id = some host) : net.switchAt? id = none := by
  have h : net.devices[id]? = _ := getDevice?_of_hostAt? h
  simp only [switchAt?, h, Option.bind_some, Device.switch?]

theorem switches_eq (net : Network) :
    net.switches = net.devices.toList.filterMap Device.switch? := rfl

theorem hosts_eq (net : Network) : net.hosts = net.devices.toList.filterMap Device.host? := by
  unfold hosts
  congr 1
  funext device
  cases device <;> rfl

/-- The devices of a kind are those that are found by their numbers. -/
theorem mem_kind_iff {α : Type} {net : Network} {kind : Device → Option α} {item : α} :
    item ∈ net.devices.toList.filterMap kind ↔
      ∃ id : DeviceId, net.devices[id]?.bind kind = some item := by
  rw [List.mem_filterMap]
  constructor
  · rintro ⟨device, mem, shown⟩
    obtain ⟨id, found⟩ := Array.mem_iff_getElem?.mp (Array.mem_toList_iff.mp mem)
    exact ⟨id, Option.bind_eq_some_iff.mpr ⟨device, found, shown⟩⟩
  · rintro ⟨id, here⟩
    obtain ⟨device, found, shown⟩ := Option.bind_eq_some_iff.mp here
    exact ⟨device, Array.mem_toList_iff.mpr (Array.mem_of_getElem? found), shown⟩

/-- The devices of a kind are listed by their numbers. -/
theorem pairwise_kind_iff {α : Type} {net : Network} {kind : Device → Option α}
    {R : α → α → Prop} :
    (net.devices.toList.filterMap kind).Pairwise R ↔
      ∀ {id id' : DeviceId} {item item'}, id < id' → net.devices[id]?.bind kind = some item →
        net.devices[id']?.bind kind = some item' → R item item' := by
  rw [List.pairwise_filterMap, List.pairwise_iff_getElem]
  constructor
  · intro each id id' item item' before here here'
    obtain ⟨device, found, shown⟩ := Option.bind_eq_some_iff.mp here
    obtain ⟨device', found', shown'⟩ := Option.bind_eq_some_iff.mp here'
    obtain ⟨within, rfl⟩ := Array.getElem?_eq_some_iff.mp found
    obtain ⟨within', rfl⟩ := Array.getElem?_eq_some_iff.mp found'
    exact each id id' within within' before item shown item' shown'
  · intro each i j hi hj before item shown item' shown'
    exact each before (Option.bind_eq_some_iff.mpr ⟨_, Array.getElem?_eq_getElem hi, shown⟩)
      (Option.bind_eq_some_iff.mpr ⟨_, Array.getElem?_eq_getElem hj, shown'⟩)

/-- The switches are those with numbers. -/
theorem mem_switches_iff {net : Network} {switch : Switch} :
    switch ∈ net.switches ↔ ∃ id, net.switchAt? id = some switch :=
  mem_kind_iff

/-- The hosts are those with numbers. -/
theorem mem_hosts_iff {net : Network} {host : Host} :
    host ∈ net.hosts ↔ ∃ id, net.hostAt? id = some host := by
  rw [hosts_eq]
  exact mem_kind_iff

/-- What holds of any two switches with different numbers holds of any two in the list. -/
theorem pairwise_switches {net : Network} {R : Switch → Switch → Prop}
    (each : ∀ {id id' switch switch'}, id ≠ id' → net.switchAt? id = some switch →
      net.switchAt? id' = some switch' → R switch switch') : net.switches.Pairwise R :=
  pairwise_kind_iff.mpr fun before => each (Nat.ne_of_lt before)

/-- What holds of any two hosts with different numbers holds of any two in the list. -/
theorem pairwise_hosts {net : Network} {R : Host → Host → Prop}
    (each : ∀ {id id' host host'}, id ≠ id' → net.hostAt? id = some host →
      net.hostAt? id' = some host' → R host host') : net.hosts.Pairwise R := by
  rw [hosts_eq]
  exact pairwise_kind_iff.mpr fun before => each (Nat.ne_of_lt before)

/-- Numbers of devices are below the number of devices. -/
theorem lt_size_of_getDevice? {net : Network} {id : DeviceId} {device : Device}
    (h : net.getDevice? id = some device) : id < net.devices.size :=
  (Array.getElem?_eq_some_iff.mp h).1

/-! ## Writing a device -/

/-- Replacing a switch changes no other switch. -/
theorem switchAt?_setSwitch {net : Network} {id : DeviceId} {old : Switch}
    (here : net.switchAt? id = some old) (switch : Switch) (key : DeviceId) :
    (net.setSwitch id switch).switchAt? key =
      if id = key then some switch else net.switchAt? key := by
  have within := lt_size_of_getDevice? (getDevice?_of_switchAt? here)
  simp only [switchAt?, setSwitch, Array.getElem?_setIfInBounds]
  by_cases same : id = key
  · subst same
    simp only [if_true, within]
    rfl
  · simp only [same, if_false]

/-- Replacing a switch changes no host. -/
theorem hostAt?_setSwitch {net : Network} {id : DeviceId} {old : Switch}
    (here : net.switchAt? id = some old) (switch : Switch) (key : DeviceId) :
    (net.setSwitch id switch).hostAt? key = net.hostAt? key := by
  have within := lt_size_of_getDevice? (getDevice?_of_switchAt? here)
  by_cases same : id = key
  · subst same
    rw [hostAt?_of_switchAt? here]
    simp only [hostAt?, setSwitch, Array.getElem?_setIfInBounds, if_true, within]
    rfl
  · simp only [hostAt?, setSwitch, Array.getElem?_setIfInBounds, same, if_false]

/-- Replacing a host changes no other host. -/
theorem hostAt?_setHost {net : Network} {id : DeviceId} {old : Host}
    (here : net.hostAt? id = some old) (host : Host) (key : DeviceId) :
    (net.setHost id host).hostAt? key = if id = key then some host else net.hostAt? key := by
  have within := lt_size_of_getDevice? (getDevice?_of_hostAt? here)
  simp only [hostAt?, setHost, Array.getElem?_setIfInBounds]
  by_cases same : id = key
  · subst same
    simp only [if_true, within]
    rfl
  · simp only [same, if_false]

/-- Replacing a host changes no switch. -/
theorem switchAt?_setHost {net : Network} {id : DeviceId} {old : Host}
    (here : net.hostAt? id = some old) (host : Host) (key : DeviceId) :
    (net.setHost id host).switchAt? key = net.switchAt? key := by
  have within := lt_size_of_getDevice? (getDevice?_of_hostAt? here)
  by_cases same : id = key
  · subst same
    rw [switchAt?_of_hostAt? here]
    simp only [switchAt?, setHost, Array.getElem?_setIfInBounds, if_true, within]
    rfl
  · simp only [switchAt?, setHost, Array.getElem?_setIfInBounds, same, if_false]

/-- A switch that is replaced remembers what the new one does. -/
theorem memoryAt?_setSwitch {net : Network} {id : DeviceId} {old : Switch}
    (here : net.switchAt? id = some old) (switch : Switch) (key : DeviceId) :
    (net.setSwitch id switch).memoryAt? key =
      if id = key then some switch.memory else net.memoryAt? key := by
  unfold memoryAt?
  rw [switchAt?_setSwitch here]
  split <;> rfl

/-- Replacing a host changes no memory. -/
theorem memoryAt?_setHost {net : Network} {id : DeviceId} {old : Host}
    (here : net.hostAt? id = some old) (host : Host) (key : DeviceId) :
    (net.setHost id host).memoryAt? key = net.memoryAt? key := by
  unfold memoryAt?
  rw [switchAt?_setHost here]

/-! ## Who handles an event -/

/-- A frame for a switch is handled by its policy. -/
theorem deliver_to_switch {net : Network} {id : DeviceId} {switch : Switch}
    (here : net.switchAt? id = some switch) (port : Port) (frame : Frame) :
    net.deliver (.frame ⟨id, port⟩ frame) =
      (.ok (), net.applySwitch id (switch.receive (net.streams id) net.manager port frame)) := by
  simp only [deliver, getDevice?_of_switchAt? here]

/-- A frame for a host is handled by the host. -/
theorem deliver_to_host {net : Network} {id : DeviceId} {host : Host}
    (here : net.hostAt? id = some host) (port : Port) (frame : Frame) :
    net.deliver (.frame ⟨id, port⟩ frame) =
      ((host.receive frame).result.mapError .device,
        (net.setHost id (host.receive frame).host).enqueue (host.receive frame).events) := by
  simp only [deliver, getDevice?_of_hostAt? here]

/-- A message of the fabric manager is handled by the switch that it is for. -/
theorem deliver_control {net : Network} {id : DeviceId} {switch : Switch}
    (here : net.switchAt? id = some switch) (message : ControlMessage) :
    net.deliver (.control id message) =
      (.ok (),
        net.applySwitch id (switch.receiveMessage (net.streams id) net.manager message)) := by
  simp only [deliver, getDevice?_of_switchAt? here]

/-! ## The ground -/

/-- What no event changes. -/
structure Ground where
  outline : DeviceId → Option Switch.Outline
  card : DeviceId → Option Host.Card
  registry : Std.TreeMap DeviceId SwitchIdentity

def ground (net : Network) : Ground :=
  { outline := fun id => (net.switchAt? id).map Switch.outline
    card := fun id => (net.hostAt? id).map Host.card
    registry := net.manager.switches }

/-- The ground knows the outline of every switch. -/
theorem ground_outline {net : Network} {id : DeviceId} {switch : Switch}
    (here : net.switchAt? id = some switch) : net.ground.outline id = some switch.outline := by
  simp only [ground, here, Option.map_some]

/-- The ground knows the card of every host. -/
theorem ground_card {net : Network} {id : DeviceId} {host : Host}
    (here : net.hostAt? id = some host) : net.ground.card id = some host.card := by
  simp only [ground, here, Option.map_some]

/-- The ground stays when a switch keeps its outline and the manager its registry. -/
theorem ground_applySwitch {net : Network} {id : DeviceId} {switch : Switch}
    {outcome : Switch.Outcome} (here : net.switchAt? id = some switch)
    (outline : outcome.switch.outline = switch.outline)
    (registry : outcome.manager.switches = net.manager.switches) :
    (net.applySwitch id outcome).ground = net.ground := by
  have outlines : (net.applySwitch id outcome).ground.outline = net.ground.outline := by
    funext key
    show ((net.setSwitch id outcome.switch).switchAt? key).map Switch.outline = _
    rw [switchAt?_setSwitch here]
    split
    · rename_i same
      rw [← same, ground_outline here, Option.map_some, outline]
    · rfl
  have cards : (net.applySwitch id outcome).ground.card = net.ground.card := by
    funext key
    show ((net.setSwitch id outcome.switch).hostAt? key).map Host.card = _
    rw [hostAt?_setSwitch here]
    rfl
  show Ground.mk _ _ _ = Ground.mk _ _ _
  exact congr (congr (congrArg Ground.mk outlines) cards) registry

/-- The ground stays when a host keeps its card. -/
theorem ground_setHost {net : Network} {id : DeviceId} {old host : Host}
    (here : net.hostAt? id = some old) (card : host.card = old.card) (events : List Event) :
    ((net.setHost id host).enqueue events).ground = net.ground := by
  have outlines : ((net.setHost id host).enqueue events).ground.outline = net.ground.outline := by
    funext key
    show ((net.setHost id host).switchAt? key).map Switch.outline = _
    rw [switchAt?_setHost here]
    rfl
  have cards : ((net.setHost id host).enqueue events).ground.card = net.ground.card := by
    funext key
    show ((net.setHost id host).hostAt? key).map Host.card = _
    rw [hostAt?_setHost here]
    split
    · rename_i same
      rw [← same, ground_card here, Option.map_some, card]
    · rfl
  show Ground.mk _ _ _ = Ground.mk _ _ _
  exact congr (congr (congrArg Ground.mk outlines) cards) rfl

/-- **No event changes the ground.** -/
theorem ground_deliver (net : Network) (event : Event) : (net.deliver event).2.ground = net.ground := by
  cases event with
  | frame target frame =>
    obtain ⟨id, port⟩ := target
    cases found : net.getDevice? id with
    | none => simp only [deliver, found]
    | some device =>
      cases device with
      | switch switch =>
        have here := switchAt?_of_getDevice? found
        rw [deliver_to_switch here]
        exact ground_applySwitch here (switch.outline_receive _ _ _ _)
          (switch.switches_receive _ _ _ _)
      | host host =>
        have here := hostAt?_of_getDevice? found
        rw [deliver_to_host here]
        exact ground_setHost here (host.card_receive frame) _
  | control id message =>
    cases found : net.getDevice? id with
    | none => simp only [deliver, found]
    | some device =>
      cases device with
      | switch switch =>
        have here := switchAt?_of_getDevice? found
        rw [deliver_control here]
        exact ground_applySwitch here (switch.outline_receiveMessage _ _ _)
          (switch.switches_receiveMessage _ _ _)
      | host host => simp only [deliver, found]

/-- A trace is not part of the ground. -/
theorem ground_record {net net' : Network} {event : Event} (h : net.record event = .ok net') :
    net'.ground = net.ground := by
  unfold record at h
  split at h
  · cases h; rfl
  · cases described : net.describeEvent event with
    | error e => rw [described] at h; cases h
    | ok line => rw [described] at h; cases h; rfl

/-- **No event changes the ground.** -/
theorem ground_step {net net' : Network} {result : Except NetworkError Unit}
    (h : net.step = some (result, net')) : net'.ground = net.ground := by
  unfold step at h
  split at h
  · cases h
  · rename_i event queue _
    dsimp only at h
    split at h
    · cases h; rfl
    · rename_i recorded done
      have kept := ground_record done
      have delivered := ground_deliver { recorded with handled := recorded.handled + 1 } event
      rw [Option.some.inj h] at delivered
      exact delivered.trans kept

/-- A run of any length leaves the ground as it is. -/
theorem ground_run (n : Nat) (net : Network) : (run n net).2.ground = net.ground := by
  induction n generalizing net with
  | zero =>
    unfold run
    split <;> rfl
  | succ n ih =>
    unfold run
    split
    · rfl
    · rename_i e next stepped
      exact ground_step stepped
    · rename_i next stepped
      exact (ih next).trans (ground_step stepped)

end Network

end PmacFabric
