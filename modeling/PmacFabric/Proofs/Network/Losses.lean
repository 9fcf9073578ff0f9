import PmacFabric.Proofs.Device.Ports
import PmacFabric.Proofs.Network.Topology

/-!
# Frames lost at ports

A port without a link loses whatever it is to send, and counts it. `Network.lost` reads that counter.
Building moves it no more than any other count of a switch (`Build.shown`), and neither does a host; so
**`Work.losses`** says that a port loses frames only while it leads nowhere, whatever traffic there is.
-/

namespace PmacFabric

namespace PortState

/-- A port with a link loses nothing. -/
theorem txDropped_offers {state : PortState} (linked : state.peer.isSome = true)
    (frames : List Frame) :
    (state.offers frames).counters.txDropped = state.counters.txDropped := by
  induction frames generalizing state with
  | nil => rfl
  | cons frame rest ih =>
    have sent : (state.offer frame).counters = state.counters.transmit frame.size := if_pos linked
    have still : (state.offer frame).peer.isSome = true := linked
    refine (ih still).trans ?_
    rw [sent]
    rfl

end PortState

namespace Switch

/-- A count that begins at 0 and that no new link changes. -/
structure Counts (f : Switch → Nat) : Prop where
  fresh : ∀ name id identity numLower numUpper, f (.new name id identity numLower numUpper) = 0
  linked : ∀ switch port peer, f (switch.setPeer port peer) = f switch

/-- Drops for a reason count from 0. -/
theorem counts_dropped (reason : DropReason) : Counts fun switch => switch.drops.count reason where
  fresh _ _ _ _ _ := by cases reason <;> rfl
  linked switch port _ := by cases port <;> rfl

/-- The frames that a port has lost. -/
def lost (switch : Switch) (port : Port) : Nat := switch.meter port .txDropped

/-- The losses of a port count from 0. -/
theorem counts_lost (port : Port) : Counts fun switch => switch.lost port where
  fresh _ _ _ _ _ := meter_new ..
  linked switch target peer := switch.meter_setPeer target peer port .txDropped

section Lost

variable {switch : Switch} {key : Port}

/-- A port that does not exist has lost nothing. -/
theorem lost_of_absent (absent : (switch.port? key).isSome = false) : switch.lost key = 0 := by
  have none : switch.port? key = none :=
    Option.isNone_iff_eq_none.mp (Option.isSome_eq_false_iff.mp absent)
  rw [lost, meter, none]
  rfl

theorem lost_countReceived (switch : Switch) (port : Port) (frame : Frame) (key : Port) :
    (switch.countReceived port frame).lost key = switch.lost key := by
  rw [lost, lost, meter, meter, port?_countReceived]
  split
  · cases switch.port? key <;> rfl
  · rfl

/-- A port with a link loses nothing of what a verdict sends through it. -/
theorem lost_conclude (linked : (switch.peer? key).isSome = true) (verdict : Verdict)
    (state : ForwardState) : (switch.conclude verdict state).switch.lost key = switch.lost key := by
  rw [lost, lost, meter, meter, port?_conclude]
  obtain ⟨peer, leads⟩ := Option.isSome_iff_exists.mp linked
  obtain ⟨port, here, own⟩ := Option.bind_eq_some_iff.mp leads
  rw [here]
  exact PortState.txDropped_offers (by rw [own]; rfl) _

/-- **A port with a link loses nothing** when a frame arrives at its switch. -/
theorem lost_receive (linked : (switch.peer? key).isSome = true) (stream : Choice.Stream)
    (manager : FabricManager) (port : Port) (frame : Frame) :
    (switch.receive stream manager port frame).switch.lost key = switch.lost key := by
  have counted := switch.lost_countReceived port frame key
  cases here : switch.port? port with
  | none =>
    simp only [receive, here]
    rfl
  | some state =>
    have present : (switch.port? port).isSome = true := by rw [here]; rfl
    by_cases own : frame.dst = switch.address
    · have address : (switch.countReceived port frame).address = switch.address := by
        cases port <;> rfl
      simp only [receive, here, address, if_pos own]
      exact counted
    · have same := peer?_congr (outline_countReceived switch port frame) key
      rw [receive_eq_conclude present own]
      exact (lost_conclude (same ▸ linked) _ _).trans counted

/-- A port with a link loses nothing of what a message makes the switch send. -/
theorem lost_receiveMessage (linked : (switch.peer? key).isSome = true) (stream : Choice.Stream)
    (manager : FabricManager) (message : ControlMessage) :
    (switch.receiveMessage stream manager message).switch.lost key = switch.lost key :=
  lost_conclude linked _ _

end Lost

end Switch

namespace Network

/-- What a switch shows; nothing if there is no such switch. -/
def shown (net : Network) (f : Switch → Nat) (id : DeviceId) : Nat := (net.switchAt? id).elim 0 f

section Shown

variable {net after : Network} {f : Switch → Nat}

/-- No new link changes what a switch shows. -/
theorem shown_setPeer (counts : Switch.Counts f) (net : Network) (target peer : Endpoint)
    (id : DeviceId) : (net.setPeer target peer).shown f id = net.shown f id := by
  rw [shown, shown, setPeer, switchAt?_modifySwitch]
  split
  · cases net.switchAt? id with
    | none => rfl
    | some switch => exact counts.linked switch target.port peer
  · rfl

/-- **Building moves no count**, and new switches have counted nothing. -/
theorem Build.shown (move : net.Build after) (counts : Switch.Counts f) (id : DeviceId) :
    after.shown f id = net.shown f id := by
  have unchanged (same : after.switchAt? id = net.switchAt? id) : after.shown f id = net.shown f id := by
    rw [Network.shown, Network.shown, same]
  cases move with
  | addSwitch name identity numLower numUpper =>
    by_cases last : id = net.devices.size
    · have absent : net.switchAt? id = none := by rw [last, switchAt?_size]
      rw [Network.shown, Network.shown, switchAt?_addSwitch, if_pos last, absent]
      exact counts.fresh ..
    · exact unchanged (by rw [switchAt?_addSwitch, if_neg last])
  | addHost name amac ip => exact unchanged (switchAt?_addHost net name amac ip id)
  | addLink south north =>
    rcases net.addLink_cases south north with same | ⟨-, -, -, linked⟩
    · rw [same]
    · rw [linked]
      exact (shown_setPeer counts (net.setPeer south north) north south id).trans
        (shown_setPeer counts net south north id)
  | attachHost host switch port =>
    rcases net.attachHost_cases host switch port with same | ⟨old, here, -, -, attached⟩
    · rw [same]
    · rw [attached]
      have still : (net.setPeer ⟨switch, .lower port⟩ ⟨host, .upper 0⟩).hostAt? host = some old :=
        (hostAt?_modifySwitch net _ _ host).trans here
      refine Eq.trans ?_ (shown_setPeer counts net ⟨switch, .lower port⟩ ⟨host, .upper 0⟩ id)
      exact congrArg (Option.elim · 0 f) (switchAt?_setHost still _ id)

end Shown

/-- The frames that a port has lost. -/
def lost (net : Network) (key : Endpoint) : Nat :=
  net.shown (fun switch => switch.lost key.port) key.device

section Lost

variable {net after : Network} {key : Endpoint}

/-- The losses of a link end are those of the port. -/
theorem lost_of_switchAt? {switch : Switch} (here : net.switchAt? key.device = some switch) :
    net.lost key = switch.lost key.port := by
  rw [lost, shown, here]
  rfl

/-- The losses of a link end depend on its switch only. -/
theorem lost_congr (same : after.switchAt? key.device = net.switchAt? key.device) :
    after.lost key = net.lost key := by
  rw [lost, lost, shown, shown, same]

/-- **Building loses no frames.** -/
theorem Build.lost (move : net.Build after) (key : Endpoint) : after.lost key = net.lost key :=
  move.shown (Switch.counts_lost key.port) key.device

/-- A switch that acts changes at most its own losses. -/
theorem lost_applySwitch {id : DeviceId} {switch : Switch} {outcome : Switch.Outcome}
    (here : net.switchAt? id = some switch)
    (kept : id = key.device → outcome.switch.lost key.port = switch.lost key.port) :
    (net.applySwitch id outcome).lost key = net.lost key := by
  have written : (net.applySwitch id outcome).switchAt? key.device =
      if id = key.device then some outcome.switch else net.switchAt? key.device :=
    switchAt?_setSwitch here outcome.switch key.device
  by_cases own : id = key.device
  · rw [if_pos own] at written
    rw [lost_of_switchAt? written, lost_of_switchAt? (own ▸ here), kept own]
  · rw [if_neg own] at written
    exact lost_congr written

/-- Handling an event loses no frame at a port with a link. -/
theorem lost_deliver (net : Network) {event : Event} (reaches : net.ground.Reaches event)
    (linked : (net.opposite? key).isSome = true) :
    (net.deliver event).2.lost key = net.lost key := by
  have ported : ∀ {id switch}, net.switchAt? id = some switch → id = key.device →
      (switch.peer? key.port).isSome = true := by
    rintro id switch here rfl
    rwa [opposite?_of_switchAt? here] at linked
  cases event with
  | frame target frame =>
    obtain ⟨id, port⟩ := target
    rcases reaches with ⟨outline, found⟩ | ⟨card, found, -⟩
    · obtain ⟨switch, here, rfl⟩ := Option.map_eq_some_iff.mp found
      rw [deliver_to_switch here]
      exact lost_applySwitch here fun own => Switch.lost_receive (ported here own) _ _ port frame
    · obtain ⟨host, here, rfl⟩ := Option.map_eq_some_iff.mp found
      rw [deliver_to_host here]
      exact lost_congr (switchAt?_setHost here _ key.device)
  | control id message =>
    obtain ⟨outline, found⟩ := reaches
    obtain ⟨switch, here, rfl⟩ := Option.map_eq_some_iff.mp found
    rw [deliver_control here]
    exact lost_applySwitch here fun own => Switch.lost_receiveMessage (ported here own) _ _ message

/-- **A port with a link loses no frame** while events are processed. -/
theorem Work.lost (move : net.Work after) (sturdy : net.Sturdy)
    (linked : (net.opposite? key).isSome = true) : after.lost key = net.lost key := by
  cases move with
  | send here posted => exact lost_congr (switchAt?_setHost here _ key.device)
  | retransmit here posted => exact lost_congr (switchAt?_setHost here _ key.device)
  | inject => rfl
  | setStopAfter => rfl
  | watch => rfl
  | event stepped =>
    obtain ⟨event, queue, trace, -, reaches, delivered⟩ := sturdy.delivers stepped
    have same := @lost_deliver key { net with queue, trace, handled := net.handled + 1 } event
      reaches linked
    rw [← delivered] at same
    exact same

/-- **A port loses frames only while it leads nowhere.** -/
theorem Work.losses (move : net.Work after) (sturdy : net.Sturdy)
    (more : after.lost key ≠ net.lost key) :
    ∃ switch, net.switchAt? key.device = some switch ∧ (switch.port? key.port).isSome = true ∧
      switch.peer? key.port = none := by
  have loose : net.opposite? key = none := by
    cases leads : net.opposite? key with
    | none => rfl
    | some peer => exact absurd (move.lost sturdy (by rw [leads]; rfl)) more
  have outlines := move.outlines key.device
  cases here : net.switchAt? key.device with
  | none =>
    rw [here, Option.map_none, Option.map_eq_none_iff] at outlines
    exact absurd (lost_congr (outlines.trans here.symm)) more
  | some switch =>
    rw [here, Option.map_some] at outlines
    obtain ⟨later, there, outline⟩ := Option.map_eq_some_iff.mp outlines
    refine ⟨switch, rfl, ?_, (opposite?_of_switchAt? here).symm.trans loose⟩
    cases present : (switch.port? key.port).isSome with
    | true => rfl
    | false =>
      have absent := (Switch.isSome_port?_congr outline key.port).trans present
      refine absurd ?_ more
      rw [lost_of_switchAt? here, lost_of_switchAt? there, Switch.lost_of_absent present,
        Switch.lost_of_absent absent]

end Lost

end Network

end PmacFabric
