import PmacFabric.Proofs.Forwarding.Ruling
import PmacFabric.Proofs.Network.Wired

/-!
# Every event is handled

A network is **sturdy** if it is wired and every waiting event reaches a switch or an attached host.
Every network that users can bring about is sturdy (`Reached.sturdy`), and in a sturdy network no event
fails: `Reacts` lists what an event can do, and **`Sturdy.step`** says that processing one is always
such a reaction. Laws about all networks are proved by cases of `Reacts`.
-/

namespace PmacFabric.Network

/-- Whether somebody handles an event. -/
def Ground.Reaches (ground : Ground) : Event → Prop
  | .frame target _ => ground.Takes target
  | .control id _ => ∃ outline, ground.outline id = some outline

/-- An event that is handled is still handled after more has been built. -/
theorem Ground.Reaches.mono {ground later : Ground} (grows : ground.Grows later) {event : Event}
    (reaches : ground.Reaches event) : later.Reaches event := by
  cases event with
  | frame target frame => exact Takes.mono grows reaches
  | control id message =>
    obtain ⟨outline, found⟩ := reaches
    obtain ⟨outline', found', -⟩ := grows.outline found
    exact ⟨outline', found'⟩

structure Sturdy (net : Network) : Prop where
  wired : net.ground.Wired net.links
  posted : ∀ event ∈ net.queue.toList, net.ground.Reaches event

/-! ## Reactions -/

/-- What the handling of an event can be, with the events that it raises. -/
inductive Reacts (net : Network) : Event → List Event → Network → Prop where
  /-- A switch rules about a frame. -/
  | rules {id : DeviceId} {port : Port} {frame : Frame} {switch : Switch} {verdict : Verdict}
      {state : ForwardState} {outcome : Switch.Outcome} : net.switchAt? id = some switch →
      Ruling (switch.site (net.streams id)) (switch.forwardState net.manager) port frame verdict
        state →
      switch.Carried verdict state outcome →
      Reacts net (.frame ⟨id, port⟩ frame) (state.raised ++ switch.verdictEvents verdict)
        (net.applySwitch id outcome)
  /-- A switch handles a message. -/
  | obeys {id : DeviceId} {message : ControlMessage} {switch : Switch} {verdict : Verdict}
      {outcome : Switch.Outcome} : net.switchAt? id = some switch →
      verdict = Policy.onMessage switch.tier (switch.site (net.streams id)) message →
      switch.Carried verdict (switch.forwardState net.manager) outcome →
      Reacts net (.control id message) (switch.verdictEvents verdict) (net.applySwitch id outcome)
  /-- An attached host handles a frame. -/
  | host {id : DeviceId} {port : Port} {frame : Frame} {host : Host} {uplink : Endpoint} :
      net.hostAt? id = some host → host.uplink = some uplink →
      Reacts net (.frame ⟨id, port⟩ frame) (host.receive frame).events
        ((net.setHost id (host.receive frame).host).enqueue (host.receive frame).events)

section Reacts

variable {net after : Network} {event : Event} {raised : List Event}

/-- The fabric manager knows every switch of a wired network. -/
theorem member_of_wired {links : Array (Endpoint × Endpoint)} (wired : net.ground.Wired links)
    {id : DeviceId} {switch : Switch} (here : net.switchAt? id = some switch) :
    net.manager.switches.contains switch.id = true := by
  have outline := ground_outline here
  have number : switch.id = id := wired.number outline
  rw [number, Std.TreeMap.contains_eq_isSome_getElem?]
  exact Option.isSome_iff_exists.mpr ⟨_, wired.registered outline⟩

/-- **An event that reaches somebody is handled.** -/
theorem deliver_reacts (net : Network) (wired : net.ground.Wired net.links)
    (reaches : net.ground.Reaches event) :
    ∃ raised after, net.deliver event = (.ok (), after) ∧ net.Reacts event raised after ∧
      after.queue.toList = net.queue.toList ++ raised := by
  cases event with
  | frame target frame =>
    obtain ⟨id, port⟩ := target
    rcases reaches with ⟨outline, found⟩ | ⟨card, found, up, -⟩
    · obtain ⟨switch, here, rfl⟩ := Option.map_eq_some_iff.mp found
      obtain ⟨verdict, state, ruling, carried⟩ :=
        switch.receive_ruling (net.streams id) (member_of_wired wired here) port frame
      refine ⟨_, _, deliver_to_switch here port frame, .rules here ruling carried, ?_⟩
      rw [← carried.events]
      exact EventQueue.toList_pushAll _ _
    · obtain ⟨host, here, rfl⟩ := Option.map_eq_some_iff.mp found
      obtain ⟨uplink, attached⟩ := Option.isSome_iff_exists.mp up
      have handled : (host.receive frame).result = .ok () := by
        rcases Host.receive_cases attached frame with ⟨_, quiet, -⟩ | ⟨_, _, -, learned, -⟩
        · rw [quiet]
        · rw [learned]
      refine ⟨_, _, ?_, .host here attached, EventQueue.toList_pushAll _ _⟩
      rw [deliver_to_host here, handled]
      rfl
  | control id message =>
    obtain ⟨outline, found⟩ := reaches
    obtain ⟨switch, here, rfl⟩ := Option.map_eq_some_iff.mp found
    have done := switch.receiveMessage_handled (net.streams id) net.manager message
    refine ⟨_, _, deliver_control here message,
      .obeys here rfl ⟨done.outline, done.table, done.manager, done.events⟩, ?_⟩
    rw [← done.events]
    exact EventQueue.toList_pushAll _ _

/-- The frames of a verdict go to the peers of their ports. -/
theorem mem_verdictEvents {switch : Switch} {verdict : Verdict}
    (mem : event ∈ switch.verdictEvents verdict) :
    ∃ frames port frame peer, verdict = .ok frames ∧ (port, frame) ∈ frames ∧
      switch.peer? port = some peer ∧ event = .frame peer frame := by
  cases verdict with
  | error reason => cases mem
  | ok frames =>
    obtain ⟨⟨port, frame⟩, out, sent⟩ := List.mem_filterMap.mp mem
    obtain ⟨peer, leads, rfl⟩ := Option.map_eq_some_iff.mp sent
    exact ⟨frames, port, frame, peer, rfl, out, leads, rfl⟩

/-- Whatever a switch sends is handled by somebody. -/
theorem reaches_verdictEvents {links : Array (Endpoint × Endpoint)} (wired : net.ground.Wired links)
    {id : DeviceId} {switch : Switch} (here : net.switchAt? id = some switch) {verdict : Verdict}
    (mem : event ∈ switch.verdictEvents verdict) : net.ground.Reaches event := by
  obtain ⟨frames, port, frame, peer, -, -, leads, rfl⟩ := mem_verdictEvents mem
  exact wired.peer_takes ((peer?_of_switchAt? here port).trans leads)

/-- A flood goes to registered switches. -/
theorem registered_of_mem_floods {state : ForwardState} {site : Site} {dst src : Ipv4Address}
    {srcPmac : Pmac} (mem : event ∈ state.floods site dst src srcPmac) :
    ∃ id identity, event = .control id (.arpFlood dst src srcPmac) ∧
      state.manager.switches[id]? = some identity := by
  obtain ⟨id, listed, rfl⟩ := List.mem_map.mp mem
  obtain ⟨⟨key, identity⟩, entry, rfl⟩ := List.mem_map.mp listed
  have entry := (List.mem_filter.mp entry).1
  rw [Std.TreeMap.mem_toList_iff_getElem?_eq_some] at entry
  exact ⟨key, identity, rfl, entry⟩

/-- Whatever an attached host sends is handled by somebody. -/
theorem reaches_uplink {links : Array (Endpoint × Endpoint)} (wired : net.ground.Wired links)
    {id : DeviceId} {host : Host} {uplink : Endpoint} (here : net.hostAt? id = some host)
    (attached : host.uplink = some uplink) {events : List Event} (sent : Host.AllAt uplink events)
    (mem : event ∈ events) : net.ground.Reaches event := by
  obtain ⟨frame, rfl⟩ := sent event mem
  exact .inl (wired.joins (wired.uplink (ground_card here) attached)).north

/-- Events that are raised reach somebody. -/
theorem Reacts.reaches {links : Array (Endpoint × Endpoint)} (wired : net.ground.Wired links)
    (reacts : net.Reacts event raised after) : ∀ next ∈ raised, net.ground.Reaches next := by
  intro next mem
  cases reacts with
  | rules here ruling carried =>
    rcases List.mem_append.mp mem with told | sent
    · cases ruling with
      | plain _ quiet => rw [quiet] at told; cases told
      | admits _ _ _ _ quiet => rw [quiet] at told; cases told
      | asks _ _ _ _ _ asked =>
        rw [asked] at told
        obtain ⟨key, identity, rfl, listed⟩ := registered_of_mem_floods told
        exact wired.enrolled listed
    · exact reaches_verdictEvents wired here sent
  | obeys here => exact reaches_verdictEvents wired here mem
  | host here attached =>
    exact reaches_uplink wired here attached (Host.allAt_receive attached _) mem

/-- Handling an event makes no link. -/
theorem Reacts.links (reacts : net.Reacts event raised after) : after.links = net.links := by
  cases reacts <;> rfl

end Reacts

/-! ## Sturdy networks -/

section Sturdy

variable {net after : Network}

/-- An event that reaches somebody can be written down. -/
theorem describeEvent_ok (net : Network) {event : Event} (reaches : net.ground.Reaches event) :
    ∃ line, net.describeEvent event = .ok line := by
  have named : ∀ {id : DeviceId} {device : Device}, net.getDevice? id = some device →
      net.getName id = .ok device.name := by
    intro id device found
    simp only [getName, found]
  cases event with
  | frame target frame =>
    rcases reaches with ⟨_, found⟩ | ⟨_, found, -⟩ <;>
      obtain ⟨_, here, -⟩ := Option.map_eq_some_iff.mp found
    · exact ⟨_, by simp only [describeEvent, named (getDevice?_of_switchAt? here)]; rfl⟩
    · exact ⟨_, by simp only [describeEvent, named (getDevice?_of_hostAt? here)]; rfl⟩
  | control id message =>
    obtain ⟨_, found⟩ := reaches
    obtain ⟨_, here, -⟩ := Option.map_eq_some_iff.mp found
    exact ⟨_, by simp only [describeEvent, named (getDevice?_of_switchAt? here)]; rfl⟩

/-- The line of an event that reaches somebody is written, if there is a trace. -/
theorem record_ok (net : Network) {event : Event} (reaches : net.ground.Reaches event) :
    ∃ trace, net.record event = .ok { net with trace } := by
  obtain ⟨line, described⟩ := net.describeEvent_ok reaches
  unfold record
  split
  · rename_i silent
    exact ⟨net.trace, rfl⟩
  · rename_i lines traced
    rw [described]
    exact ⟨some (lines.push line), rfl⟩

/-- Processing an event takes it from the queue and delivers it, if it reaches somebody. -/
theorem step_eq {event : Event} {queue : EventQueue}
    (popped : net.queue.pop? = some (event, queue)) (reaches : net.ground.Reaches event) :
    ∃ trace, net.step =
      some (Network.deliver { net with queue, trace, handled := net.handled + 1 } event) := by
  obtain ⟨trace, written⟩ := record_ok { net with queue } reaches
  refine ⟨trace, ?_⟩
  simp only [step, popped, written]

/-- What processing the oldest event is in a sturdy network. -/
theorem Sturdy.delivers (sturdy : net.Sturdy) {result : Except NetworkError Unit}
    (stepped : net.step = some (result, after)) :
    ∃ event queue trace, net.queue.toList = event :: queue.toList ∧ net.ground.Reaches event ∧
      (result, after) =
        Network.deliver { net with queue, trace, handled := net.handled + 1 } event := by
  cases popped : net.queue.pop? with
  | none =>
    simp only [Network.step, popped] at stepped
    cases stepped
  | some first =>
    obtain ⟨event, queue⟩ := first
    have taken := EventQueue.toList_of_pop?_eq_some popped
    have reaches := sturdy.posted event (taken ▸ List.mem_cons_self)
    obtain ⟨trace, done⟩ := step_eq popped reaches
    exact ⟨event, queue, trace, taken, reaches, Option.some.inj (stepped.symm.trans done)⟩

/-- **No event fails in a sturdy network**: processing the oldest one is a reaction. -/
theorem Sturdy.step (sturdy : net.Sturdy) {result : Except NetworkError Unit}
    (stepped : net.step = some (result, after)) :
    ∃ event queue trace raised, result = .ok () ∧ net.queue.toList = event :: queue.toList ∧
      Reacts { net with queue, trace, handled := net.handled + 1 } event raised after ∧
      after.queue.toList = queue.toList ++ raised := by
  obtain ⟨event, queue, trace, taken, reaches, delivered⟩ := sturdy.delivers stepped
  obtain ⟨raised, after', handled, reacts, queued⟩ :=
    deliver_reacts { net with queue, trace, handled := net.handled + 1 } sturdy.wired reaches
  rw [handled] at delivered
  cases delivered
  exact ⟨event, queue, trace, raised, rfl, taken, reacts, queued⟩

/-- Events make no links. -/
theorem Work.links (sturdy : net.Sturdy) (move : net.Work after) : after.links = net.links := by
  cases move with
  | event stepped =>
    obtain ⟨event, queue, trace, raised, -, -, reacts, -⟩ := sturdy.step stepped
    exact reacts.links
  | _ => rfl

/-- Building raises no event. -/
theorem Build.queue (move : net.Build after) : after.queue = net.queue := by
  cases move with
  | addSwitch => rfl
  | addHost => rfl
  | addLink south north =>
    rcases net.addLink_cases south north with same | ⟨-, -, -, linked⟩
    · rw [same]
    · rw [linked]
      rfl
  | attachHost id switch port =>
    rcases net.attachHost_cases id switch port with same | ⟨host, -, -, -, attached⟩
    · rw [same]
    · rw [attached]
      rfl

/-- A network stays sturdy while devices and links are added. -/
theorem Sturdy.build (sturdy : net.Sturdy) (move : net.Build after) : after.Sturdy := by
  refine ⟨move.wired sturdy.wired, fun event mem => ?_⟩
  rw [move.queue] at mem
  exact (sturdy.posted event mem).mono move.grows

/-- A host that begins to send adds events that reach a switch. -/
theorem Sturdy.post (sturdy : net.Sturdy) {id : DeviceId} {host later : Host} {uplink : Endpoint}
    {events : List Event} (here : net.hostAt? id = some host) (card : later.card = host.card)
    (attached : host.uplink = some uplink) (sent : Host.AllAt uplink events) :
    ((net.setHost id later).enqueue events).Sturdy := by
  have same := ground_setHost here card events
  refine ⟨?_, fun event mem => ?_⟩
  · rw [same]
    exact sturdy.wired
  · rw [same]
    rw [enqueue, EventQueue.toList_pushAll] at mem
    rcases List.mem_append.mp mem with before | new
    · exact sturdy.posted event before
    · exact reaches_uplink sturdy.wired here attached sent new

/-- A network stays sturdy while events are processed. -/
theorem Sturdy.work (sturdy : net.Sturdy) (move : net.Work after) : after.Sturdy := by
  cases move with
  | send here posted =>
    obtain ⟨uplink, attached, sent⟩ := Host.allAt_send posted
    exact sturdy.post here (Host.card_send posted) attached sent
  | retransmit here posted =>
    obtain ⟨uplink, attached, sent⟩ := Host.allAt_retransmit posted
    exact sturdy.post here (Host.card_retransmit posted) attached sent
  | inject port frame here =>
    refine ⟨sturdy.wired, fun event mem => ?_⟩
    rw [enqueue, EventQueue.toList_pushAll] at mem
    rcases List.mem_append.mp mem with before | new
    · exact sturdy.posted event before
    · cases List.mem_singleton.mp new
      exact .inl ⟨_, ground_outline here⟩
  | setStopAfter => exact ⟨sturdy.wired, sturdy.posted⟩
  | watch => exact ⟨sturdy.wired, sturdy.posted⟩
  | event stepped =>
    have same := ground_step stepped
    have links := Work.links sturdy (.event stepped)
    obtain ⟨event, queue, trace, raised, -, taken, reacts, queued⟩ := sturdy.step stepped
    refine ⟨?_, fun next mem => ?_⟩
    · rw [same, links]
      exact sturdy.wired
    · rw [same]
      rw [queued] at mem
      rcases List.mem_append.mp mem with before | new
      · exact sturdy.posted next (taken ▸ List.mem_cons_of_mem event before)
      · have wired : Ground.Wired (ground { net with queue, trace, handled := net.handled + 1 })
            net.links := sturdy.wired
        exact reacts.reaches wired next new

/-- No sequence of moves leads out of the sturdy networks. -/
theorem Sturdy.leads {later : Network} (sturdy : net.Sturdy) (leads : net.Leads later) :
    later.Sturdy := by
  induction leads with
  | refl => exact sturdy
  | build _ move ih => exact ih.build move
  | work _ move ih => exact ih.work move

/-- A network is sturdy before anything is added. -/
theorem sturdy_empty (config : FabricConfig) (streams : DeviceId → Choice.Stream) :
    (Network.empty config streams).Sturdy :=
  ⟨wired_empty config streams, nofun⟩

/-- **Every network that users can bring about is sturdy.** -/
theorem Reached.sturdy (reached : net.Reached) : net.Sturdy := by
  obtain ⟨config, streams, leads⟩ := reached
  exact (sturdy_empty config streams).leads leads

end Sturdy

end PmacFabric.Network
