import PmacFabric.Proofs.Device.Ports
import PmacFabric.Proofs.Forwarding.Billing
import PmacFabric.Proofs.Network.Sturdy

/-!
# Floods, switch by switch

A `Deed` is the processing of one event, with the events that it raised. A deed **floods** a frame if
a switch offers one copy of it to each of its lower ports, and nothing else happens anywhere: no
device learns, keeps or drops anything, and no upper port sends. `floods_of_frame` and
`floods_of_message` say that a switch which decides to flood does just that.
-/

namespace PmacFabric

/-- The device that handles an event. -/
def Event.device : Event → DeviceId
  | .frame target _ => target.device
  | .control id _ => id

/-- The port at which an event arrives, if it is a frame. -/
def Event.port? : Event → Option Port
  | .frame target _ => some target.port
  | .control _ _ => none

/-- What a port becomes when its switch floods a frame: a lower port is offered the frame, and an upper
one at most counts its arrival. -/
def PortState.flooded (frame : Frame) (arrival? : Option Port) (port : Port) (state : PortState) :
    PortState :=
  match port with
  | .lower _ => state.offer frame
  | .upper _ => if arrival? = some port then state.arrive frame else state

namespace Network

/-- The processing of one event. -/
structure Deed where
  before : Network
  event : Event
  result : Except NetworkError Unit
  after : Network
  /-- The events that were added, in order. -/
  raised : List Event

/-- What a switch is after it has flooded a frame. -/
structure Flooded (frame : Frame) (arrival? : Option Port) (switch after : Switch) : Prop where
  table : after.table = switch.table
  inbox : after.inbox = switch.inbox
  drops : after.drops = switch.drops
  ports : ∀ port, after.port? port =
    (switch.port? port).map (PortState.flooded frame arrival? port)

/-- The copies of a frame that leave a switch: one for each lower port with a link. -/
def copies (frame : Frame) (switch : Switch) : List Event :=
  (List.range switch.numLower).filterMap fun i =>
    (switch.peer? (.lower i)).map fun peer => .frame peer frame

/-- **A deed that floods a frame, and does nothing else.** -/
structure Deed.Floods (frame : Frame) (deed : Deed) : Prop where
  succeeds : deed.result = .ok ()
  manager : deed.after.manager = deed.before.manager
  hosts : ∀ id, deed.after.hostAt? id = deed.before.hostAt? id
  others : ∀ id, id ≠ deed.event.device → deed.after.switchAt? id = deed.before.switchAt? id
  switch : ∃ switch after, deed.before.switchAt? deed.event.device = some switch ∧
    deed.after.switchAt? deed.event.device = some after ∧
    Flooded frame deed.event.port? switch after ∧ deed.raised = copies frame switch

section Switch

variable {switch : Switch} {stream : Choice.Stream} {manager : FabricManager} {frame : Frame}

/-- The events of a flood are the copies that leave through ports with links. -/
theorem copies_eq (switch : Switch) (stream : Choice.Stream) (frame : Frame) :
    ((switch.site stream).floodLower frame).filterMap switch.sent? = copies frame switch := by
  rw [Site.floodLower, List.filterMap_map]
  rfl

/-- The frames of a flood for a port change it as a flood does. -/
theorem offers_floodLower (switch : Switch) (stream : Choice.Stream) (frame : Frame) (port : Port)
    (arrival? : Option Port) (above : ∀ i, arrival? ≠ some (.lower i)) :
    (if arrival? = some port then (switch.port? port).map (·.arrive frame)
      else switch.port? port).map
        (·.offers (Switch.framesFor port ((switch.site stream).floodLower frame))) =
      (switch.port? port).map (PortState.flooded frame arrival? port) := by
  rw [Switch.framesFor_floodLower]
  cases port with
  | lower i =>
    rw [if_neg (above i)]
    cases found : switch.port? (.lower i) with
    | none => rfl
    | some state =>
      have within : i < switch.numLower :=
        (switch.isSome_port?_lower i).mp (by rw [found]; rfl)
      dsimp only
      rw [if_pos (show i < (switch.site stream).numLower from within)]
      rfl
  | upper j =>
    dsimp only
    by_cases own : arrival? = some (.upper j)
    · have arrived : PortState.flooded frame arrival? (.upper j) = (·.arrive frame) := by
        funext state
        exact if_pos own
      rw [if_pos own, arrived]
      exact Option.map_id'
    · have quiet : PortState.flooded frame arrival? (.upper j) = id := by
        funext state
        exact if_neg own
      rw [if_neg own, quiet]
      rfl

/-- A switch that decides to flood a frame from above floods it. -/
theorem flooded_receive {j : Nat} (here : (switch.port? (.upper j)).isSome)
    (other : frame.dst ≠ switch.address)
    (verdict : switch.judge stream manager (.upper j) frame =
      (.ok ((switch.site stream).floodLower frame), switch.forwardState manager)) :
    (switch.receive stream manager (.upper j) frame).manager = manager ∧
      (switch.receive stream manager (.upper j) frame).events = copies frame switch ∧
      Flooded frame (some (.upper j)) switch
        (switch.receive stream manager (.upper j) frame).switch := by
  have handled := Switch.receive_of_ok here other verdict
  refine ⟨handled.manager, ?_, handled.table, handled.inbox, ?_, fun port => ?_⟩
  · rw [handled.events, copies_eq]
    exact List.nil_append _
  · rw [Switch.receive_eq_conclude here other, verdict, Switch.drops_conclude]
    exact switch.drops_countReceived _ frame
  · have above : ∀ i, some (Port.upper j) ≠ some (.lower i) := by
      intro i same
      cases same
    rw [Switch.port?_receive here other, verdict,
      ← offers_floodLower switch stream frame port (some (.upper j)) above]
    simp only [Option.some.injEq]
    rfl

/-- A switch that a message has flood a frame floods it. -/
theorem flooded_receiveMessage {message : ControlMessage}
    (verdict : Policy.onMessage switch.tier (switch.site stream) message =
      .ok ((switch.site stream).floodLower frame)) :
    (switch.receiveMessage stream manager message).manager = manager ∧
      (switch.receiveMessage stream manager message).events = copies frame switch ∧
      Flooded frame none switch (switch.receiveMessage stream manager message).switch := by
  have handled := @Switch.receiveMessage_of_ok switch stream manager message _ verdict
  refine ⟨handled.manager, ?_, handled.table, handled.inbox, ?_, fun port => ?_⟩
  · rw [handled.events, copies_eq]
  · rw [Switch.drops_receiveMessage, verdict]
    rfl
  · rw [Switch.port?_receiveMessage, verdict,
      ← offers_floodLower switch stream frame port none (fun i => nofun)]
    rfl

end Switch

section Deeds

variable {net after : Network} {event : Event} {rest raised : List Event}
  {result : Except NetworkError Unit} {switch : Switch} {frame : Frame}

/-- What processing an event at a switch makes of a sturdy network. -/
theorem Sturdy.applies (sturdy : net.Sturdy) (queued : net.queue.toList = event :: rest)
    (here : net.switchAt? event.device = some switch)
    (stepped : net.step = some (result, after)) (added : after.queue.toList = rest ++ raised) :
    ∃ outcome : Switch.Outcome,
      outcome = (match event with
        | .frame target frame =>
          switch.receive (net.streams target.device) net.manager target.port frame
        | .control id message => switch.receiveMessage (net.streams id) net.manager message) ∧
      result = .ok () ∧ raised = outcome.events ∧ after.manager = outcome.manager ∧
      (∀ id, after.hostAt? id = net.hostAt? id) ∧
      ∀ id, after.switchAt? id =
        if event.device = id then some outcome.switch else net.switchAt? id := by
  obtain ⟨event', queue, trace, taken, -, delivered⟩ := sturdy.delivers stepped
  obtain ⟨rfl, rfl⟩ := List.cons.inj (queued.symm.trans taken)
  have there : switchAt? { net with queue, trace, handled := net.handled + 1 } event.device =
      some switch := here
  cases event with
  | frame target frame =>
    obtain ⟨id, port⟩ := target
    have there : switchAt? { net with queue, trace, handled := net.handled + 1 } id =
        some switch := there
    rw [deliver_to_switch there] at delivered
    cases delivered
    refine ⟨_, rfl, rfl, ?_, rfl, hostAt?_setSwitch there _, switchAt?_setSwitch there _⟩
    exact (List.append_cancel_left ((EventQueue.toList_pushAll _ _).symm.trans added)).symm
  | control id message =>
    have there : switchAt? { net with queue, trace, handled := net.handled + 1 } id =
        some switch := there
    rw [deliver_control there] at delivered
    cases delivered
    refine ⟨_, rfl, rfl, ?_, rfl, hostAt?_setSwitch there _, switchAt?_setSwitch there _⟩
    exact (List.append_cancel_left ((EventQueue.toList_pushAll _ _).symm.trans added)).symm

/-- A switch above which a frame arrives floods it, if it decides to. -/
theorem floods_of_frame (sturdy : net.Sturdy) {id : DeviceId} {j : Nat}
    (queued : net.queue.toList = .frame ⟨id, .upper j⟩ frame :: rest)
    (here : net.switchAt? id = some switch) (present : (switch.port? (.upper j)).isSome)
    (other : frame.dst ≠ switch.address)
    (verdict : switch.judge (net.streams id) net.manager (.upper j) frame =
      (.ok ((switch.site (net.streams id)).floodLower frame), switch.forwardState net.manager))
    (stepped : net.step = some (result, after)) (added : after.queue.toList = rest ++ raised) :
    Deed.Floods frame ⟨net, .frame ⟨id, .upper j⟩ frame, result, after, raised⟩ := by
  obtain ⟨outcome, rfl, done, events, manager, hosts, switches⟩ :=
    sturdy.applies queued here stepped added
  obtain ⟨told, copied, flooded⟩ := flooded_receive present other verdict
  exact
    { succeeds := done
      manager := manager.trans told
      hosts := hosts
      others := fun key apart => (switches key).trans (if_neg (Ne.symm apart))
      switch := ⟨switch, _, here, (switches id).trans (if_pos rfl), flooded, events.trans copied⟩ }

/-- A switch that a message tells to flood a frame floods it. -/
theorem floods_of_message (sturdy : net.Sturdy) {id : DeviceId} {message : ControlMessage}
    (queued : net.queue.toList = .control id message :: rest)
    (here : net.switchAt? id = some switch)
    (verdict : Policy.onMessage switch.tier (switch.site (net.streams id)) message =
      .ok ((switch.site (net.streams id)).floodLower frame))
    (stepped : net.step = some (result, after)) (added : after.queue.toList = rest ++ raised) :
    Deed.Floods frame ⟨net, .control id message, result, after, raised⟩ := by
  obtain ⟨outcome, rfl, done, events, manager, hosts, switches⟩ :=
    sturdy.applies queued here stepped added
  obtain ⟨told, copied, flooded⟩ := @flooded_receiveMessage switch _ net.manager frame _ verdict
  exact
    { succeeds := done
      manager := manager.trans told
      hosts := hosts
      others := fun key apart => (switches key).trans (if_neg (Ne.symm apart))
      switch := ⟨switch, _, here, (switches id).trans (if_pos rfl), flooded, events.trans copied⟩ }

/-- **A miss of the directory** comes from an edge switch that has a frame from below. It leaves
nothing else to do than to ask for the destination, on behalf of the sender. -/
theorem Sturdy.missed (sturdy : net.Sturdy) (stepped : net.step = some (result, after))
    (missed : after.manager.counters.misses ≠ net.manager.counters.misses) :
    ∃ id i frame rest switch later src dst srcPmac,
      net.queue.toList = .frame ⟨id, .lower i⟩ frame :: rest ∧
      net.switchAt? id = some switch ∧ switch.tier = .edge ∧
      frame.headers.ips = some (src, dst) ∧ after.switchAt? id = some later ∧
      later.table.pmacOfIp? src = some srcPmac ∧
      after.manager.counters.misses = net.manager.counters.misses + 1 ∧
      after.queue.toList = rest ++
        (net.manager.floodRecipients id).map fun id => .control id (.arpFlood dst src srcPmac) := by
  obtain ⟨event, queue, trace, taken, reaches, delivered⟩ := sturdy.delivers stepped
  cases event with
  | control id message =>
    obtain ⟨outline, found⟩ := reaches
    obtain ⟨switch, here, rfl⟩ := Option.map_eq_some_iff.mp found
    have there : switchAt? { net with queue, trace, handled := net.handled + 1 } id =
        some switch := here
    have quiet := (switch.receiveMessage_handled (net.streams id) net.manager message).manager
    rw [deliver_control there] at delivered
    cases delivered
    exact absurd (congrArg (·.counters.misses) quiet) missed
  | frame target frame =>
    obtain ⟨id, port⟩ := target
    rcases reaches with ⟨outline, found⟩ | ⟨card, found, -⟩
    · obtain ⟨switch, here, rfl⟩ := Option.map_eq_some_iff.mp found
      have there : switchAt? { net with queue, trace, handled := net.handled + 1 } id =
          some switch := here
      have number : switch.id = id := sturdy.wired.number (ground_outline here)
      obtain ⟨verdict, state, billed, carried, -⟩ :=
        switch.receive_billed (net.streams id) (member_of_wired sturdy.wired here) port frame
      rw [deliver_to_switch there] at delivered
      cases delivered
      have told : state.manager.counters.misses ≠ net.manager.counters.misses := by
        rw [← carried.manager]
        exact missed
      cases billed with
      | aside same => exact absurd (by rw [same]; rfl) told
      | @served i _ src dst srcPmac counters _ _ edge ips enlisted _ bill =>
        have same : counters.misses = net.manager.counters.misses := by cases enlisted <;> rfl
        refine absurd ?_ told
        rcases bill with bill | bill <;> rw [bill] <;> exact same
      | @missed i _ src dst srcPmac counters _ edge ips enlisted _ asked bill =>
        have same : counters.misses = net.manager.counters.misses := by cases enlisted <;> rfl
        refine ⟨id, i, frame, queue.toList, switch, _, src, dst, srcPmac, taken, here, edge, ips,
          (switchAt?_setSwitch there _ id).trans (if_pos rfl), ?_, ?_, ?_⟩
        · rw [carried.table]
          exact enlisted.pmacOfIp?
        · show (Switch.receive ..).manager.counters.misses = _
          rw [carried.manager, bill, ← same]
          rfl
        · refine (EventQueue.toList_pushAll _ _).trans ?_
          show queue.toList ++ (Switch.receive ..).events = _
          rw [carried.events, asked, ← number]
          exact congrArg (queue.toList ++ ·) (List.append_nil _)
    · obtain ⟨host, here, rfl⟩ := Option.map_eq_some_iff.mp found
      have there : hostAt? { net with queue, trace, handled := net.handled + 1 } id =
          some host := here
      rw [deliver_to_host there] at delivered
      cases delivered
      exact absurd rfl missed

end Deeds

end Network

end PmacFabric
