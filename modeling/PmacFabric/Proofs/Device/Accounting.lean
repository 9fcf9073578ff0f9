import PmacFabric.Proofs.Device.Ports
import PmacFabric.Proofs.Forwarding.Extent

/-!
# A switch accounts for every frame

Every call of a switch is booked: `Switch.Booked` says what frames that arrive, frames that are put
on ports and drops add to the counters of a switch and of each of its ports. `Switch.Accounted`
lists what the arrival of a frame may lead to, and `Switch.Balanced` how the counters of a switch,
those of its ports, its results and its events go together after any calls.

**`switch_accounts`** says that every arrival is accounted for, in every state of a switch and
whatever the fabric manager knows, and that the books of a switch always balance.
-/

namespace PmacFabric

/-- The arrival of a frame, not a message. -/
def Event.isFrame : Event → Bool
  | .frame .. => true
  | .control .. => false

/-! ## Ports -/

namespace PortState

/-- What a port has counted after some frames have arrived at it and others were put on it. -/
structure Counts (state : PortState) (arrived offered : List Frame) (after : PortState) :
    Prop where
  peer : after.peer = state.peer
  rxPackets : after.counters.rxPackets = state.counters.rxPackets + arrived.length
  rxBytes : after.counters.rxBytes = state.counters.rxBytes + totalOf Frame.size arrived
  /-- Only frames that find a link are sent. -/
  txPackets : after.counters.txPackets =
    state.counters.txPackets + if state.peer.isSome then offered.length else 0
  txBytes : after.counters.txBytes =
    state.counters.txBytes + if state.peer.isSome then totalOf Frame.size offered else 0
  txDropped : after.counters.txDropped =
    state.counters.txDropped + if state.peer.isSome then 0 else offered.length

section Counts

variable {state mid after : PortState}

/-- Where nothing arrives and nothing is put on a port, it counts nothing. -/
theorem Counts.refl (state : PortState) : state.Counts [] [] state := by
  constructor <;> simp

/-- What a port counts in turn adds up. -/
theorem Counts.trans {arrived offered more others : List Frame}
    (first : state.Counts arrived offered mid) (second : mid.Counts more others after) :
    state.Counts (arrived ++ more) (offered ++ others) after where
  peer := second.peer.trans first.peer
  rxPackets := by rw [second.rxPackets, first.rxPackets, List.length_append, Nat.add_assoc]
  rxBytes := by rw [second.rxBytes, first.rxBytes, totalOf_append, Nat.add_assoc]
  txPackets := by
    rw [second.txPackets, first.txPackets, first.peer, List.length_append]
    split <;> omega
  txBytes := by
    rw [second.txBytes, first.txBytes, first.peer, totalOf_append]
    split <;> omega
  txDropped := by
    rw [second.txDropped, first.txDropped, first.peer, List.length_append]
    split <;> omega

/-- A port counts a frame that arrives. -/
theorem counts_arrive (state : PortState) (frame : Frame) :
    state.Counts [frame] [] (state.arrive frame) := by
  constructor <;> simp [arrive, PortCounters.receive]

/-- A port counts a frame that is put on it, as sent or as dropped. -/
theorem counts_offer (state : PortState) (frame : Frame) :
    state.Counts [] [frame] (state.offer frame) := by
  cases linked : state.peer.isSome <;>
    constructor <;> simp [offer, linked, PortCounters.transmit, PortCounters.drop]

/-- A port counts frames that are put on it one after another. -/
theorem counts_offers (frames : List Frame) (state : PortState) :
    state.Counts [] frames (state.offers frames) := by
  induction frames generalizing state with
  | nil => exact .refl state
  | cons frame rest ih => exact (state.counts_offer frame).trans (ih (state.offer frame))

end Counts

end PortState

namespace Switch

/-! ## Booking -/

/-- What becomes of a switch that some frames arrive at, that puts others on its ports, and that
drops some. -/
structure Booked (switch : Switch) (arrivals departures : List (Port × Frame))
    (reasons : List DropReason) (after : Switch) : Prop where
  outline : after.outline = switch.outline
  received : after.received = switch.received + arrivals.length
  /-- Only frames for ports with a link are transmitted. -/
  transmitted : after.transmitted =
    switch.transmitted + (departures.filterMap switch.sent?).length
  drops : ∀ reason, after.drops.count reason = switch.drops.count reason + reasons.count reason
  ports : ∀ port state, switch.port? port = some state → ∃ state', after.port? port = some state' ∧
    state.Counts (framesFor port arrivals) (framesFor port departures) state'

section Booking

variable {switch mid after : Switch}

/-- What is booked in turn adds up. -/
theorem Booked.trans {arrivals departures more others : List (Port × Frame)}
    {reasons further : List DropReason} (first : switch.Booked arrivals departures reasons mid)
    (second : mid.Booked more others further after) :
    switch.Booked (arrivals ++ more) (departures ++ others) (reasons ++ further) after where
  outline := second.outline.trans first.outline
  received := by rw [second.received, first.received, List.length_append, Nat.add_assoc]
  transmitted := by
    rw [second.transmitted, first.transmitted, sent?_congr first.outline, List.filterMap_append,
      List.length_append, Nat.add_assoc]
  drops reason := by rw [second.drops, first.drops, List.count_append, Nat.add_assoc]
  ports port state here := by
    obtain ⟨state', there, counts⟩ := first.ports port state here
    obtain ⟨state'', there', counts'⟩ := second.ports port state' there
    refine ⟨state'', there', ?_⟩
    rw [framesFor_append, framesFor_append]
    exact counts.trans counts'

/-- The arrival of a frame is booked at its port. -/
theorem booked_countReceived {port : Port} (here : (switch.port? port).isSome) (frame : Frame) :
    switch.Booked [(port, frame)] [] [] (switch.countReceived port frame) where
  outline := outline_countReceived switch port frame
  received := rfl
  transmitted := by cases port <;> rfl
  drops reason := by rw [drops_countReceived, List.count_nil, Nat.add_zero]
  ports key state found := by
    rw [port?_countReceived, framesFor_cons, found]
    split
    · exact ⟨_, rfl, state.counts_arrive frame⟩
    · exact ⟨_, rfl, .refl state⟩

/-- A frame that finds a link is counted as transmitted, any other is not. -/
theorem transmitted_output (switch : Switch) (port : Port) (frame : Frame) :
    (switch.output port frame).2.received = switch.received ∧
      (switch.output port frame).2.transmitted =
        switch.transmitted + (switch.sent? (port, frame)).toList.length := by
  unfold output sent? peer?
  cases switch.port? port with
  | none => exact ⟨rfl, rfl⟩
  | some state =>
    obtain ⟨peer, counters⟩ := state
    cases peer <;> cases port <;> exact ⟨rfl, rfl⟩

/-- Of many frames, those that find a link are counted as transmitted. -/
theorem transmitted_transmit (frames : List (Port × Frame)) (switch : Switch) :
    (switch.transmit frames).2.received = switch.received ∧
      (switch.transmit frames).2.transmitted =
        switch.transmitted + (frames.filterMap switch.sent?).length := by
  induction frames generalizing switch with
  | nil => exact ⟨rfl, rfl⟩
  | cons out rest ih =>
    obtain ⟨received, transmitted⟩ := transmitted_output switch out.1 out.2
    obtain ⟨received', transmitted'⟩ := ih (switch.output out.1 out.2).2
    refine ⟨received'.trans received, transmitted'.trans ?_⟩
    rw [transmitted, sent?_congr (output_keeps switch out.1 out.2).1, List.filterMap_cons]
    cases switch.sent? (out.1, out.2) with
    | none => rfl
    | some event =>
      show switch.transmitted + 1 + _ = switch.transmitted + (_ + 1)
      omega

/-- The frames of a verdict. -/
def verdictFrames : Verdict → List (Port × Frame)
  | .ok frames => frames
  | .error _ => []

/-- The drop that a verdict is, if it is one. -/
def verdictReasons : Verdict → List DropReason
  | .ok _ => []
  | .error reason => [reason]

/-- Following a verdict is booked: its frames at their ports, and its reason as a drop. -/
theorem booked_conclude (switch : Switch) (verdict : Verdict) (state : ForwardState) :
    switch.Booked [] (verdictFrames verdict) (verdictReasons verdict)
      (switch.conclude verdict state).switch where
  outline := outline_conclude switch verdict state
  received := by
    cases verdict with
    | error reason => rfl
    | ok frames => exact (transmitted_transmit frames _).1
  transmitted := by
    cases verdict with
    | error reason => rfl
    | ok frames => exact (transmitted_transmit frames _).2
  drops reason := by
    rw [drops_conclude]
    cases verdict with
    | error own => simp [DropCounts.after, verdictReasons, List.count_singleton]
    | ok frames => rfl
  ports port port' here := by
    rw [port?_conclude, here]
    refine ⟨_, rfl, ?_⟩
    cases verdict with
    | error reason => exact .refl port'
    | ok frames => exact port'.counts_offers (framesFor port frames)

end Booking

/-! ## One arrival -/

/-- What the arrival of a frame at a port may lead to. The four cases exclude each other. -/
inductive Accounted (switch : Switch) (stream : Choice.Stream) (manager : FabricManager)
    (port : Port) (frame : Frame) (outcome : Outcome) : Prop where
  /-- Without the port, only the drop is counted. -/
  | absent (absent : switch.port? port = none)
    (outcome_eq : outcome =
      { result := .error .invalidPort
        switch := { switch with drops := switch.drops.record .invalidPort }
        manager
        events := [] })
  /-- A frame for the switch itself is kept, and nothing else happens. -/
  | kept (here : (switch.port? port).isSome = true) (own : frame.dst = switch.address)
    (result : outcome.result = .ok 0) (events : outcome.events = [])
    (manager : outcome.manager = manager)
    (booked : switch.Booked [(port, frame)] [] [] outcome.switch)
    (inbox : outcome.switch.inbox = switch.inbox.push frame)
    (table : outcome.switch.table = switch.table) (drawn : outcome.switch.drawn = switch.drawn)
  /-- A drop is counted by its reason. Nothing is sent, but core switches may be told to flood. -/
  | dropped (reason : DropReason) (here : (switch.port? port).isSome = true)
    (other : frame.dst ≠ switch.address) (result : outcome.result = .error reason)
    (booked : switch.Booked [(port, frame)] [] [reason] outcome.switch)
    (inbox : outcome.switch.inbox = switch.inbox)
    (asking : ∀ event ∈ outcome.events, reason = .unresolved ∧ manager.AsksCore event)
  /-- The frames of the verdict are put on ports that exist. A linked port sends to its peer. -/
  | forwarded (frames : List (Port × Frame)) (here : (switch.port? port).isSome = true)
    (other : frame.dst ≠ switch.address)
    (verdict : (switch.judge stream manager port frame).1 = .ok frames)
    (ports : ∀ out ∈ frames, (switch.port? out.1).isSome = true)
    (result : outcome.result = .ok outcome.events.length)
    (events : outcome.events = frames.filterMap switch.sent?)
    (booked : switch.Booked [(port, frame)] frames [] outcome.switch)
    (inbox : outcome.switch.inbox = switch.inbox)

section Arrivals

variable {switch : Switch} {stream : Choice.Stream} {manager : FabricManager} {port : Port}
  {frame : Frame}

/-- A port that forwarding may use exists. -/
theorem isSome_port?_of_hasPort (has : (switch.site stream).hasPort port = true) :
    (switch.port? port).isSome = true := by
  cases port with
  | lower i => exact (switch.isSome_port?_lower i).mpr (of_decide_eq_true has)
  | upper j => exact (switch.isSome_port?_upper j).mpr (of_decide_eq_true has)

/-- A frame for the switch itself is kept. -/
theorem receive_own {state : PortState} (found : switch.port? port = some state)
    (own : frame.dst = switch.address) :
    switch.receive stream manager port frame =
      { result := .ok 0
        switch :=
          { switch.countReceived port frame with
            inbox := (switch.countReceived port frame).inbox.push frame }
        manager
        events := [] } := by
  have address : (switch.countReceived port frame).address = switch.address := by
    cases port <;> rfl
  simp only [receive, found, address, if_pos own]

/-- Books do not depend on what else becomes of a switch. -/
theorem Booked.of_keeps {arrivals departures : List (Port × Frame)} {reasons : List DropReason}
    {after last : Switch} (booked : switch.Booked arrivals departures reasons after)
    (outline : last.outline = after.outline) (received : last.received = after.received)
    (transmitted : last.transmitted = after.transmitted) (drops : last.drops = after.drops)
    (ports : ∀ key, last.port? key = after.port? key) :
    switch.Booked arrivals departures reasons last where
  outline := outline.trans booked.outline
  received := received.trans booked.received
  transmitted := transmitted.trans booked.transmitted
  drops reason := by rw [drops, booked.drops]
  ports key state here := by
    rw [ports]
    exact booked.ports key state here

/-- A verdict results in the number of its frames that find a link, or in its reason. -/
theorem result_conclude (switch : Switch) (verdict : Verdict) (state : ForwardState) :
    (switch.conclude verdict state).result =
      verdict.map fun frames => (frames.filterMap switch.sent?).length := by
  cases verdict with
  | error reason => rfl
  | ok frames =>
    have sent := transmit_events frames { switch with table := state.table, drawn := state.drawn }
    exact congrArg (fun events => Except.ok events.length) sent

/-- **Every arrival is accounted for.** -/
theorem receive_accounted (switch : Switch) (stream : Choice.Stream) (manager : FabricManager)
    (port : Port) (frame : Frame) :
    switch.Accounted stream manager port frame (switch.receive stream manager port frame) := by
  cases found : switch.port? port with
  | none =>
    refine .absent found ?_
    simp only [receive, found]
  | some state =>
    have here : (switch.port? port).isSome = true := by rw [found, Option.isSome_some]
    have arrived := booked_countReceived here frame
    by_cases own : frame.dst = switch.address
    · rw [receive_own found own]
      refine .kept here own rfl rfl rfl ?_ ?_ ?_ ?_
      · exact arrived.of_keeps rfl rfl rfl rfl fun key => by cases key <;> rfl
      · exact congrArg (·.push frame) (inbox_countReceived switch port frame)
      · exact table_modifyPort switch port _
      · cases port <;> rfl
    · have handled := @receive_handled switch stream manager port frame here own
      obtain ⟨ports, events, raised, asking⟩ := switch.judge_confined stream manager port frame
      have fresh : (switch.forwardState manager).raised = [] := rfl
      rw [fresh, List.nil_append] at raised
      have booked := arrived.trans (booked_conclude (switch.countReceived port frame)
        (switch.judge stream manager port frame).1 (switch.judge stream manager port frame).2)
      rw [← receive_eq_conclude here own] at booked
      have result : (switch.receive stream manager port frame).result =
          (switch.judge stream manager port frame).1.map fun frames =>
            (frames.filterMap switch.sent?).length := by
        rw [receive_eq_conclude here own, result_conclude,
          sent?_congr (outline_countReceived switch port frame)]
      have posted := handled.events
      rw [raised] at posted
      cases verdict : (switch.judge stream manager port frame).1 with
      | error reason =>
        rw [verdict] at booked result posted asking
        refine .dropped reason here own result booked handled.inbox ?_
        intro event mem
        rw [posted, verdictEvents, List.append_nil] at mem
        obtain ⟨unresolved, asks⟩ := asking event mem
        exact ⟨Except.error.inj unresolved, asks⟩
      | ok frames =>
        rw [verdict] at booked result posted asking
        have nothing : events = [] := by
          apply List.eq_nil_iff_forall_not_mem.mpr
          intro event mem
          cases (asking event mem).1
        rw [nothing, List.nil_append, verdictEvents] at posted
        refine .forwarded frames here own verdict ?_ ?_ posted booked handled.inbox
        · intro out mem
          exact isSome_port?_of_hasPort (ports frames verdict out mem)
        · rw [result, posted]
          rfl

end Arrivals

/-! ## Totals of all ports -/

/-- What a port has counted. -/
def shows (field : PortCounters.Field) (state : PortState) : Nat := state.counters.get field

/-- The sum of a counter over all ports. -/
def total (switch : Switch) (field : PortCounters.Field) : Nat :=
  totalOf (shows field) (switch.lower.toList ++ switch.upper.toList)

section Totals

variable {switch : Switch}

/-- What one port counts, the ports of a switch count in total. -/
theorem total_modifyPort {port : Port} (here : (switch.port? port).isSome)
    (f : PortState → PortState) (field : PortCounters.Field) {gain : Nat}
    (grows : ∀ state, shows field (f state) = shows field state + gain) :
    (switch.modifyPort port f).total field = switch.total field + gain := by
  cases port with
  | lower i =>
    have within : i < switch.lower.toList.length := (switch.isSome_port?_lower i).mp here
    simp only [total, modifyPort, Array.toList_modify, totalOf_append]
    rw [totalOf_modify grows within]
    omega
  | upper j =>
    have within : j < switch.upper.toList.length := (switch.isSome_port?_upper j).mp here
    simp only [total, modifyPort, Array.toList_modify, totalOf_append]
    rw [totalOf_modify grows within]
    omega

/-- A port that counts nothing leaves the total. -/
theorem total_modifyPort_of_keeps (switch : Switch) (port : Port) (f : PortState → PortState)
    (field : PortCounters.Field) (keeps : ∀ state, shows field (f state) = shows field state) :
    (switch.modifyPort port f).total field = switch.total field := by
  cases port <;>
    simp only [total, modifyPort, Array.toList_modify, totalOf_append,
      totalOf_modify_of_keeps keeps]

/-- A new switch has counted nothing. -/
theorem total_new (name : String) (id : DeviceId) (identity : SwitchIdentity)
    (numLower numUpper : Nat) (field : PortCounters.Field) :
    (Switch.new name id identity numLower numUpper).total field = 0 := by
  have none : ∀ n, totalOf (shows field) (List.replicate n ({} : PortState)) = 0 := by
    intro n
    induction n with
    | zero => rfl
    | succ n ih =>
      rw [List.replicate_succ, totalOf_cons, ih]
      cases field <;> rfl
  simp only [total, new, Array.toList_replicate, totalOf_append, none]

/-- The counters of a switch are the totals of its ports. -/
structure Even (switch : Switch) : Prop where
  received : switch.received = switch.total .rxPackets
  transmitted : switch.transmitted = switch.total .txPackets

/-- An arrival keeps a switch even: the switch and the port both count it. -/
theorem Even.countReceived (even : switch.Even) {port : Port} (here : (switch.port? port).isSome)
    (frame : Frame) : (switch.countReceived port frame).Even := by
  let f : PortState → PortState := fun state =>
    { state with counters := state.counters.receive frame.size }
  have gained : (switch.modifyPort port f).total .rxPackets = switch.total .rxPackets + 1 :=
    total_modifyPort here f .rxPackets fun _ => rfl
  have kept : (switch.modifyPort port f).total .txPackets = switch.total .txPackets :=
    total_modifyPort_of_keeps switch port f .txPackets fun _ => rfl
  constructor
  · rw [← even.received] at gained
    exact gained.symm
  · rw [← even.transmitted] at kept
    refine Eq.trans ?_ kept.symm
    cases port <;> rfl

/-- A change that keeps what is counted. -/
theorem Even.of_keeps {after : Switch} (even : switch.Even)
    (received : after.received = switch.received)
    (transmitted : after.transmitted = switch.transmitted)
    (totals : ∀ field, after.total field = switch.total field) : after.Even :=
  ⟨by rw [received, totals, even.received], by rw [transmitted, totals, even.transmitted]⟩

/-- A frame that is put on a port, with or without a link, keeps what is counted. -/
theorem Even.output (even : switch.Even) (port : Port) (frame : Frame) :
    (switch.output port frame).2.Even := by
  unfold Switch.output
  split
  · exact even
  · next state found =>
    have here : (switch.port? port).isSome = true := by rw [found, Option.isSome_some]
    split
    · let f : PortState → PortState := fun state => { state with counters := state.counters.drop }
      have kept : ∀ field, field = .rxPackets ∨ field = .txPackets →
          (switch.modifyPort port f).total field = switch.total field := by
        rintro field (rfl | rfl) <;> exact total_modifyPort_of_keeps switch port f _ fun _ => rfl
      constructor
      · rw [kept .rxPackets (.inl rfl), ← even.received]
        cases port <;> rfl
      · rw [kept .txPackets (.inr rfl), ← even.transmitted]
        cases port <;> rfl
    · let f : PortState → PortState := fun state =>
        { state with counters := state.counters.transmit frame.size }
      have kept : (switch.modifyPort port f).total .rxPackets = switch.total .rxPackets :=
        total_modifyPort_of_keeps switch port f .rxPackets fun _ => rfl
      have gained : (switch.modifyPort port f).total .txPackets = switch.total .txPackets + 1 :=
        total_modifyPort here f .txPackets fun _ => rfl
      constructor
      · rw [← even.received] at kept
        refine Eq.trans ?_ kept.symm
        cases port <;> rfl
      · rw [← even.transmitted] at gained
        exact gained.symm

/-- Frames that are put on ports one after another keep what is counted. -/
theorem Even.transmit (even : switch.Even) (frames : List (Port × Frame)) :
    (switch.transmit frames).2.Even := by
  induction frames generalizing switch with
  | nil => exact even
  | cons out rest ih => exact ih (even.output out.1 out.2)

/-- Following a verdict keeps what is counted. -/
theorem Even.conclude (even : switch.Even) (verdict : Verdict) (state : ForwardState) :
    (switch.conclude verdict state).switch.Even := by
  have ready : { switch with table := state.table, drawn := state.drawn }.Even :=
    even.of_keeps rfl rfl fun _ => rfl
  cases verdict with
  | error reason => exact ready.of_keeps rfl rfl fun _ => rfl
  | ok frames => exact ready.transmit frames

/-- **The arrival of a frame keeps a switch even.** -/
theorem Even.receive (even : switch.Even) (stream : Choice.Stream) (manager : FabricManager)
    (port : Port) (frame : Frame) : (switch.receive stream manager port frame).switch.Even := by
  unfold Switch.receive
  split
  · exact even.of_keeps rfl rfl fun _ => rfl
  · next state found =>
    have here : (switch.port? port).isSome = true := by rw [found, Option.isSome_some]
    have counted := even.countReceived here frame
    dsimp only
    split
    · exact counted.of_keeps rfl rfl fun _ => rfl
    · exact counted.conclude _ _

/-- A new link changes no counter. -/
theorem Even.setPeer (even : switch.Even) (port : Port) (peer : Endpoint) :
    (switch.setPeer port peer).Even := by
  refine even.of_keeps ?_ ?_ fun field => total_modifyPort_of_keeps _ _ _ _ fun _ => rfl
  · cases port <;> rfl
  · cases port <;> rfl

end Totals

/-! ## Runs -/

/-- What may be done to a switch. Every call brings the numbers that the switch draws and the fabric
manager as it is then; callers may also change the table. -/
inductive Call where
  | connect (port : Port) (peer : Endpoint)
  | setTable (table : PmacTable)
  | receive (stream : Choice.Stream) (manager : FabricManager) (port : Port) (frame : Frame)
  | receiveMessage (stream : Choice.Stream) (manager : FabricManager) (message : ControlMessage)

/-- A switch with all that its calls have led to so far. -/
structure History where
  switch : Switch
  /-- The frames that arrived at ports that exist. -/
  arrived : List Frame := []
  results : List (Except DropReason Nat) := []
  enqueued : List Event := []

namespace History

/-- What an arrival or a message adds to a history. -/
def handle (history : History) (arrived : List Frame) (outcome : Outcome) : History :=
  { switch := outcome.switch
    arrived := history.arrived ++ arrived
    results := history.results ++ [outcome.result]
    enqueued := history.enqueued ++ outcome.events }

def perform (history : History) : Call → History
  | .connect port peer =>
    match history.switch.connect port peer with
    | .error _ => history
    | .ok switch => { history with switch }
  | .setTable table => { history with switch := { history.switch with table } }
  | .receive stream manager port frame =>
    history.handle (if (history.switch.port? port).isSome then [frame] else [])
      (history.switch.receive stream manager port frame)
  | .receiveMessage stream manager message =>
    history.handle [] (history.switch.receiveMessage stream manager message)

def performAll (history : History) (calls : List Call) : History :=
  calls.foldl perform history

end History

/-- How many frames a result reports. -/
def sentOf : Except DropReason Nat → Nat
  | .ok n => n
  | .error _ => 0

/-- The drop that a result reports, if it is one. -/
def reasonOf? : Except DropReason Nat → Option DropReason
  | .ok _ => none
  | .error reason => some reason

/-- The books of a switch balance. -/
structure Balanced (history : History) : Prop where
  even : history.switch.Even
  arrived : history.switch.received = history.arrived.length
  /-- Each transmitted frame is one event. -/
  events : history.switch.transmitted = history.enqueued.countP Event.isFrame
  results : history.switch.transmitted = totalOf sentOf history.results
  drops : ∀ reason, history.switch.drops.count reason =
    (history.results.filterMap reasonOf?).count reason
  dropped : history.switch.drops.total = (history.results.filterMap reasonOf?).length

/-- What one call adds to the books, on both sides. -/
structure Squared (switch : Switch) (arrived : List Frame) (outcome : Outcome) : Prop where
  received : outcome.switch.received = switch.received + arrived.length
  transmitted : outcome.switch.transmitted =
    switch.transmitted + outcome.events.countP Event.isFrame
  result : outcome.events.countP Event.isFrame = sentOf outcome.result
  drops : ∀ reason, outcome.switch.drops.count reason =
    switch.drops.count reason + (reasonOf? outcome.result).toList.count reason

section Runs

variable {switch : Switch} {history : History}

/-- Events of frames that are put on ports are all frames. -/
theorem countP_isFrame_sent (switch : Switch) (frames : List (Port × Frame)) :
    (frames.filterMap switch.sent?).countP Event.isFrame =
      (frames.filterMap switch.sent?).length := by
  apply List.countP_eq_length.mpr
  intro event mem
  obtain ⟨out, -, sent⟩ := List.mem_filterMap.mp mem
  obtain ⟨peer, -, rfl⟩ := Option.map_eq_some_iff.mp sent
  rfl

/-- Messages that ask core switches are no frames. -/
theorem countP_isFrame_asking {manager : FabricManager} {events : List Event}
    (asking : ∀ event ∈ events, manager.AsksCore event) : events.countP Event.isFrame = 0 := by
  apply List.countP_eq_zero.mpr
  intro event mem
  obtain ⟨id, identity, dst, src, srcPmac, rfl, -, -⟩ := asking event mem
  exact Bool.false_ne_true

/-- An arrival that is accounted for balances. -/
theorem Accounted.squared {stream : Choice.Stream} {manager : FabricManager} {port : Port}
    {frame : Frame} {outcome : Outcome}
    (accounted : switch.Accounted stream manager port frame outcome) :
    switch.Squared (if (switch.port? port).isSome then [frame] else []) outcome := by
  cases accounted with
  | absent absent outcome_eq =>
    rw [absent, outcome_eq]
    refine ⟨rfl, rfl, rfl, fun reason => ?_⟩
    simp [reasonOf?, List.count_singleton]
  | kept here own result events _ booked =>
    rw [if_pos here]
    refine ⟨booked.received, ?_, ?_, ?_⟩
    · rw [booked.transmitted, events]
      rfl
    · rw [events, result]
      rfl
    · rw [result]
      exact booked.drops
  | dropped reason here other result booked _ asking =>
    have silent := countP_isFrame_asking fun event mem => (asking event mem).2
    rw [if_pos here]
    refine ⟨booked.received, ?_, ?_, ?_⟩
    · rw [booked.transmitted, silent]
      rfl
    · rw [silent, result]
      rfl
    · rw [result]
      exact booked.drops
  | forwarded frames here other verdict ports result events booked =>
    have sent := countP_isFrame_sent switch frames
    rw [if_pos here]
    refine ⟨booked.received, ?_, ?_, ?_⟩
    · rw [booked.transmitted, events, sent]
    · rw [result, events, sent]
      rfl
    · rw [result]
      exact booked.drops

/-- A message balances, and no frame arrives with it. -/
theorem receiveMessage_squared (switch : Switch) (stream : Choice.Stream)
    (manager : FabricManager) (message : ControlMessage) :
    switch.Squared [] (switch.receiveMessage stream manager message) := by
  have handled := receiveMessage_handled switch stream manager message
  have booked := booked_conclude switch
    (Policy.onMessage switch.tier (switch.site stream) message) (switch.forwardState manager)
  have result := result_conclude switch
    (Policy.onMessage switch.tier (switch.site stream) message) (switch.forwardState manager)
  change switch.Booked _ _ _ (switch.receiveMessage stream manager message).switch at booked
  change (switch.receiveMessage stream manager message).result = _ at result
  have events := handled.events
  cases verdict : Policy.onMessage switch.tier (switch.site stream) message with
  | error reason =>
    rw [verdict] at booked result events
    refine ⟨booked.received, ?_, ?_, ?_⟩
    · rw [booked.transmitted, events]
      rfl
    · rw [events, result]
      rfl
    · rw [result]
      exact booked.drops
  | ok frames =>
    rw [verdict] at booked result events
    have sent := countP_isFrame_sent switch frames
    refine ⟨booked.received, ?_, ?_, ?_⟩
    · rw [booked.transmitted, events, verdictEvents, sent]
      rfl
    · rw [events, result, verdictEvents, sent]
      rfl
    · rw [result]
      exact booked.drops

/-- Each reason is counted once among all. -/
theorem totalOf_count (reasons : List DropReason) :
    totalOf (fun reason => reasons.count reason) DropReason.all = reasons.length := by
  induction reasons with
  | nil => rfl
  | cons reason rest ih =>
    rw [List.length_cons, ← ih]
    cases reason <;> simp [DropReason.all, List.count_cons] <;> omega

/-- A call that balances keeps the books balanced. -/
theorem Balanced.handle (balanced : Balanced history) {arrived : List Frame} {outcome : Outcome}
    (squared : history.switch.Squared arrived outcome) (even : outcome.switch.Even) :
    Balanced (history.handle arrived outcome) := by
  have drops : ∀ reason, outcome.switch.drops.count reason =
      ((history.results ++ [outcome.result]).filterMap reasonOf?).count reason := by
    intro reason
    rw [squared.drops, balanced.drops, List.filterMap_append, List.count_append]
    cases outcome.result <;> rfl
  exact
    { even := even
      arrived := by
        simp only [History.handle, List.length_append]
        rw [squared.received, balanced.arrived]
      events := by
        simp only [History.handle, List.countP_append]
        rw [squared.transmitted, balanced.events]
      results := by
        simp only [History.handle, totalOf_append, totalOf_cons, totalOf_nil, Nat.add_zero]
        rw [squared.transmitted, balanced.results, squared.result]
      drops := drops
      dropped := by
        rw [← totalOf_count]
        exact totalOf_congr fun reason _ => drops reason }

/-- What changes no counter keeps the books balanced. -/
theorem Balanced.of_keeps (balanced : Balanced history) {after : Switch} (even : after.Even)
    (received : after.received = history.switch.received)
    (transmitted : after.transmitted = history.switch.transmitted)
    (drops : after.drops = history.switch.drops) : Balanced { history with switch := after } where
  even := even
  arrived := received.trans balanced.arrived
  events := transmitted.trans balanced.events
  results := transmitted.trans balanced.results
  drops reason := by
    rw [drops]
    exact balanced.drops reason
  dropped := by
    rw [drops]
    exact balanced.dropped

/-- **Every call keeps the books balanced.** -/
theorem Balanced.perform (balanced : Balanced history) (call : Call) :
    Balanced (history.perform call) := by
  cases call with
  | connect port peer =>
    simp only [History.perform, connect]
    cases history.switch.checkFree port with
    | error e => exact balanced
    | ok =>
      refine balanced.of_keeps (balanced.even.setPeer port peer) ?_ ?_ ?_ <;> cases port <;> rfl
  | setTable table =>
    exact balanced.of_keeps (balanced.even.of_keeps rfl rfl fun _ => rfl) rfl rfl rfl
  | receive stream manager port frame =>
    have accounted := history.switch.receive_accounted stream manager port frame
    exact balanced.handle accounted.squared (balanced.even.receive stream manager port frame)
  | receiveMessage stream manager message =>
    exact balanced.handle (history.switch.receiveMessage_squared stream manager message)
      (balanced.even.conclude _ _)

/-- **Any sequence of calls keeps the books balanced.** -/
theorem Balanced.performAll (balanced : Balanced history) (calls : List Call) :
    Balanced (history.performAll calls) := by
  induction calls generalizing history with
  | nil => exact balanced
  | cons call rest ih => exact ih (balanced.perform call)

/-- The books of a new switch are empty. -/
theorem balanced_new (name : String) (id : DeviceId) (identity : SwitchIdentity)
    (numLower numUpper : Nat) :
    Balanced { switch := Switch.new name id identity numLower numUpper } where
  even := by
    constructor
    · rw [total_new]
      rfl
    · rw [total_new]
      rfl
  arrived := rfl
  events := rfl
  results := rfl
  drops reason := by cases reason <;> rfl
  dropped := rfl

end Runs

/-- **A switch accounts for every frame, and its books balance.** Whatever the state of a switch and
whatever the fabric manager knows, the arrival of a frame is counted at its port and leads to one of
four things. After any calls of a new switch it has received what its ports have, it has transmitted
what its ports have, in as many events and as its results say, and it has dropped what its results
say. -/
theorem switch_accounts :
    (∀ (switch : Switch) (stream : Choice.Stream) (manager : FabricManager) (port : Port)
        (frame : Frame),
      switch.Accounted stream manager port frame (switch.receive stream manager port frame)) ∧
      ∀ (name : String) (id : DeviceId) (identity : SwitchIdentity) (numLower numUpper : Nat)
        (calls : List Call),
        Balanced
          (History.performAll { switch := .new name id identity numLower numUpper } calls) :=
  ⟨receive_accounted, fun name id identity numLower numUpper calls =>
    (balanced_new name id identity numLower numUpper).performAll calls⟩

end Switch

end PmacFabric
