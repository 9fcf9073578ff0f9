import PmacFabric.Device.Switch

/-!
# What a switch keeps, and what it sends

Handling frames and messages changes counters, the table and the inbox of a switch, and nothing
else. The rest is its **outline**: name, number, identity, and the link ends that its ports lead
to. `outline_receive` and `outline_receiveMessage` say that the outline stays; with it the peers of
all ports stay, so the wiring of a network never has to be looked at again after it was built.

The second half says what a switch sends. The events of a verdict are its frames, each at the peer
of its port, and frames for ports without a link vanish (`transmit_events`). `receive_handled` and
`receiveMessage_handled`, with the cases of them that follow, are the only statements about the
handling of a frame or a message that the laws about networks use.
-/

namespace PmacFabric

namespace Switch

/-- The part of a switch that no frame and no message changes. -/
structure Outline where
  name : String
  id : DeviceId
  identity : SwitchIdentity
  /-- The link ends that the lower ports lead to. -/
  lower : List (Option Endpoint)
  /-- The link ends that the upper ports lead to. -/
  upper : List (Option Endpoint)
deriving DecidableEq

def outline (switch : Switch) : Outline :=
  { name := switch.name
    id := switch.id
    identity := switch.identity
    lower := switch.lower.toList.map PortState.peer
    upper := switch.upper.toList.map PortState.peer }

/-- The link end that a port leads to. -/
def peer? (switch : Switch) (port : Port) : Option Endpoint :=
  (switch.port? port).bind PortState.peer

/-- The link end that a port of an outline leads to. -/
def Outline.peer? (outline : Outline) : Port → Option Endpoint
  | .lower i => outline.lower[i]?.join
  | .upper i => outline.upper[i]?.join

/-- The outline of a switch tells where its ports lead. -/
theorem outline_peer? (switch : Switch) (port : Port) :
    switch.outline.peer? port = switch.peer? port := by
  cases port with
  | lower i =>
    simp only [Outline.peer?, outline, peer?, port?, List.getElem?_map, Array.getElem?_toList]
    cases switch.lower[i]? <;> rfl
  | upper i =>
    simp only [Outline.peer?, outline, peer?, port?, List.getElem?_map, Array.getElem?_toList]
    cases switch.upper[i]? <;> rfl

/-- The ports of a new switch are free. -/
theorem peer?_new (name : String) (id : DeviceId) (identity : SwitchIdentity)
    (numLower numUpper : Nat) (port : Port) :
    (Switch.new name id identity numLower numUpper).peer? port = none := by
  cases port <;>
    (simp only [Switch.new, peer?, port?, Array.getElem?_replicate]
     split <;> rfl)

/-- The outline of a switch tells how many lower ports it has. -/
theorem outline_numLower (switch : Switch) : switch.outline.lower.length = switch.numLower := by
  simp only [outline, numLower, List.length_map, Array.length_toList]

/-- The outline of a switch tells how many upper ports it has. -/
theorem outline_numUpper (switch : Switch) : switch.outline.upper.length = switch.numUpper := by
  simp only [outline, numUpper, List.length_map, Array.length_toList]

/-- Switches with one outline have their ports connected alike. -/
theorem peer?_congr {s t : Switch} (h : s.outline = t.outline) (port : Port) :
    s.peer? port = t.peer? port := by
  rw [← outline_peer?, ← outline_peer?, h]

/-- A port exists exactly if its number is below the number of ports of its group. -/
theorem isSome_port?_lower (switch : Switch) (i : Nat) :
    (switch.port? (.lower i)).isSome ↔ i < switch.numLower := by
  simp only [port?, numLower, Option.isSome_iff_ne_none, ne_eq, Array.getElem?_eq_none_iff,
    Nat.not_le]

/-- Upper ports are numbered without gaps as well. -/
theorem isSome_port?_upper (switch : Switch) (i : Nat) :
    (switch.port? (.upper i)).isSome ↔ i < switch.numUpper := by
  simp only [port?, numUpper, Option.isSome_iff_ne_none, ne_eq, Array.getElem?_eq_none_iff,
    Nat.not_le]

/-- Switches with one outline have the same ports. -/
theorem isSome_port?_congr {s t : Switch} (h : s.outline = t.outline) (port : Port) :
    (s.port? port).isSome = (t.port? port).isSome := by
  apply Bool.eq_iff_iff.mpr
  cases port with
  | lower i => rw [isSome_port?_lower, isSome_port?_lower, ← outline_numLower, h, outline_numLower]
  | upper i => rw [isSome_port?_upper, isSome_port?_upper, ← outline_numUpper, h, outline_numUpper]

/-! ## Changes of ports -/

/-- Peers of a group of ports do not see a change that keeps the peer of one of them. -/
theorem peers_modify (ports : Array PortState) (i : Nat) {f : PortState → PortState}
    (keeps : ∀ state, (f state).peer = state.peer) :
    (ports.modify i f).toList.map PortState.peer = ports.toList.map PortState.peer := by
  apply List.ext_getElem?
  intro j
  simp only [List.getElem?_map, Array.getElem?_toList, Array.getElem?_modify]
  split
  · cases ports[j]? with
    | none => rfl
    | some state => simp only [Option.map_some, keeps]
  · rfl

/-- A port that keeps its link leaves the outline. -/
theorem outline_modifyPort (switch : Switch) (port : Port) {f : PortState → PortState}
    (keeps : ∀ state, (f state).peer = state.peer) :
    (switch.modifyPort port f).outline = switch.outline := by
  cases port <;> simp only [modifyPort, outline, peers_modify _ _ keeps]

/-- Ports and the table are apart. -/
theorem table_modifyPort (switch : Switch) (port : Port) (f : PortState → PortState) :
    (switch.modifyPort port f).table = switch.table := by
  cases port <;> rfl

/-- Ports and the inbox are apart. -/
theorem inbox_modifyPort (switch : Switch) (port : Port) (f : PortState → PortState) :
    (switch.modifyPort port f).inbox = switch.inbox := by
  cases port <;> rfl

/-- Counting an arrival leaves the outline. -/
theorem outline_countReceived (switch : Switch) (port : Port) (frame : Frame) :
    (switch.countReceived port frame).outline = switch.outline :=
  outline_modifyPort switch port fun _ => rfl

/-- Counting an arrival leaves the inbox. -/
theorem inbox_countReceived (switch : Switch) (port : Port) (frame : Frame) :
    (switch.countReceived port frame).inbox = switch.inbox :=
  inbox_modifyPort switch port _

/-! ## What is sent -/

/-- The event of a frame on a port: its arrival at the peer of the port, if there is one. -/
def sent? (switch : Switch) (out : Port × Frame) : Option Event :=
  (switch.peer? out.1).map fun peer => .frame peer out.2

/-- What becomes of a frame on a port depends on the outline only. -/
theorem sent?_congr {s t : Switch} (h : s.outline = t.outline) : s.sent? = t.sent? := by
  funext out
  simp only [sent?, peer?_congr h]

/-- A frame on a port raises the event that its link makes of it. -/
theorem output_event (switch : Switch) (port : Port) (frame : Frame) :
    (switch.output port frame).1 = switch.sent? (port, frame) := by
  simp only [output, sent?, peer?]
  cases switch.port? port with
  | none => rfl
  | some state =>
    obtain ⟨peer, counters⟩ := state
    cases peer <;> rfl

/-- Putting a frame on a port changes counters only. -/
theorem output_keeps (switch : Switch) (port : Port) (frame : Frame) :
    (switch.output port frame).2.outline = switch.outline ∧
      (switch.output port frame).2.table = switch.table ∧
      (switch.output port frame).2.inbox = switch.inbox := by
  unfold output
  split
  · exact ⟨rfl, rfl, rfl⟩
  · split
    · exact ⟨outline_modifyPort _ _ fun _ => rfl, table_modifyPort _ _ _, inbox_modifyPort _ _ _⟩
    · exact ⟨outline_modifyPort _ _ fun _ => rfl, table_modifyPort _ _ _, inbox_modifyPort _ _ _⟩

/-- Sending frames leaves the outline, the table and the inbox. -/
theorem transmit_keeps (frames : List (Port × Frame)) (switch : Switch) :
    (switch.transmit frames).2.outline = switch.outline ∧
      (switch.transmit frames).2.table = switch.table ∧
      (switch.transmit frames).2.inbox = switch.inbox := by
  induction frames generalizing switch with
  | nil => exact ⟨rfl, rfl, rfl⟩
  | cons out rest ih =>
    obtain ⟨port, frame⟩ := out
    obtain ⟨outline, table, inbox⟩ := output_keeps switch port frame
    obtain ⟨outline', table', inbox'⟩ := ih (switch.output port frame).2
    exact ⟨outline'.trans outline, table'.trans table, inbox'.trans inbox⟩

/-- The events of a verdict are its frames at the peers of their ports, in order. -/
theorem transmit_events (frames : List (Port × Frame)) (switch : Switch) :
    (switch.transmit frames).1 = frames.filterMap switch.sent? := by
  induction frames generalizing switch with
  | nil => rfl
  | cons out rest ih =>
    obtain ⟨port, frame⟩ := out
    have same := sent?_congr (output_keeps switch port frame).1
    show (switch.output port frame).1.toList ++ ((switch.output port frame).2.transmit rest).1 = _
    rw [ih, output_event, same, List.filterMap_cons]
    cases switch.sent? (port, frame) <;> rfl

/-! ## Handling a frame or a message -/

/-- A decision does not see the counters. -/
theorem judge_countReceived (switch : Switch) (stream : Choice.Stream) (manager : FabricManager)
    (port : Port) (frame : Frame) (arrival : Port) (arrived : Frame) :
    (switch.countReceived arrival arrived).judge stream manager port frame =
      switch.judge stream manager port frame := by
  have lower : (switch.countReceived arrival arrived).numLower = switch.numLower := by
    rw [← outline_numLower, ← outline_numLower, outline_countReceived]
  have upper : (switch.countReceived arrival arrived).numUpper = switch.numUpper := by
    rw [← outline_numUpper, ← outline_numUpper, outline_countReceived]
  have site : (switch.countReceived arrival arrived).site stream = switch.site stream := by
    simp only [Switch.site, lower, upper]
    cases arrival <;> rfl
  have state : (switch.countReceived arrival arrived).forwardState manager =
      switch.forwardState manager := by
    cases arrival <;> rfl
  have tier : (switch.countReceived arrival arrived).tier = switch.tier := by
    cases arrival <;> rfl
  cases port <;> simp only [judge, site, state, tier]

/-- What `receive` and `receiveMessage` may do to a switch, and which events they raise. -/
structure Handled (switch : Switch) (table : PmacTable) (manager : FabricManager)
    (events : List Event) (outcome : Outcome) : Prop where
  outline : outcome.switch.outline = switch.outline
  table : outcome.switch.table = table
  inbox : outcome.switch.inbox = switch.inbox
  manager : outcome.manager = manager
  events : outcome.events = events

/-- The events of a verdict: its frames, at the peers of their ports. -/
def verdictEvents (switch : Switch) : Verdict → List Event
  | .ok frames => frames.filterMap switch.sent?
  | .error _ => []

/-- What a verdict raises depends on the outline only. -/
theorem verdictEvents_congr {s t : Switch} (h : s.outline = t.outline) (verdict : Verdict) :
    s.verdictEvents verdict = t.verdictEvents verdict := by
  cases verdict with
  | ok frames => rw [verdictEvents, sent?_congr h, verdictEvents]
  | error reason => rfl

/-- Carrying out a verdict raises its events behind those of the manager. -/
theorem conclude_handled (switch : Switch) (verdict : Verdict) (state : ForwardState) :
    switch.Handled state.table state.manager (state.raised ++ switch.verdictEvents verdict)
      (switch.conclude verdict state) := by
  cases verdict with
  | ok frames =>
    obtain ⟨outline, table, inbox⟩ :=
      transmit_keeps frames { switch with table := state.table, drawn := state.drawn }
    exact
      { outline
        table
        inbox
        manager := rfl
        events := congrArg (state.raised ++ ·) (transmit_events frames _) }
  | error reason => exact ⟨rfl, rfl, rfl, rfl, (List.append_nil _).symm⟩

/-- A frame at an existing port that is not for the switch itself is handled by the verdict. -/
theorem receive_eq_conclude {switch : Switch} {stream : Choice.Stream} {manager : FabricManager}
    {port : Port} {frame : Frame} (here : (switch.port? port).isSome)
    (other : frame.dst ≠ switch.address) :
    switch.receive stream manager port frame =
      (switch.countReceived port frame).conclude (switch.judge stream manager port frame).1
        (switch.judge stream manager port frame).2 := by
  obtain ⟨state, found⟩ := Option.isSome_iff_exists.mp here
  have address : (switch.countReceived port frame).address = switch.address := by
    cases port <;> rfl
  simp only [receive, found, address, if_neg other, judge_countReceived]

/-- **A frame is handled as the policy decides.** -/
theorem receive_handled {switch : Switch} {stream : Choice.Stream} {manager : FabricManager}
    {port : Port} {frame : Frame} (here : (switch.port? port).isSome)
    (other : frame.dst ≠ switch.address) :
    switch.Handled (switch.judge stream manager port frame).2.table
      (switch.judge stream manager port frame).2.manager
      ((switch.judge stream manager port frame).2.raised ++
        switch.verdictEvents (switch.judge stream manager port frame).1)
      (switch.receive stream manager port frame) := by
  rw [receive_eq_conclude here other]
  have done := conclude_handled (switch.countReceived port frame)
    (switch.judge stream manager port frame).1 (switch.judge stream manager port frame).2
  have outline := outline_countReceived switch port frame
  exact
    { outline := done.outline.trans outline
      table := done.table
      inbox := done.inbox.trans (inbox_countReceived switch port frame)
      manager := done.manager
      events := by rw [done.events, verdictEvents_congr outline] }

/-- A frame that is forwarded: its copies go to the peers of their ports, behind the events that
the manager raised. -/
theorem receive_of_ok {switch : Switch} {stream : Choice.Stream} {manager : FabricManager}
    {port : Port} {frame : Frame} {frames : List (Port × Frame)} {state : ForwardState}
    (here : (switch.port? port).isSome) (other : frame.dst ≠ switch.address)
    (verdict : switch.judge stream manager port frame = (.ok frames, state)) :
    switch.Handled state.table state.manager (state.raised ++ frames.filterMap switch.sent?)
      (switch.receive stream manager port frame) := by
  have handled := @receive_handled switch stream manager port frame here other
  rwa [verdict] at handled

/-- A frame that is dropped: only the events that the manager raised remain. -/
theorem receive_of_error {switch : Switch} {stream : Choice.Stream} {manager : FabricManager}
    {port : Port} {frame : Frame} {reason : DropReason} {state : ForwardState}
    (here : (switch.port? port).isSome) (other : frame.dst ≠ switch.address)
    (verdict : switch.judge stream manager port frame = (.error reason, state)) :
    switch.Handled state.table state.manager state.raised
      (switch.receive stream manager port frame) := by
  have handled := @receive_handled switch stream manager port frame here other
  rw [verdict] at handled
  have silent : state.raised ++ switch.verdictEvents (.error reason) = state.raised :=
    List.append_nil _
  rwa [silent] at handled

/-- A message is handled as the policy decides. -/
theorem receiveMessage_handled (switch : Switch) (stream : Choice.Stream)
    (manager : FabricManager) (message : ControlMessage) :
    switch.Handled switch.table manager
      (switch.verdictEvents (Policy.onMessage switch.tier (switch.site stream) message))
      (switch.receiveMessage stream manager message) :=
  conclude_handled switch _ (switch.forwardState manager)

/-- A message that leads to frames. -/
theorem receiveMessage_of_ok {switch : Switch} {stream : Choice.Stream} {manager : FabricManager}
    {message : ControlMessage} {frames : List (Port × Frame)}
    (verdict : Policy.onMessage switch.tier (switch.site stream) message = .ok frames) :
    switch.Handled switch.table manager (frames.filterMap switch.sent?)
      (switch.receiveMessage stream manager message) := by
  have handled := receiveMessage_handled switch stream manager message
  rwa [verdict] at handled

/-! ## The outline stays -/

/-- Following a verdict leaves the outline. -/
theorem outline_conclude (switch : Switch) (verdict : Verdict) (state : ForwardState) :
    (switch.conclude verdict state).switch.outline = switch.outline :=
  (conclude_handled switch verdict state).outline

/-- **Frames never change the outline of a switch.** -/
theorem outline_receive (switch : Switch) (stream : Choice.Stream) (manager : FabricManager)
    (port : Port) (frame : Frame) :
    (switch.receive stream manager port frame).switch.outline = switch.outline := by
  unfold receive
  split
  · rfl
  · dsimp only
    split
    · exact outline_countReceived switch port frame
    · exact (outline_conclude _ _ _).trans (outline_countReceived switch port frame)

/-- **Messages never change the outline of a switch.** -/
theorem outline_receiveMessage (switch : Switch) (stream : Choice.Stream)
    (manager : FabricManager) (message : ControlMessage) :
    (switch.receiveMessage stream manager message).switch.outline = switch.outline :=
  outline_conclude switch _ _

end Switch

end PmacFabric
