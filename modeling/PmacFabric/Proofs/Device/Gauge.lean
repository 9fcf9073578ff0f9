import PmacFabric.Proofs.Device.Outline
import PmacFabric.Proofs.Total

/-!
# What a switch counts

A `Gauge` is one thing that a switch counts. Lower ports are counted one by one and upper ports
together, because which upper port a frame takes is open. `reading_receive` and
`reading_receiveMessage` say by how much every gauge grows when a frame or a message is handled: by
an amount that follows from the arrival and the verdict alone, and not from what was counted before.
-/

namespace PmacFabric

/-! ## Gauges -/

/-- The number of a lower port; none for any upper port. -/
def Port.lower? : Port → Option Nat
  | .lower i => some i
  | .upper _ => none

namespace PortCounters

/-- The five numbers that a port keeps. -/
inductive Field where
  | rxPackets
  | rxBytes
  | txPackets
  | txBytes
  | txDropped
deriving DecidableEq, Repr

def get (c : PortCounters) : Field → Nat
  | .rxPackets => c.rxPackets
  | .rxBytes => c.rxBytes
  | .txPackets => c.txPackets
  | .txBytes => c.txBytes
  | .txDropped => c.txDropped

/-- By how much a field grows with an arrival does not depend on what was counted. -/
theorem get_receive (c : PortCounters) (bytes : Nat) (field : Field) :
    (c.receive bytes).get field = c.get field + (receive {} bytes).get field := by
  cases field <;> simp [receive, get]

/-- By how much a field grows when a frame is sent does not depend on what was counted. -/
theorem get_transmit (c : PortCounters) (bytes : Nat) (field : Field) :
    (c.transmit bytes).get field = c.get field + (transmit {} bytes).get field := by
  cases field <;> simp [transmit, get]

/-- By how much a field grows when a frame is dropped at a port does not depend on what was
counted. -/
theorem get_drop (c : PortCounters) (field : Field) :
    c.drop.get field = c.get field + (drop {}).get field := by
  cases field <;> simp [drop, get]

/-- Counters are determined by their numbers. -/
theorem ext_get {c d : PortCounters} (same : ∀ field, c.get field = d.get field) : c = d := by
  obtain ⟨_, _, _, _, _⟩ := c
  obtain ⟨_, _, _, _, _⟩ := d
  rw [mk.injEq]
  exact ⟨same .rxPackets, same .rxBytes, same .txPackets, same .txBytes, same .txDropped⟩

end PortCounters

/-- Drops are the same if they are so for each reason. -/
theorem DropCounts.ext_count {drops drops' : DropCounts}
    (same : ∀ reason, drops.count reason = drops'.count reason) : drops = drops' := by
  obtain ⟨_, _, _, _, _⟩ := drops
  obtain ⟨_, _, _, _, _⟩ := drops'
  rw [mk.injEq]
  exact ⟨same .unresolved, same .unsupportedProtocol, same .unknownPmac, same .protocolViolation,
    same .invalidPort⟩

namespace Switch

/-- One thing that a switch counts. -/
inductive Gauge where
  | received
  | transmitted
  | dropped (reason : DropReason)
  /-- A number of one lower port, or of all upper ports together. -/
  | port (lower? : Option Nat) (field : PortCounters.Field)
deriving DecidableEq, Repr

/-- What a gauge of a switch shows. -/
def reading (switch : Switch) : Gauge → Nat
  | .received => switch.received
  | .transmitted => switch.transmitted
  | .dropped reason => switch.drops.count reason
  | .port (some i) field => (switch.lower[i]?).elim 0 fun state => state.counters.get field
  | .port none field => totalOf (fun state => state.counters.get field) switch.upper.toList

/-- The counters of all lower ports, in order. -/
def lowerCounters (switch : Switch) : List PortCounters :=
  switch.lower.toList.map PortState.counters

/-- The gauges of a switch show all that it counts, except how its upper ports share their work. -/
theorem eq_of_reading {switch switch' : Switch} (ports : switch'.numLower = switch.numLower)
    (same : ∀ gauge, switch'.reading gauge = switch.reading gauge) :
    switch'.drops = switch.drops ∧ switch'.received = switch.received ∧
      switch'.transmitted = switch.transmitted ∧ switch'.lowerCounters = switch.lowerCounters := by
  refine ⟨DropCounts.ext_count fun reason => same (.dropped reason), same .received,
    same .transmitted, ?_⟩
  apply List.ext_getElem?
  intro i
  simp only [lowerCounters, List.getElem?_map, Array.getElem?_toList]
  have ports : switch'.lower.size = switch.lower.size := ports
  by_cases within : i < switch.lower.size
  · have within' : i < switch'.lower.size := ports ▸ within
    rw [Array.getElem?_eq_getElem within, Array.getElem?_eq_getElem within', Option.map_some,
      Option.map_some, Option.some.injEq]
    apply PortCounters.ext_get
    intro field
    have counted := same (.port (some i) field)
    simp only [reading, Array.getElem?_eq_getElem within, Array.getElem?_eq_getElem within',
      Option.elim_some] at counted
    exact counted
  · rw [Array.getElem?_eq_none (Nat.not_lt.mp within),
      Array.getElem?_eq_none (ports ▸ Nat.not_lt.mp within)]

/-- By how much the gauges grow when a port counts something. -/
def portGain (lower? : Option Nat) (gain : PortCounters.Field → Nat) : Gauge → Nat
  | .port counted field => if counted = lower? then gain field else 0
  | _ => 0

/-- A port that counts more moves its own gauges, and no others. -/
theorem reading_modifyPort (switch : Switch) {port : Port} {f : PortState → PortState}
    {gain : PortCounters.Field → Nat} (here : (switch.port? port).isSome)
    (grows : ∀ state field, (f state).counters.get field = state.counters.get field + gain field)
    (gauge : Gauge) :
    (switch.modifyPort port f).reading gauge =
      switch.reading gauge + portGain port.lower? gain gauge := by
  cases port with
  | lower i =>
    obtain ⟨state, found⟩ := Option.isSome_iff_exists.mp here
    have found : switch.lower[i]? = some state := found
    cases gauge with
    | port lower? field =>
      cases lower? with
      | none => rfl
      | some j =>
        simp only [modifyPort, reading, portGain, Port.lower?, Array.getElem?_modify,
          Option.some.injEq]
        by_cases same : i = j
        · subst same
          simp only [if_true, found, Option.map_some, Option.elim_some, grows]
        · rw [if_neg same, if_neg (Ne.symm same), Nat.add_zero]
    | received => rfl
    | transmitted => rfl
    | dropped _ => rfl
  | upper i =>
    have within : i < switch.upper.toList.length := (switch.isSome_port?_upper i).mp here
    cases gauge with
    | port lower? field =>
      cases lower? with
      | none =>
        simp only [modifyPort, reading, portGain, Port.lower?, if_true, Array.toList_modify]
        exact totalOf_modify (fun state => grows state field) within
      | some _ => rfl
    | received => rfl
    | transmitted => rfl
    | dropped _ => rfl

/-- A new link moves no gauge. -/
theorem reading_setPeer (switch : Switch) (port : Port) (peer : Endpoint) (gauge : Gauge) :
    (switch.setPeer port peer).reading gauge = switch.reading gauge := by
  cases port with
  | lower i =>
    cases gauge with
    | port lower? field =>
      cases lower? with
      | none => rfl
      | some j =>
        simp only [setPeer, modifyPort, reading, Array.getElem?_modify]
        split
        · cases switch.lower[j]? <;> rfl
        · rfl
    | received => rfl
    | transmitted => rfl
    | dropped _ => rfl
  | upper i =>
    cases gauge with
    | port lower? field =>
      cases lower? with
      | none =>
        simp only [setPeer, modifyPort, reading, Array.toList_modify]
        apply totalOf_modify_of_keeps
        intro state
        rfl
      | some _ => rfl
    | received => rfl
    | transmitted => rfl
    | dropped _ => rfl

/-! ## Growth -/

/-- By how much the gauges grow when a frame arrives at a port. -/
def arrivalGain (lower? : Option Nat) (frame : Frame) : Gauge → Nat
  | .received => 1
  | gauge => portGain lower? (PortCounters.receive {} frame.size).get gauge

/-- By how much an arrival moves each gauge. -/
theorem reading_countReceived (switch : Switch) {port : Port} (here : (switch.port? port).isSome)
    (frame : Frame) (gauge : Gauge) :
    (switch.countReceived port frame).reading gauge =
      switch.reading gauge + arrivalGain port.lower? frame gauge := by
  have counted := switch.reading_modifyPort here
    (f := fun state => { state with counters := state.counters.receive frame.size })
    (fun state => state.counters.get_receive frame.size) gauge
  cases gauge with
  | received => rfl
  | transmitted => exact counted
  | dropped reason => exact counted
  | port lower? field => cases lower? <;> exact counted

/-- By how much the gauges grow when a frame is put on a port, linked or not. -/
def departureGain (linked : Bool) (lower? : Option Nat) (frame : Frame) : Gauge → Nat
  | .transmitted => if linked then 1 else 0
  | gauge =>
    portGain lower?
      (if linked then PortCounters.transmit {} frame.size else PortCounters.drop {}).get gauge

/-- By how much the gauges grow when a frame is put on a port that need not exist. -/
def outputGain (switch : Switch) (out : Port × Frame) (gauge : Gauge) : Nat :=
  if (switch.port? out.1).isSome then
    departureGain (switch.peer? out.1).isSome out.1.lower? out.2 gauge
  else 0

/-- By how much a frame on a port moves each gauge. -/
theorem reading_output (switch : Switch) (port : Port) (frame : Frame) (gauge : Gauge) :
    (switch.output port frame).2.reading gauge =
      switch.reading gauge + switch.outputGain (port, frame) gauge := by
  cases found : switch.port? port with
  | none =>
    simp only [output, outputGain, found, Option.isSome_none, Bool.false_eq_true, if_false,
      Nat.add_zero]
  | some state =>
    have here : (switch.port? port).isSome := found ▸ rfl
    obtain ⟨peer?, counters⟩ := state
    cases peer? with
    | none =>
      have counted := switch.reading_modifyPort here
        (f := fun state => { state with counters := state.counters.drop })
        (fun state => state.counters.get_drop) gauge
      simp only [output, outputGain, peer?, found, Option.isSome_some, Option.bind_some,
        Option.isSome_none, if_true, counted]
      cases gauge <;> rfl
    | some peer =>
      have counted := switch.reading_modifyPort here
        (f := fun state => { state with counters := state.counters.transmit frame.size })
        (fun state => state.counters.get_transmit frame.size) gauge
      simp only [output, outputGain, peer?, found, Option.isSome_some, Option.bind_some, if_true]
      cases gauge with
      | transmitted => rfl
      | received => exact counted
      | dropped reason => exact counted
      | port lower? field => cases lower? <;> exact counted

/-- The growth does not depend on what was counted before. -/
theorem outputGain_congr {s t : Switch} (h : s.outline = t.outline) : s.outputGain = t.outputGain := by
  funext out gauge
  rw [outputGain, outputGain, isSome_port?_congr h, peer?_congr h]

/-- Frames that are put on ports move each gauge one after another. -/
theorem reading_transmit (frames : List (Port × Frame)) (switch : Switch) (gauge : Gauge) :
    (switch.transmit frames).2.reading gauge =
      switch.reading gauge + totalOf (fun out => switch.outputGain out gauge) frames := by
  induction frames generalizing switch with
  | nil => rfl
  | cons out rest ih =>
    obtain ⟨port, frame⟩ := out
    have same := outputGain_congr (output_keeps switch port frame).1
    show ((switch.output port frame).2.transmit rest).2.reading gauge = _
    rw [ih, reading_output, same, totalOf_cons, Nat.add_assoc]

/-- By how much the gauges grow when a verdict is carried out. -/
def verdictGain (switch : Switch) (verdict : Verdict) (gauge : Gauge) : Nat :=
  match verdict with
  | .ok frames => totalOf (fun out => switch.outputGain out gauge) frames
  | .error reason => if gauge = .dropped reason then 1 else 0

/-- By how much following a verdict moves each gauge. -/
theorem reading_conclude (switch : Switch) (verdict : Verdict) (state : ForwardState)
    (gauge : Gauge) :
    (switch.conclude verdict state).switch.reading gauge =
      switch.reading gauge + switch.verdictGain verdict gauge := by
  cases verdict with
  | ok frames =>
    have counted := reading_transmit frames { switch with table := state.table, drawn := state.drawn } gauge
    exact counted
  | error reason =>
    cases gauge with
    | dropped other =>
      simp only [conclude, reading, verdictGain, DropCounts.count_record, Gauge.dropped.injEq, eq_comm]
    | port lower? field => cases lower? <;> rfl
    | received => rfl
    | transmitted => rfl

/-- **The growth of all gauges when a frame is handled.** -/
theorem reading_receive {switch : Switch} {stream : Choice.Stream} {manager : FabricManager}
    {port : Port} {frame : Frame} (here : (switch.port? port).isSome)
    (other : frame.dst ≠ switch.address) (gauge : Gauge) :
    (switch.receive stream manager port frame).switch.reading gauge =
      switch.reading gauge + (arrivalGain port.lower? frame gauge +
        switch.verdictGain (switch.judge stream manager port frame).1 gauge) := by
  have same := outputGain_congr (outline_countReceived switch port frame)
  rw [receive_eq_conclude here other, reading_conclude, reading_countReceived switch here,
    Nat.add_assoc]
  unfold verdictGain
  rw [same]

/-- **The growth of all gauges when a message is handled.** -/
theorem reading_receiveMessage (switch : Switch) (stream : Choice.Stream) (manager : FabricManager)
    (message : ControlMessage) (gauge : Gauge) :
    (switch.receiveMessage stream manager message).switch.reading gauge =
      switch.reading gauge +
        switch.verdictGain (Policy.onMessage switch.tier (switch.site stream) message) gauge :=
  reading_conclude switch _ _ gauge

end Switch

end PmacFabric
