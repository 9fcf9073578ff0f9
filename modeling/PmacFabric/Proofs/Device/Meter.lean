import PmacFabric.Proofs.Device.Gauge
import PmacFabric.Proofs.Device.Host

/-!
# What the ends of a line count

A port counts what it sends and what arrives at it, in frames and in bytes; a host counts frames. The
events that a device takes and raises say what that is: `Measure.dueAt` adds up the frames that are
due at one link end. `Metered` says that every port has counted just these, and
**`Switch.receive_metered`** and **`Switch.receiveMessage_metered`** that switches do so: whatever a
frame or a message makes of a switch, each port has counted the frames that it has put on its line.
`Host.Metered` says the same of hosts.
-/

namespace PmacFabric

/-! ## Measures -/

/-- In what frames are counted. -/
inductive Measure where
  | packets
  | bytes
deriving DecidableEq, Repr

/-- Which way a frame passes a link end. -/
inductive Direction where
  | sent
  | received
deriving DecidableEq, Repr

namespace Measure

def ofFrame : Measure → Frame → Nat
  | packets, _ => 1
  | bytes, frame => frame.size

/-- The counter of a port for a measure and a direction. -/
def field : Measure → Direction → PortCounters.Field
  | packets, .sent => .txPackets
  | packets, .received => .rxPackets
  | bytes, .sent => .txBytes
  | bytes, .received => .rxBytes

/-- What an event brings to a link end. -/
def ofEvent (m : Measure) (target : Endpoint) : Event → Nat
  | .frame other frame => if other = target then m.ofFrame frame else 0
  | .control _ _ => 0

/-- What events bring to a link end. -/
def dueAt (m : Measure) (target : Endpoint) (events : List Event) : Nat :=
  totalOf (m.ofEvent target) events

@[simp] theorem dueAt_nil (m : Measure) (target : Endpoint) : m.dueAt target [] = 0 := rfl

/-- A frame is due where it arrives. -/
theorem dueAt_singleton (m : Measure) (target other : Endpoint) (frame : Frame) :
    m.dueAt target [.frame other frame] = if other = target then m.ofFrame frame else 0 := by
  rw [dueAt, totalOf_cons, totalOf_nil, Nat.add_zero, ofEvent]

@[simp] theorem dueAt_append (m : Measure) (target : Endpoint) (events later : List Event) :
    m.dueAt target (events ++ later) = m.dueAt target events + m.dueAt target later :=
  totalOf_append ..

/-- Events for somebody else bring nothing. -/
theorem dueAt_eq_zero {m : Measure} {target : Endpoint} {events : List Event}
    (elsewhere : ∀ frame, Event.frame target frame ∉ events) : m.dueAt target events = 0 := by
  induction events with
  | nil => rfl
  | cons event rest ih =>
    have rest := ih fun frame mem => elsewhere frame (List.mem_cons_of_mem _ mem)
    rw [dueAt, totalOf_cons]
    rw [dueAt] at rest
    rw [rest, Nat.add_zero]
    cases event with
    | control id message => rfl
    | frame other frame =>
      refine if_neg ?_
      rintro rfl
      exact elsewhere frame List.mem_cons_self

/-- Frames that all go to one link end bring nothing to another. -/
theorem dueAt_of_allAt {m : Measure} {target key : Endpoint} {events : List Event}
    (all : Host.AllAt target events) (apart : target ≠ key) : m.dueAt key events = 0 := by
  refine dueAt_eq_zero fun frame mem => ?_
  obtain ⟨_, same⟩ := all _ mem
  cases same
  exact apart rfl

/-- Frames that all go to one link end are counted there one by one. -/
theorem dueAt_packets {target : Endpoint} {events : List Event} (all : Host.AllAt target events) :
    packets.dueAt target events = events.length := by
  induction events with
  | nil => rfl
  | cons event rest ih =>
    obtain ⟨frame, rfl⟩ := all event List.mem_cons_self
    have rest := ih fun event mem => all event (List.mem_cons_of_mem _ mem)
    rw [dueAt] at rest
    rw [dueAt, totalOf_cons, rest, ofEvent, if_pos rfl, List.length_cons, Nat.add_comm]
    rfl

end Measure

namespace PortCounters

/-- An arrival adds to the counter of received frames only. -/
theorem receive_field (m : Measure) (way : Direction) (frame : Frame) :
    (receive {} frame.size).get (m.field way) = if way = .received then m.ofFrame frame else 0 := by
  cases m <;> cases way <;> simp [receive, get, Measure.field, Measure.ofFrame]

/-- A frame that is sent adds to the counter of sent frames only. -/
theorem transmit_field (m : Measure) (way : Direction) (frame : Frame) :
    (transmit {} frame.size).get (m.field way) = if way = .sent then m.ofFrame frame else 0 := by
  cases m <;> cases way <;> simp [transmit, get, Measure.field, Measure.ofFrame]

/-- A frame that finds no link is neither received nor sent. -/
theorem drop_field (m : Measure) (way : Direction) : (drop {}).get (m.field way) = 0 := by
  cases m <;> cases way <;> rfl

end PortCounters

/-! ## Ports -/

namespace Switch

/-- What a port has counted; nothing if it does not exist. -/
def meter (switch : Switch) (port : Port) (field : PortCounters.Field) : Nat :=
  (switch.port? port).elim 0 fun state => state.counters.get field

/-- Modifying a port leaves the others. -/
theorem port?_modifyPort (switch : Switch) (port key : Port) (f : PortState → PortState) :
    (switch.modifyPort port f).port? key =
      if port = key then (switch.port? key).map f else switch.port? key := by
  cases port <;> cases key <;>
    simp only [modifyPort, port?, Array.getElem?_modify, Port.lower.injEq, Port.upper.injEq,
      reduceCtorEq, if_false]

/-- A port that counts more leaves what others have counted. -/
theorem meter_modifyPort {switch : Switch} {port : Port} {f : PortState → PortState}
    {field : PortCounters.Field} {gain : Nat} (here : (switch.port? port).isSome)
    (grows : ∀ state, (f state).counters.get field = state.counters.get field + gain)
    (key : Port) :
    (switch.modifyPort port f).meter key field =
      switch.meter key field + if port = key then gain else 0 := by
  rw [meter, meter, port?_modifyPort]
  split
  · rename_i same
    subst same
    obtain ⟨state, found⟩ := Option.isSome_iff_exists.mp here
    simp only [found, Option.map_some, Option.elim_some, grows]
  · rfl

/-- A new link leaves what all ports have counted. -/
theorem meter_setPeer (switch : Switch) (port : Port) (peer : Endpoint) (key : Port)
    (field : PortCounters.Field) :
    (switch.setPeer port peer).meter key field = switch.meter key field := by
  rw [meter, meter, setPeer, port?_modifyPort]
  split
  · cases switch.port? key <;> rfl
  · rfl

/-- The ports of a new switch have counted nothing. -/
theorem meter_new (name : String) (id : DeviceId) (identity : SwitchIdentity)
    (numLower numUpper : Nat) (key : Port) (field : PortCounters.Field) :
    (Switch.new name id identity numLower numUpper).meter key field = 0 := by
  have fresh : ∀ state : PortState, state.counters = {} → state.counters.get field = 0 := by
    intro state zero
    rw [zero]
    cases field <;> rfl
  unfold meter
  cases key <;>
    (simp only [Switch.new, port?, Array.getElem?_replicate]
     split
     · exact fresh _ rfl
     · rfl)

/-- Whether ports have counted just what their switch has taken and what it has raised. A port has
sent what it brings to its peer, if no other port of the switch leads there. -/
structure Metered (id : DeviceId) (switch after : Switch) (taken raised : List Event) : Prop where
  outline : after.outline = switch.outline
  received : ∀ {m : Measure} {port}, (switch.port? port).isSome = true →
    after.meter port (m.field .received) =
      switch.meter port (m.field .received) + m.dueAt ⟨id, port⟩ taken
  sent : ∀ {m : Measure} {port peer}, switch.peer? port = some peer →
    (∀ other, switch.peer? other = some peer → other = port) →
    after.meter port (m.field .sent) = switch.meter port (m.field .sent) + m.dueAt peer raised
  /-- Nothing leaves a port without a link. -/
  loose : ∀ {m : Measure} {port}, switch.peer? port = none →
    after.meter port (m.field .sent) = switch.meter port (m.field .sent)
  /-- Nothing reaches those that no port leads to. -/
  aimed : ∀ {m : Measure} {peer}, (∀ port, switch.peer? port ≠ some peer) → m.dueAt peer raised = 0

section Metered

variable {id : DeviceId} {switch mid after : Switch} {taken taken' raised raised' : List Event}

/-- What changes no port, and raises messages at most. -/
theorem metered_of_ports (outline : after.outline = switch.outline)
    (ports : ∀ port field, after.meter port field = switch.meter port field)
    (nowhere : ∀ (m : Measure) port, (switch.port? port).isSome = true →
      m.dueAt ⟨id, port⟩ taken = 0)
    (silent : ∀ (m : Measure) peer, m.dueAt peer raised = 0) :
    Metered id switch after taken raised where
  outline := outline
  received here := by rw [ports, nowhere _ _ here, Nat.add_zero]
  sent _ _ := by rw [ports, silent, Nat.add_zero]
  loose _ := ports _ _
  aimed _ := silent _ _

/-- What is counted in turn adds up. -/
theorem Metered.trans (first : Metered id switch mid taken raised)
    (second : Metered id mid after taken' raised') :
    Metered id switch after (taken ++ taken') (raised ++ raised') := by
  have peers := peer?_congr first.outline
  refine ⟨second.outline.trans first.outline, fun {m port} here => ?_,
    fun {m port peer} leads alone => ?_, fun {m port} free => ?_, fun {m peer} none => ?_⟩
  · have here' : (mid.port? port).isSome = true := by rw [isSome_port?_congr first.outline, here]
    rw [second.received here', first.received here, Measure.dueAt_append, Nat.add_assoc]
  · rw [second.sent ((peers port).trans leads) fun other leads =>
      alone other ((peers other).symm.trans leads), first.sent leads alone, Measure.dueAt_append,
      Nat.add_assoc]
  · rw [second.loose ((peers port).trans free), first.loose free]
  · rw [Measure.dueAt_append, first.aimed none,
      second.aimed fun port leads => none port ((peers port).symm.trans leads)]

/-- A port counts the arrival that the switch has taken. -/
theorem countReceived_metered {port : Port} (here : (switch.port? port).isSome = true)
    (frame : Frame) :
    Metered id switch (switch.countReceived port frame) [.frame ⟨id, port⟩ frame] [] := by
  have counted (m : Measure) (way : Direction) (key : Port) :
      (switch.countReceived port frame).meter key (m.field way) =
        switch.meter key (m.field way) +
          if port = key then if way = .received then m.ofFrame frame else 0 else 0 := by
    rw [← PortCounters.receive_field m way frame]
    exact meter_modifyPort here (fun state => state.counters.get_receive frame.size _) key
  refine ⟨outline_countReceived switch port frame, fun {m key} _ => ?_, fun {m key peer} _ _ => ?_,
    fun {m key} _ => ?_, fun _ => rfl⟩
  · rw [counted, Measure.dueAt_singleton, if_pos rfl]
    simp only [Endpoint.mk.injEq, true_and]
  · simp only [counted, reduceCtorEq, if_false, ite_self, Measure.dueAt_nil]
  · simp only [counted, reduceCtorEq, if_false, ite_self, Nat.add_zero]

/-- A frame on a port is counted there, if the port has a link. -/
theorem output_metered (switch : Switch) (port : Port) (frame : Frame) :
    Metered id switch (switch.output port frame).2 [] (switch.output port frame).1.toList := by
  have kept := (output_keeps switch port frame).1
  have raised := output_event switch port frame
  cases found : switch.port? port with
  | none =>
    have nothing : switch.output port frame = (none, switch) := by simp only [output, found]
    rw [nothing]
    exact metered_of_ports rfl (fun _ _ => rfl) (fun _ _ _ => rfl) fun _ _ => rfl
  | some state =>
    have here : (switch.port? port).isSome = true := by rw [found]; rfl
    cases peer? : state.peer with
    | none =>
      have dropped : switch.output port frame = (none, switch.modifyPort port fun state =>
          { state with counters := state.counters.drop }) := by
        simp only [output, found, peer?]
      rw [dropped] at kept ⊢
      have counted (m : Measure) (way : Direction) (key : Port) :
          (switch.modifyPort port fun state =>
            { state with counters := state.counters.drop }).meter key (m.field way) =
            switch.meter key (m.field way) := by
        rw [meter_modifyPort here (fun state => state.counters.get_drop _),
          PortCounters.drop_field, ite_self, Nat.add_zero]
      exact ⟨kept, fun _ => counted _ _ _, fun _ _ => counted _ _ _, fun _ => counted _ _ _,
        fun _ => rfl⟩
    | some peer =>
      have leads : switch.peer? port = some peer := by
        rw [Switch.peer?, found, Option.bind_some, peer?]
      have counted (m : Measure) (way : Direction) (key : Port) :
          (switch.output port frame).2.meter key (m.field way) = switch.meter key (m.field way) +
            if port = key then if way = .sent then m.ofFrame frame else 0 else 0 := by
        rw [← PortCounters.transmit_field m way frame]
        have counted := meter_modifyPort here
          (f := fun state => { state with counters := state.counters.transmit frame.size })
          (fun state => state.counters.get_transmit frame.size (m.field way)) key
        simp only [output, found, peer?]
        exact counted
      rw [sent?, leads, Option.map_some] at raised
      rw [raised, Option.toList_some]
      refine ⟨kept, fun {m key} _ => ?_, fun {m key other} toOther alone => ?_, fun {m key} free => ?_,
        fun {m other} unaimed => ?_⟩
      · simp only [counted, reduceCtorEq, if_false, ite_self, Measure.dueAt_nil]
      · rw [counted, Measure.dueAt_singleton]
        by_cases same : port = key
        · subst same
          cases leads.symm.trans toOther
          rw [if_pos rfl, if_pos rfl, if_pos rfl]
        · have apart : peer ≠ other := by
            rintro rfl
            exact same (alone port leads)
          rw [if_neg same, if_neg apart]
      · have other : port ≠ key := by
          rintro rfl
          cases leads.symm.trans free
        rw [counted, if_neg other, Nat.add_zero]
      · have apart : peer ≠ other := by
          rintro rfl
          exact unaimed port leads
        rw [Measure.dueAt_singleton, if_neg apart]

/-- Ports count the frames that they are given one after another. -/
theorem transmit_metered (frames : List (Port × Frame)) (switch : Switch) :
    Metered id switch (switch.transmit frames).2 [] (switch.transmit frames).1 := by
  induction frames generalizing switch with
  | nil => exact metered_of_ports rfl (fun _ _ => rfl) (fun _ _ _ => rfl) fun _ _ => rfl
  | cons out rest ih =>
    obtain ⟨port, frame⟩ := out
    exact (output_metered switch port frame).trans (ih (switch.output port frame).2)

/-- Ports count the frames of a verdict. Messages are due at no port. -/
theorem conclude_metered (switch : Switch) (verdict : Verdict) {state : ForwardState}
    (messages : ∀ (m : Measure) peer, m.dueAt peer state.raised = 0) :
    Metered id switch (switch.conclude verdict state).switch []
      (switch.conclude verdict state).events := by
  have settled : Metered id switch { switch with table := state.table, drawn := state.drawn } []
      state.raised :=
    metered_of_ports rfl (fun _ _ => rfl) (fun _ _ _ => rfl) messages
  cases verdict with
  | ok frames => exact settled.trans (transmit_metered frames _)
  | error reason => exact metered_of_ports rfl (fun _ _ => rfl) (fun _ _ _ => rfl) messages

/-- **Whatever a frame makes of a switch, the ports count it**, and what leaves them. -/
theorem receive_metered (switch : Switch) (stream : Choice.Stream) (manager : FabricManager)
    (port : Port) (frame : Frame)
    (messages : (switch.port? port).isSome = true → ∀ (m : Measure) peer,
      m.dueAt peer (switch.judge stream manager port frame).2.raised = 0) :
    Metered id switch (switch.receive stream manager port frame).switch [.frame ⟨id, port⟩ frame]
      (switch.receive stream manager port frame).events := by
  cases found : switch.port? port with
  | none =>
    have nowhere (m : Measure) (key : Port) (here : (switch.port? key).isSome = true) :
        m.dueAt ⟨id, key⟩ [.frame ⟨id, port⟩ frame] = 0 := by
      rw [Measure.dueAt_singleton, if_neg]
      rintro same
      cases same
      rw [found] at here
      cases here
    simp only [receive, found]
    exact metered_of_ports rfl (fun _ _ => rfl) nowhere fun _ _ => rfl
  | some state =>
    have here : (switch.port? port).isSome = true := by rw [found]; rfl
    have arrived : Metered id switch (switch.countReceived port frame) [.frame ⟨id, port⟩ frame] [] :=
      countReceived_metered here frame
    by_cases own : frame.dst = switch.address
    · have address : (switch.countReceived port frame).address = switch.address := by
        cases port <;> rfl
      have stored : Metered id (switch.countReceived port frame)
          { switch.countReceived port frame with
            inbox := (switch.countReceived port frame).inbox.push frame } [] [] :=
        metered_of_ports rfl (fun _ _ => rfl) (fun _ _ _ => rfl) fun _ _ => rfl
      simp only [receive, found, address, if_pos own]
      exact arrived.trans stored
    · rw [receive_eq_conclude here own]
      exact arrived.trans (conclude_metered _ _ (messages here))

/-- **Ports count what a message makes them send.** -/
theorem receiveMessage_metered (switch : Switch) (stream : Choice.Stream) (manager : FabricManager)
    (message : ControlMessage) :
    Metered id switch (switch.receiveMessage stream manager message).switch [.control id message]
      (switch.receiveMessage stream manager message).events := by
  have heard : Metered id switch switch [.control id message] [] :=
    metered_of_ports rfl (fun _ _ => rfl) (fun _ _ _ => rfl) fun _ _ => rfl
  exact heard.trans (conclude_metered switch _ fun _ _ => rfl)

end Metered

end Switch

/-! ## Hosts -/

namespace Host

/-- Whether a host has counted what it has taken and what it has raised. -/
structure Metered (host after : Host) (taken raised : List Event) : Prop where
  received : after.counters.received = host.counters.received + taken.length
  sent : after.counters.sent = host.counters.sent + raised.length

/-- A host counts what it sends. -/
theorem send_metered {host after : Host} {dst : Ipv4Address} {data : Bytes} {events : List Event}
    (posted : host.send dst data = .ok (events, after)) : host.Metered after [] events := by
  cases attached : host.uplink with
  | none =>
    simp only [send, attached] at posted
    cases posted
  | some uplink =>
    cases known : host.resolve? dst with
    | some mac =>
      rw [send_eq_known attached known] at posted
      cases posted
      exact ⟨rfl, rfl⟩
    | none =>
      rw [send_eq_unknown attached known] at posted
      split at posted <;> cases posted <;> exact ⟨rfl, rfl⟩

/-- A host counts what it asks again. -/
theorem retransmit_metered {host after : Host} {events : List Event}
    (posted : host.retransmit = .ok (events, after)) : host.Metered after [] events := by
  cases attached : host.uplink with
  | none =>
    simp only [retransmit, attached] at posted
    cases posted
  | some uplink =>
    rw [retransmit_eq attached] at posted
    cases posted
    exact ⟨rfl, by rw [List.length_map]; rfl⟩

/-- A host that is attached counts each frame that arrives, and each that it sends in return. -/
theorem receive_metered {host : Host} {uplink : Endpoint} (attached : host.uplink = some uplink)
    (frame : Frame) (target : Endpoint) :
    host.Metered (host.receive frame).host [.frame target frame] (host.receive frame).events := by
  by_cases ignored : frame.dst ≠ host.amac ∧ ¬ frame.dst.isBroadcast
  · simp only [receive, if_pos ignored]
    exact ⟨rfl, rfl⟩
  · have takes : host.Takes frame := takes_of_not_ignored ignored
    cases payload : frame.payload with
    | raw etherType data =>
      simp only [receive, if_neg ignored, payload]
      exact ⟨rfl, rfl⟩
    | ipv4 packet =>
      simp only [receive, if_neg ignored, payload]
      split <;> exact ⟨rfl, rfl⟩
    | arp arp =>
      by_cases own : arp.targetIp = host.ip
      · cases operation : arp.operation with
        | request =>
          rw [receive_eq_question attached takes payload own operation]
          refine ⟨rfl, ?_⟩
          rw [List.length_append, List.length_map]
          rfl
        | reply =>
          rw [receive_eq_answer attached takes payload own operation]
          refine ⟨rfl, ?_⟩
          rw [List.length_map]
          rfl
      · rw [receive_eq_ignored payload own]
        exact ⟨rfl, rfl⟩

end Host

end PmacFabric
