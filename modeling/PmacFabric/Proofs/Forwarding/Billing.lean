import PmacFabric.Proofs.Forwarding.Ruling

/-!
# What a decision has the fabric manager count

Only edge switches talk to the fabric manager, and only about frames from below: first a sender that
is not in the table is registered, and then a destination that is not in the table is asked for.
`Billed` lists what the counters of the manager are afterwards, together with what has changed for
that; **`Switch.receive_billed`** says that it covers whatever a switch does with a frame. A query is a
hit or a miss, and a miss drops the frame and sends one message to each core switch.
-/

namespace PmacFabric

namespace ManagerCounters

/-- One more registration. -/
def registered (counters : ManagerCounters) : ManagerCounters :=
  { counters with registrations := counters.registrations + 1 }

/-- One more query, answered from the directory. -/
def hit (counters : ManagerCounters) : ManagerCounters :=
  { counters with queries := counters.queries + 1, hits := counters.hits + 1 }

/-- One more query, for which messages were sent. -/
def missed (counters : ManagerCounters) (messages : Nat) : ManagerCounters :=
  { counters with
    queries := counters.queries + 1
    misses := counters.misses + 1
    floods := counters.floods + messages }

end ManagerCounters

/-- Drops after a verdict. -/
def DropCounts.after (drops : DropCounts) : Verdict → DropCounts
  | .ok _ => drops
  | .error reason => drops.record reason

/-- The counters once the sender of a frame is in the table. -/
inductive Enlisted (site : Site) (inPort : Nat) (amac : MacAddress) (ip : Ipv4Address)
    (state state' : ForwardState) (pmac : Pmac) : ManagerCounters → Prop where
  | known : state.table.pmacOfIp? ip = some pmac → state'.table = state.table →
      state'.manager.directory = state.manager.directory →
      Enlisted site inPort amac ip state state' pmac state.manager.counters
  | entered : state.table.pmacOfIp? ip = none → pmac = (site.entry inPort amac ip).pmac →
      state'.table = state.table.add (site.entry inPort amac ip) →
      state'.manager.directory = state.manager.directory.insert ip pmac →
      Enlisted site inPort amac ip state state' pmac state.manager.counters.registered

/-- What the manager has counted after a decision about a frame. -/
inductive Billed (site : Site) (state : ForwardState) :
    Port → Frame → Verdict → ForwardState → Prop where
  /-- The manager is told nothing. -/
  | aside {port : Port} {frame : Frame} {verdict : Verdict} {state' : ForwardState} :
      state'.manager = state.manager → state'.table = state.table →
      state'.raised = state.raised → Billed site state port frame verdict state'
  /-- The sender is known, and so is the destination, maybe after a query. -/
  | served {i : Nat} {frame : Frame} {src dst : Ipv4Address} {srcPmac : Pmac}
      {counters : ManagerCounters} {verdict : Verdict} {state' : ForwardState} :
      site.identity.tier = .edge → frame.headers.ips = some (src, dst) →
      Enlisted site i frame.src src state state' srcPmac counters →
      state'.raised = state.raised →
      (state'.manager.counters = counters ∨ state'.manager.counters = counters.hit) →
      Billed site state (.lower i) frame verdict state'
  /-- The sender is known, and the destination is asked for. -/
  | missed {i : Nat} {frame : Frame} {src dst : Ipv4Address} {srcPmac : Pmac}
      {counters : ManagerCounters} {state' : ForwardState} :
      site.identity.tier = .edge → frame.headers.ips = some (src, dst) →
      Enlisted site i frame.src src state state' srcPmac counters →
      state'.manager.directory[dst]? = none →
      state'.raised = state.raised ++ state.floods site dst src srcPmac →
      state'.manager.counters = counters.missed (state.floods site dst src srcPmac).length →
      Billed site state (.lower i) frame (.error .unresolved) state'

section Parts

variable {site : Site} {state : ForwardState} {inPort : Nat} {amac : MacAddress}
  {ip : Ipv4Address} {pmac : Pmac} {counters : ManagerCounters}

/-- A sender that has been enlisted is in the table. -/
theorem Enlisted.pmacOfIp? {state' : ForwardState}
    (enlisted : Enlisted site inPort amac ip state state' pmac counters) :
    state'.table.pmacOfIp? ip = some pmac := by
  cases enlisted with
  | known found table _ => rw [table, found]
  | entered _ own table _ =>
    rw [table, own]
    exact Std.TreeMap.getElem?_insert_self

/-- What keeps table and directory keeps what has been enlisted. -/
theorem Enlisted.trans {mid state' : ForwardState}
    (enlisted : Enlisted site inPort amac ip state mid pmac counters)
    (table : state'.table = mid.table)
    (directory : state'.manager.directory = mid.manager.directory) :
    Enlisted site inPort amac ip state state' pmac counters := by
  cases enlisted with
  | known found same listed => exact .known found (table.trans same) (directory.trans listed)
  | entered fresh own added listed =>
    exact .entered fresh own (table.trans added) (directory.trans listed)

/-! ## At the edge -/

namespace Edge

/-- The sender is enlisted, or its port has a number that fits no octet. -/
theorem sourcePmac_enlists (member : state.manager.switches.contains site.id = true)
    (inPort : Nat) (amac : MacAddress) (ip : Ipv4Address) :
    sourcePmac site inPort amac ip state = (.error .invalidPort, state) ∨
      ∃ pmac mid, sourcePmac site inPort amac ip state = (.ok pmac, mid) ∧
        Enlisted site inPort amac ip state mid pmac mid.manager.counters ∧
        mid.manager.switches = state.manager.switches ∧ mid.raised = state.raised := by
  unfold sourcePmac
  cases found : state.table.pmacOfIp? ip with
  | some pmac => exact .inr ⟨pmac, state, rfl, .known found rfl rfl, rfl, rfl⟩
  | none =>
    by_cases octet : inPort < 256
    · have answer : ∀ pmac, state.manager.receive site.id (.macRegister ip pmac) =
          state.manager.register ip pmac := by
        intro pmac
        rw [FabricManager.receive, if_pos member]
      refine .inr ⟨(site.entry inPort amac ip).pmac, _, if_pos octet, ?_, ?_, ?_⟩
      · simp only [ForwardState.register, ForwardState.tell, answer]
        exact .entered found rfl rfl rfl
      · simp only [ForwardState.register, ForwardState.tell, answer]
        rfl
      · simp only [ForwardState.register, ForwardState.tell, answer]
        exact List.append_nil _
    · exact .inl (if_neg octet)

/-- The destination is found, or the manager sends messages to ask for it. -/
theorem destinationPmac_billed (member : state.manager.switches.contains site.id = true)
    (dst src : Ipv4Address) (srcPmac : Pmac) :
    ∃ pmac state', destinationPmac site dst src srcPmac state = (pmac, state') ∧
      state'.table = state.table ∧ state'.manager.directory = state.manager.directory ∧
      (state'.raised = state.raised ∧ (state'.manager.counters = state.manager.counters ∨
          state'.manager.counters = state.manager.counters.hit) ∨
        pmac = .broadcast ∧ state.manager.directory[dst]? = none ∧
          state'.raised = state.raised ++ state.floods site dst src srcPmac ∧
          state'.manager.counters =
            state.manager.counters.missed (state.floods site dst src srcPmac).length) := by
  unfold destinationPmac
  cases state.table.pmacOfIp? dst with
  | some pmac => exact ⟨pmac, state, rfl, rfl, rfl, .inl ⟨rfl, .inl rfl⟩⟩
  | none =>
    have answer : state.manager.receive site.id (.arpRequest src srcPmac dst) =
        state.manager.resolve site.id src srcPmac dst := by
      rw [FabricManager.receive, if_pos member]
    cases listed : state.manager.directory[dst]? with
    | some pmac =>
      simp only [ForwardState.query, ForwardState.tell, answer, FabricManager.resolve, listed,
        List.append_nil]
      exact ⟨pmac, _, rfl, rfl, rfl, .inl ⟨rfl, .inr rfl⟩⟩
    | none =>
      simp only [ForwardState.query, ForwardState.tell, answer, FabricManager.resolve, listed]
      exact ⟨.broadcast, _, rfl, rfl, rfl, .inr ⟨rfl, trivial, rfl, rfl⟩⟩

/-- Sending a frame with known addresses tells the manager nothing. -/
theorem forward_silent (site : Site) (frame : Frame) (srcPmac dstPmac : Pmac)
    (state : ForwardState) :
    (forward site frame srcPmac dstPmac state).2 = { state with drawn := state.drawn + 1 } := by
  unfold forward
  split
  · next found => exact (Prod.mk.inj found).2.symm
  · next found => exact (Prod.mk.inj found).2.symm
  · next found =>
    split <;> exact (Prod.mk.inj found).2.symm

/-- An edge switch that the fabric manager knows gets exactly the bill that its questions make. -/
theorem fromBelow_billed (edge : site.identity.tier = .edge)
    (member : state.manager.switches.contains site.id = true) (i : Nat) (frame : Frame) :
    Billed site state (.lower i) frame (fromBelow site i frame state).1
      (fromBelow site i frame state).2 := by
  unfold fromBelow
  cases ips : frame.headers.ips with
  | none => exact .aside rfl rfl rfl
  | some pair =>
    obtain ⟨src, dst⟩ := pair
    dsimp only
    rcases sourcePmac_enlists member i frame.src src with
      refused | ⟨srcPmac, sourced, found, enlisted, registry, quiet⟩
    · rw [refused]
      exact .aside rfl rfl rfl
    · have member' : sourced.manager.switches.contains site.id = true := registry ▸ member
      obtain ⟨dstPmac, resolved, found', table, directory, billed⟩ :=
        destinationPmac_billed member' dst src srcPmac
      have known := enlisted.trans table directory
      rw [found]
      dsimp only
      rw [found']
      dsimp only
      rcases billed with ⟨quiet', counters⟩ | ⟨rfl, unlisted, asked, counters⟩
      · split
        · exact .served edge ips known (quiet'.trans quiet) counters
        · have silent := forward_silent site frame srcPmac dstPmac resolved
          rw [silent]
          exact .served edge ips (known.trans rfl rfl) (quiet'.trans quiet) counters
      · have recipients : sourced.floods site dst src srcPmac =
            state.floods site dst src srcPmac := by
          simp only [ForwardState.floods, FabricManager.floodRecipients, registry]
        rw [quiet, recipients] at asked
        rw [recipients] at counters
        exact .missed edge ips known (directory ▸ unlisted) asked counters

end Edge

/-! ## Elsewhere -/

/-- What a frame from above, or above the edge, changes of the state: a number may be drawn. -/
theorem Policy.fromAbove_silent (tier : Tier) (site : Site) (frame : Frame)
    (state : ForwardState) :
    (fromAbove tier site frame state).2.manager = state.manager ∧
      (fromAbove tier site frame state).2.table = state.table ∧
      (fromAbove tier site frame state).2.raised = state.raised := by
  have routed : ∀ {dst : Pmac} {port? : Option Port} {state' : ForwardState},
      state.route site dst = (port?, state') →
        state'.manager = state.manager ∧ state'.table = state.table ∧
          state'.raised = state.raised := by
    intro dst port? state' found
    obtain ⟨-, rfl⟩ := Prod.mk.injEq .. ▸ found
    exact ⟨rfl, rfl, rfl⟩
  cases tier with
  | core => exact ⟨rfl, rfl, rfl⟩
  | aggregation =>
    change (Transit.fromAbove site frame state).2.manager = _ ∧
      (Transit.fromAbove site frame state).2.table = _ ∧
      (Transit.fromAbove site frame state).2.raised = _
    unfold Transit.fromAbove
    split
    · exact ⟨rfl, rfl, rfl⟩
    · split <;> next found => exact routed found
  | edge =>
    change (Edge.fromAbove site frame state).2.manager = _ ∧
      (Edge.fromAbove site frame state).2.table = _ ∧
      (Edge.fromAbove site frame state).2.raised = _
    unfold Edge.fromAbove
    split
    · exact ⟨rfl, rfl, rfl⟩
    · split
      · exact ⟨rfl, rfl, rfl⟩
      · split <;> next found => exact routed found

/-- Passing a frame on changes nothing but the numbers drawn. -/
theorem Transit.forward_silent (site : Site) (frame : Frame) (state : ForwardState) :
    (forward site frame state).2 = { state with drawn := state.drawn + 1 } := by
  unfold forward
  split <;> next found => exact (Prod.mk.inj found).2.symm

end Parts

namespace Switch

/-- Whatever a switch decides about a frame, the fabric manager has counted its questions. -/
theorem billed_judge (switch : Switch) (stream : Choice.Stream) {manager : FabricManager}
    (member : manager.switches.contains switch.id = true) (port : Port) (frame : Frame) :
    Billed (switch.site stream) (switch.forwardState manager) port frame
      (switch.judge stream manager port frame).1 (switch.judge stream manager port frame).2 := by
  unfold judge
  cases port with
  | lower i =>
    dsimp only
    cases own : switch.tier with
    | edge => exact Edge.fromBelow_billed own member i frame
    | _ =>
      have silent := Transit.forward_silent (switch.site stream) frame (switch.forwardState manager)
      simp only [Policy.fromBelow]
      exact .aside (by rw [silent]) (by rw [silent]) (by rw [silent])
  | upper j =>
    obtain ⟨told, table, raised⟩ := Policy.fromAbove_silent switch.tier (switch.site stream) frame
      (switch.forwardState manager)
    exact .aside told table raised

theorem drops_output (switch : Switch) (port : Port) (frame : Frame) :
    (switch.output port frame).2.drops = switch.drops := by
  have modified : ∀ f, (switch.modifyPort port f).drops = switch.drops := by
    cases port <;> exact fun _ => rfl
  unfold output
  split
  · rfl
  · split <;> exact modified _

/-- Sending frames drops none of them for a reason of the policy. -/
theorem drops_transmit (frames : List (Port × Frame)) (switch : Switch) :
    (switch.transmit frames).2.drops = switch.drops := by
  induction frames generalizing switch with
  | nil => rfl
  | cons out rest ih =>
    exact (ih (switch.output out.1 out.2).2).trans (switch.drops_output out.1 out.2)

/-- A verdict is counted by the reason that it gives, if it is a drop. -/
theorem drops_conclude (switch : Switch) (verdict : Verdict) (state : ForwardState) :
    (switch.conclude verdict state).switch.drops = switch.drops.after verdict := by
  cases verdict with
  | error reason => rfl
  | ok frames => exact drops_transmit frames _

theorem drops_countReceived (switch : Switch) (port : Port) (frame : Frame) :
    (switch.countReceived port frame).drops = switch.drops := by
  cases port <;> rfl

/-- A message is counted as the verdict about it is. -/
theorem drops_receiveMessage (switch : Switch) (stream : Choice.Stream) (manager : FabricManager)
    (message : ControlMessage) :
    (switch.receiveMessage stream manager message).switch.drops =
      switch.drops.after (Policy.onMessage switch.tier (switch.site stream) message) :=
  drops_conclude switch _ _

/-- **Whatever a switch does with a frame is billed**, also when the frame is for the switch itself or
its port does not exist. -/
theorem receive_billed (switch : Switch) (stream : Choice.Stream) {manager : FabricManager}
    (member : manager.switches.contains switch.id = true) (port : Port) (frame : Frame) :
    ∃ verdict state,
      Billed (switch.site stream) (switch.forwardState manager) port frame verdict state ∧
        switch.Carried verdict state (switch.receive stream manager port frame) ∧
        (switch.receive stream manager port frame).switch.drops = switch.drops.after verdict := by
  cases here : switch.port? port with
  | none =>
    refine ⟨.error .invalidPort, switch.forwardState manager, .aside rfl rfl rfl, ?_⟩
    unfold receive
    rw [here]
    exact ⟨⟨rfl, rfl, rfl, rfl⟩, rfl⟩
  | some state =>
    have present : (switch.port? port).isSome = true := by rw [here]; rfl
    by_cases own : frame.dst = switch.address
    · have address : (switch.countReceived port frame).address = switch.address := by
        cases port <;> rfl
      refine ⟨.ok [], switch.forwardState manager, .aside rfl rfl rfl, ?_⟩
      unfold receive
      simp only [here, address, if_pos own]
      exact ⟨⟨outline_countReceived switch port frame, table_modifyPort switch port _, rfl, rfl⟩,
        drops_countReceived switch port frame⟩
    · have handled := @receive_handled switch stream manager port frame present own
      refine ⟨_, _, billed_judge switch stream member port frame,
        ⟨handled.outline, handled.table, handled.manager, handled.events⟩, ?_⟩
      rw [receive_eq_conclude present own, drops_conclude, drops_countReceived]

end Switch

end PmacFabric
