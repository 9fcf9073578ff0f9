import PmacFabric.Proofs.Device.Outline
import PmacFabric.Proofs.Forwarding.Likeness

/-!
# All that a decision can be

The laws of this module hold for every switch, every frame and every state. `Ruling` lists what a
decision may come to. The frame passes (`Passage`) and nobody becomes known; or an edge switch gets to
know the sender of a frame from below (`Admitted`), and the frame passes; or an edge switch asks for
the destination and drops the frame. **`Switch.receive_ruling`** says that whatever a switch does with
a frame is one of these, so the laws about all networks never open a policy.

What counts of a frame is its `talk`: two IP addresses, and whether it asks. No switch changes it.
-/

namespace PmacFabric

/-- What hosts are told by a frame: its two IP addresses, and whether it is a question. -/
def Frame.talk (frame : Frame) : Option (Ipv4Address × Ipv4Address) × Bool :=
  (frame.headers.ips, frame.headers.isArpRequest)

/-- What a frame tells hosts survives the edge switch where it enters the fabric. -/
theorem Edge.talk_inbound (frame : Frame) (srcPmac : Pmac) (dst : MacAddress) :
    (inbound frame srcPmac dst).talk = frame.talk := by
  obtain ⟨src, old, payload⟩ := frame
  cases payload <;> rfl

/-- What a frame tells hosts survives the edge switch where it leaves the fabric. -/
theorem Edge.talk_outbound (frame : Frame) (amac : MacAddress) :
    (outbound frame amac).talk = frame.talk := by
  obtain ⟨src, old, payload⟩ := frame
  cases payload with
  | arp arp =>
    simp only [outbound]
    split <;> rfl
  | _ => rfl

/-- A flooded frame tells hosts that `src` asks for `dst`. -/
theorem Transit.talk_floodFrame (dst src : Ipv4Address) (srcPmac : Pmac) :
    (floodFrame dst src srcPmac).talk = (some (src, dst), true) :=
  rfl

/-! ## What becomes known -/

/-- States in which the same hosts are known. Numbers drawn and most counters may differ. -/
structure ForwardState.SameHosts (state state' : ForwardState) : Prop where
  table : state'.table = state.table
  directory : state'.manager.directory = state.manager.directory
  registry : state'.manager.switches = state.manager.switches
  rejected : state'.manager.counters.rejected = state.manager.counters.rejected

theorem ForwardState.SameHosts.refl (state : ForwardState) : state.SameHosts state :=
  ⟨rfl, rfl, rfl, rfl⟩

/-- The messages that have all core switches but the asking one ask all hosts for `dst`. -/
def ForwardState.floods (state : ForwardState) (site : Site) (dst src : Ipv4Address)
    (srcPmac : Pmac) : List Event :=
  (state.manager.floodRecipients site.id).map fun id => .control id (.arpFlood dst src srcPmac)

/-- The entry that an edge switch makes for a host on one of its lower ports. -/
def Site.entry (site : Site) (inPort : Nat) (amac : MacAddress) (ip : Ipv4Address) : PmacEntry :=
  ⟨.encode site.identity.pod site.identity.position (UInt8.ofNat inPort), amac, ip, inPort⟩

/-- How the sender of a frame becomes known at an edge switch. -/
inductive Admitted (site : Site) (inPort : Nat) (amac : MacAddress) (ip : Ipv4Address)
    (state state' : ForwardState) : Prop where
  /-- It is in the table already. -/
  | known {pmac : Pmac} : state.table.pmacOfIp? ip = some pmac → state.SameHosts state' →
      Admitted site inPort amac ip state state'
  /-- It is entered into the table and registered. -/
  | entered : state.table.pmacOfIp? ip = none → inPort < 256 →
      state'.table = state.table.add (site.entry inPort amac ip) →
      state'.manager.directory =
        state.manager.directory.insert ip (site.entry inPort amac ip).pmac →
      state'.manager.switches = state.manager.switches →
      state'.manager.counters.rejected = state.manager.counters.rejected →
      Admitted site inPort amac ip state state'

/-- A sender stays admitted while no other host becomes known. -/
theorem Admitted.trans {site : Site} {inPort : Nat} {amac : MacAddress} {ip : Ipv4Address}
    {state state' state'' : ForwardState} (admitted : Admitted site inPort amac ip state state')
    (same : state'.SameHosts state'') : Admitted site inPort amac ip state state'' := by
  cases admitted with
  | known found known =>
    exact .known found ⟨same.table.trans known.table, same.directory.trans known.directory,
      same.registry.trans known.registry, same.rejected.trans known.rejected⟩
  | entered fresh octet table directory registry rejected =>
    exact .entered fresh octet (same.table.trans table) (same.directory.trans directory)
      (same.registry.trans registry) (same.rejected.trans rejected)

/-- Admitting a sender does not change which switches there are. -/
theorem Admitted.registry {site : Site} {inPort : Nat} {amac : MacAddress} {ip : Ipv4Address}
    {state state' : ForwardState} (admitted : Admitted site inPort amac ip state state') :
    state'.manager.switches = state.manager.switches := by
  cases admitted with
  | known _ same => exact same.registry
  | entered _ _ _ _ registry _ => exact registry

/-! ## What a decision comes to -/

/-- What may become of a frame. Only a frame from below goes up, and only one from above is copied
to all lower ports. -/
inductive Passage (site : Site) : Port → Frame → Verdict → Prop where
  | dropped {port : Port} {frame : Frame} (reason : DropReason) :
      Passage site port frame (.error reason)
  | nothing {port : Port} {frame : Frame} : Passage site port frame (.ok [])
  | down {port : Port} {frame copy : Frame} {i : Nat} : i < site.numLower →
      copy.talk = frame.talk → Passage site port frame (.ok [(.lower i, copy)])
  | up {i j : Nat} {frame copy : Frame} : j < site.numUpper → copy.talk = frame.talk →
      Passage site (.lower i) frame (.ok [(.upper j, copy)])
  | copied {j : Nat} {frame : Frame} :
      Passage site (.upper j) frame (.ok (site.floodLower frame))

/-- All that a decision about a frame may come to. -/
inductive Ruling (site : Site) (state : ForwardState) :
    Port → Frame → Verdict → ForwardState → Prop where
  /-- The frame passes, and nobody becomes known. -/
  | plain {port : Port} {frame : Frame} {verdict : Verdict} {state' : ForwardState} :
      state.SameHosts state' → state'.raised = state.raised → Passage site port frame verdict →
      Ruling site state port frame verdict state'
  /-- The sender is known, and the frame passes. -/
  | admits {i : Nat} {frame : Frame} {src dst : Ipv4Address} {verdict : Verdict}
      {state' : ForwardState} : site.identity.tier = .edge → i < site.numLower →
      frame.headers.ips = some (src, dst) → Admitted site i frame.src src state state' →
      state'.raised = state.raised → Passage site (.lower i) frame verdict →
      Ruling site state (.lower i) frame verdict state'
  /-- The sender is known and the destination is not: the manager has it asked for. -/
  | asks {i : Nat} {frame : Frame} {src dst : Ipv4Address} {srcPmac : Pmac}
      {state' : ForwardState} : site.identity.tier = .edge → i < site.numLower →
      frame.headers.ips = some (src, dst) → Admitted site i frame.src src state state' →
      state'.manager.directory[dst]? = none →
      state'.raised = state.raised ++ state.floods site dst src srcPmac →
      Ruling site state (.lower i) frame (.error .unresolved) state'

section Policies

variable {site : Site} {state : ForwardState}

/-- A port that is found exists. -/
theorem ForwardState.hasPort_of_route {dst : Pmac} {port : Port} {state' : ForwardState}
    (found : state.route site dst = (some port, state')) :
    site.hasPort port = true ∧ state' = { state with drawn := state.drawn + 1 } := by
  obtain ⟨chosen, rfl⟩ := Prod.mk.injEq .. ▸ found
  exact ⟨(Option.filter_eq_some_iff.mp chosen).2, rfl⟩

/-- Looking for a route makes no host known, and raises nothing. -/
theorem ForwardState.sameHosts_of_route {dst : Pmac} {port? : Option Port} {state' : ForwardState}
    (found : state.route site dst = (port?, state')) :
    state.SameHosts state' ∧ state'.raised = state.raised := by
  obtain ⟨-, rfl⟩ := Prod.mk.injEq .. ▸ found
  exact ⟨⟨rfl, rfl, rfl, rfl⟩, rfl⟩

/-! ## Above the edge -/

/-- A switch above the edge rules on a frame from below without making any host known. -/
theorem Transit.ruling_forward (site : Site) (state : ForwardState) (i : Nat) (frame : Frame) :
    Ruling site state (.lower i) frame (forward site frame state).1 (forward site frame state).2 := by
  unfold forward
  split
  · rename_i port state' found
    obtain ⟨same, raised⟩ := ForwardState.sameHosts_of_route found
    have has := (ForwardState.hasPort_of_route found).1
    cases port with
    | lower j => exact .plain same raised (.down (of_decide_eq_true has) rfl)
    | upper j => exact .plain same raised (.up (of_decide_eq_true has) rfl)
  · rename_i state' found
    obtain ⟨same, raised⟩ := ForwardState.sameHosts_of_route found
    exact .plain same raised (.dropped _)

/-- A switch above the edge rules on a frame from above without making any host known. -/
theorem Transit.ruling_fromAbove (site : Site) (state : ForwardState) (j : Nat) (frame : Frame) :
    Ruling site state (.upper j) frame (fromAbove site frame state).1
      (fromAbove site frame state).2 := by
  unfold fromAbove
  split
  · exact .plain (.refl state) rfl .copied
  · split <;>
      rename_i found <;>
      obtain ⟨same, raised⟩ := ForwardState.sameHosts_of_route found
    · exact .plain same raised (.down (of_decide_eq_true (ForwardState.hasPort_of_route found).1) rfl)
    · exact .plain same raised (.dropped _)
    · exact .plain same raised (.dropped _)

/-! ## At the edge -/

namespace Edge

/-- The sender of a frame is known afterwards, or its port has a number that fits no octet. -/
theorem sourcePmac_cases (member : state.manager.switches.contains site.id = true) (inPort : Nat)
    (amac : MacAddress) (ip : Ipv4Address) :
    sourcePmac site inPort amac ip state = (.error .invalidPort, state) ∨
      ∃ pmac state', sourcePmac site inPort amac ip state = (.ok pmac, state') ∧
        Admitted site inPort amac ip state state' ∧ state'.raised = state.raised := by
  unfold sourcePmac
  cases found : state.table.pmacOfIp? ip with
  | some pmac => exact .inr ⟨pmac, state, rfl, .known found (.refl state), rfl⟩
  | none =>
    by_cases octet : inPort < 256
    · have answer : ∀ pmac, state.manager.receive site.id (.macRegister ip pmac) =
          state.manager.register ip pmac := by
        intro pmac
        rw [FabricManager.receive, if_pos member]
      refine .inr ⟨(site.entry inPort amac ip).pmac, _, if_pos octet, ?_, ?_⟩
      · refine .entered found octet rfl ?_ ?_ ?_ <;>
          (simp only [ForwardState.register, ForwardState.tell, answer]; rfl)
      · simp only [ForwardState.register, ForwardState.tell, answer]
        exact List.append_nil _
    · exact .inl (if_neg octet)

/-- The destination of a frame is found, or all core switches are told to ask for it. -/
theorem destinationPmac_cases (member : state.manager.switches.contains site.id = true)
    (dst src : Ipv4Address) (srcPmac : Pmac) :
    ∃ pmac state', destinationPmac site dst src srcPmac state = (pmac, state') ∧
      state.SameHosts state' ∧
      (state'.raised = state.raised ∨
        pmac = .broadcast ∧ state'.manager.directory[dst]? = none ∧
          state'.raised = state.raised ++ state.floods site dst src srcPmac) := by
  unfold destinationPmac
  cases state.table.pmacOfIp? dst with
  | some pmac => exact ⟨pmac, state, rfl, .refl state, .inl rfl⟩
  | none =>
    have answer : state.manager.receive site.id (.arpRequest src srcPmac dst) =
        state.manager.resolve site.id src srcPmac dst := by
      rw [FabricManager.receive, if_pos member]
    cases listed : state.manager.directory[dst]? with
    | some pmac =>
      simp only [ForwardState.query, ForwardState.tell, answer, FabricManager.resolve, listed,
        List.append_nil]
      exact ⟨pmac, _, rfl, ⟨rfl, rfl, rfl, rfl⟩, .inl rfl⟩
    | none =>
      simp only [ForwardState.query, ForwardState.tell, answer, FabricManager.resolve, listed]
      exact ⟨.broadcast, _, rfl, ⟨rfl, rfl, rfl, rfl⟩, .inr ⟨rfl, listed, rfl⟩⟩

/-- A frame with known addresses passes. -/
theorem forward_passes (site : Site) (state : ForwardState) (i : Nat) (frame : Frame)
    (srcPmac dstPmac : Pmac) :
    ∃ verdict state', forward site frame srcPmac dstPmac state = (verdict, state') ∧
      state.SameHosts state' ∧ state'.raised = state.raised ∧
      Passage site (.lower i) frame verdict := by
  unfold forward
  split <;>
    rename_i found <;>
    obtain ⟨same, raised⟩ := ForwardState.sameHosts_of_route found
  · exact ⟨_, _, rfl, same, raised, .dropped _⟩
  · have has := (ForwardState.hasPort_of_route found).1
    exact ⟨_, _, rfl, same, raised, .up (of_decide_eq_true has) (talk_inbound ..)⟩
  · have has := (ForwardState.hasPort_of_route found).1
    split
    · exact ⟨_, _, rfl, same, raised, .dropped _⟩
    · exact ⟨_, _, rfl, same, raised, .down (of_decide_eq_true has) (talk_inbound ..)⟩

/-- An edge switch that the fabric manager knows rules on every frame from its hosts: it admits the
sender, and then passes the frame, or has it asked about, or drops it. -/
theorem ruling_fromBelow (edge : site.identity.tier = .edge)
    (member : state.manager.switches.contains site.id = true) {i : Nat} (within : i < site.numLower)
    (frame : Frame) :
    Ruling site state (.lower i) frame (fromBelow site i frame state).1
      (fromBelow site i frame state).2 := by
  unfold fromBelow
  cases ips : frame.headers.ips with
  | none => exact .plain (.refl state) rfl (.dropped _)
  | some pair =>
    obtain ⟨src, dst⟩ := pair
    dsimp only
    rcases sourcePmac_cases member i frame.src src with
      refused | ⟨srcPmac, sourced, found, admitted, quiet⟩
    · rw [refused]
      exact .plain (.refl state) rfl (.dropped _)
    · have member' : sourced.manager.switches.contains site.id = true :=
        admitted.registry ▸ member
      obtain ⟨dstPmac, resolved, found', same, raised⟩ :=
        destinationPmac_cases member' dst src srcPmac
      rw [found]
      dsimp only
      rw [found']
      have known := admitted.trans same
      dsimp only
      rcases raised with quiet' | ⟨rfl, unlisted, asked⟩
      · split
        · exact .admits edge within ips known (quiet'.trans quiet) (.dropped _)
        · obtain ⟨verdict, state', sent, same', raised, passage⟩ :=
            forward_passes site resolved i frame srcPmac dstPmac
          rw [sent]
          exact .admits edge within ips (known.trans same') (raised.trans (quiet'.trans quiet))
            passage
      · have recipients : sourced.floods site dst src srcPmac =
            state.floods site dst src srcPmac := by
          simp only [ForwardState.floods, FabricManager.floodRecipients, admitted.registry]
        rw [quiet, recipients] at asked
        exact .asks edge within ips known unlisted asked

/-- An edge switch rules on a frame from above without making any host known. -/
theorem ruling_fromAbove (site : Site) (state : ForwardState) (j : Nat) (frame : Frame) :
    Ruling site state (.upper j) frame (fromAbove site frame state).1
      (fromAbove site frame state).2 := by
  unfold fromAbove
  split
  · exact .plain (.refl state) rfl .copied
  · split
    · exact .plain (.refl state) rfl (.dropped _)
    · split
      · rename_i found
        obtain ⟨same, raised⟩ := ForwardState.sameHosts_of_route found
        have has := (ForwardState.hasPort_of_route found).1
        exact .plain same raised (.down (of_decide_eq_true has) (talk_outbound ..))
      · rename_i found
        obtain ⟨same, raised⟩ := ForwardState.sameHosts_of_route found
        exact .plain same raised (.dropped _)

end Edge

/-! ## Messages -/

/-- A message is ignored or refused, or it makes a core switch flood. -/
theorem Policy.onMessage_cases (tier : Tier) (site : Site) (message : ControlMessage) :
    (∃ reason, onMessage tier site message = .error reason) ∨ onMessage tier site message = .ok [] ∨
      ∃ dst src srcPmac, message = .arpFlood dst src srcPmac ∧
        onMessage tier site message = .ok (site.floodLower (Transit.floodFrame dst src srcPmac)) := by
  cases tier with
  | edge => exact .inr (.inl rfl)
  | aggregation => exact .inr (.inl rfl)
  | core =>
    cases message with
    | arpFlood dst src srcPmac => exact .inr (.inr ⟨dst, src, srcPmac, rfl, rfl⟩)
    | _ => exact .inl ⟨_, rfl⟩

end Policies

/-! ## Switches -/

namespace Switch

variable {switch : Switch} {stream : Choice.Stream} {manager : FabricManager}

/-- **Every decision of a switch about a frame is one of the rulings.** -/
theorem ruling_judge {port : Port} (here : (switch.port? port).isSome)
    (member : manager.switches.contains switch.id = true) (frame : Frame) :
    Ruling (switch.site stream) (switch.forwardState manager) port frame
      (switch.judge stream manager port frame).1 (switch.judge stream manager port frame).2 := by
  unfold judge
  cases port with
  | lower i =>
    have within := (switch.isSome_port?_lower i).mp here
    dsimp only
    cases own : switch.tier with
    | edge => exact Edge.ruling_fromBelow own member within frame
    | aggregation => exact Transit.ruling_forward _ _ i frame
    | core => exact Transit.ruling_forward _ _ i frame
  | upper j =>
    dsimp only
    cases switch.tier with
    | edge => exact Edge.ruling_fromAbove _ _ j frame
    | aggregation => exact Transit.ruling_fromAbove _ _ j frame
    | core => exact .plain (.refl _) rfl (.dropped _)

/-- What a switch is after a ruling, and the events that follow from it. -/
structure Carried (switch : Switch) (verdict : Verdict) (state : ForwardState) (outcome : Outcome) :
    Prop where
  outline : outcome.switch.outline = switch.outline
  table : outcome.switch.table = state.table
  manager : outcome.manager = state.manager
  events : outcome.events = state.raised ++ switch.verdictEvents verdict

/-- **Whatever a switch does with a frame follows from a ruling**, also when the frame is for the
switch itself or its port does not exist. -/
theorem receive_ruling (switch : Switch) (stream : Choice.Stream) {manager : FabricManager}
    (member : manager.switches.contains switch.id = true) (port : Port) (frame : Frame) :
    ∃ verdict state,
      Ruling (switch.site stream) (switch.forwardState manager) port frame verdict state ∧
        switch.Carried verdict state (switch.receive stream manager port frame) := by
  have ignored : Ruling (switch.site stream) (switch.forwardState manager) port frame (.ok [])
      (switch.forwardState manager) := .plain (.refl _) rfl .nothing
  cases here : switch.port? port with
  | none =>
    refine ⟨_, _, ignored, ?_⟩
    unfold receive
    rw [here]
    exact ⟨rfl, rfl, rfl, rfl⟩
  | some state =>
    have present : (switch.port? port).isSome = true := by rw [here]; rfl
    by_cases own : frame.dst = switch.address
    · have address : (switch.countReceived port frame).address = switch.address := by
        cases port <;> rfl
      refine ⟨_, _, ignored, ?_⟩
      unfold receive
      simp only [here, address, if_pos own]
      exact ⟨outline_countReceived switch port frame, table_modifyPort switch port _, rfl, rfl⟩
    · have handled := @receive_handled switch stream manager port frame present own
      exact ⟨_, _, ruling_judge present member frame,
        ⟨handled.outline, handled.table, handled.manager, handled.events⟩⟩

end Switch

end PmacFabric
