import PmacFabric.Device.Switch

/-!
# What a decision does not depend on

Aggregation switches of one pod are interchangeable, and so are core switches; an edge switch is
interchangeable with itself only. `Site.Kin` says so about sites. Sites that are kin decide alike
whatever numbers they have drawn (`Switch.Kin.judge`): both drop a frame for the same reason, or both
send the same frame, down through the same port or up through ports that may differ, or both flood.
-/

namespace PmacFabric

/-- Sites that have the same place up to the choice among equivalent switches. Their streams are
arbitrary. -/
structure Site.Kin (site site' : Site) : Prop where
  tier : site'.identity.tier = site.identity.tier
  pod : site'.identity.pod = site.identity.pod
  lower : site'.numLower = site.numLower
  upper : site'.numUpper = site.numUpper
  edge : site.identity.tier = .edge → site'.id = site.id ∧ site'.identity = site.identity

/-- Ports that differ at most in the choice of an upper one. -/
inductive Port.Alike : Port → Port → Prop where
  | lower (i : Nat) : Alike (.lower i) (.lower i)
  | upper (j j' : Nat) : Alike (.upper j) (.upper j')

/-- States that differ in the numbers drawn, and above the edge in tables, which nobody uses
there. -/
structure ForwardState.Alike (tier : Tier) (state state' : ForwardState) : Prop where
  table : tier = .edge → state'.table = state.table
  manager : state'.manager = state.manager
  raised : state'.raised = state.raised

/-- Verdicts that differ in the upper ports chosen only. -/
inductive Verdict.Alike (site site' : Site) : Verdict → Verdict → Prop where
  | dropped (reason : DropReason) : Alike site site' (.error reason) (.error reason)
  | lower {i : Nat} (frame : Frame) : i < site.numLower → i < site'.numLower →
      Alike site site' (.ok [(.lower i, frame)]) (.ok [(.lower i, frame)])
  | upper {j j' : Nat} (frame : Frame) : j < site.numUpper → j' < site'.numUpper →
      Alike site site' (.ok [(.upper j, frame)]) (.ok [(.upper j', frame)])
  | flooded (frame : Frame) :
      Alike site site' (.ok (site.floodLower frame)) (.ok (site'.floodLower frame))
  | nothing : Alike site site' (.ok []) (.ok [])

/-- Decisions that differ in the upper ports chosen and the numbers drawn only. -/
structure Decided (site site' : Site) (decision decision' : Verdict × ForwardState) : Prop where
  verdict : Verdict.Alike site site' decision.1 decision'.1
  state : decision.2.Alike site.identity.tier decision'.2

section Kin

variable {site site' : Site} {state state' : ForwardState}

/-! ## Ports -/

/-- Ports that kin find towards one destination. -/
inductive Routed (site site' : Site) : Option Port → Option Port → Prop where
  | none : Routed site site' none none
  | lower {i : Nat} : i < site.numLower → i < site'.numLower →
      Routed site site' (some (.lower i)) (some (.lower i))
  | upper {j j' : Nat} : j < site.numUpper → j' < site'.numUpper →
      Routed site site' (some (.upper j)) (some (.upper j'))

/-- A lower port exists at both of two kin or at neither. -/
theorem Site.Kin.routed_lower (kin : site.Kin site') (i : Nat) :
    Routed site site' ((some (Port.lower i)).filter site.hasPort)
      ((some (Port.lower i)).filter site'.hasPort) := by
  simp only [Option.filter_some, Site.hasPort, kin.lower, decide_eq_true_eq]
  by_cases within : i < site.numLower
  · rw [if_pos within]
    exact .lower within (kin.lower.symm ▸ within)
  · rw [if_neg within]
    exact .none

/-- Any upper port exists, whatever number is drawn. -/
theorem filter_anyUpper (site : Site) (number : Nat) :
    site.numUpper = 0 ∧ (anyUpper site.numUpper number).filter site.hasPort = none ∨
      ∃ j, j < site.numUpper ∧
        (anyUpper site.numUpper number).filter site.hasPort = some (.upper j) := by
  by_cases closed : site.numUpper = 0
  · refine .inl ⟨closed, ?_⟩
    rw [anyUpper, if_pos closed, Option.filter_none]
  · have within := Choice.below_lt number (Nat.pos_of_ne_zero closed)
    have has : site.hasPort (.upper (Choice.below site.numUpper number)) = true :=
      decide_eq_true within
    refine .inr ⟨_, within, ?_⟩
    rw [anyUpper, if_neg closed, Option.filter_some, if_pos has]

/-- Upper ports drawn at two kin are like ports, or neither has any. -/
theorem Site.Kin.routed_upper (kin : site.Kin site') (number number' : Nat) :
    Routed site site' ((anyUpper site.numUpper number).filter site.hasPort)
      ((anyUpper site'.numUpper number').filter site'.hasPort) := by
  rcases filter_anyUpper site number with ⟨closed, found⟩ | ⟨j, hj, found⟩ <;>
    rcases filter_anyUpper site' number' with ⟨closed', found'⟩ | ⟨j', hj', found'⟩ <;>
    rw [found, found']
  · exact .none
  · rw [kin.upper, closed] at hj'
    cases hj'
  · rw [← kin.upper, closed'] at hj
    cases hj
  · exact .upper hj hj'

/-- **Kin find like ports towards every destination**, whatever numbers they draw. -/
theorem Site.Kin.routed (kin : site.Kin site') (dst : Pmac) (number number' : Nat) :
    Routed site site' ((outputPort site.identity dst site.numUpper number).filter site.hasPort)
      ((outputPort site'.identity dst site'.numUpper number').filter site'.hasPort) := by
  unfold outputPort
  rw [kin.tier, kin.pod]
  cases tier : site.identity.tier with
  | core => exact kin.routed_lower _
  | aggregation =>
    dsimp only
    split
    · exact kin.routed_lower _
    · exact kin.routed_upper _ _
  | edge =>
    rw [(kin.edge tier).2]
    dsimp only
    split
    · exact kin.routed_lower _
    · exact kin.routed_upper _ _

/-- Whatever route kin look for, they find like ports and keep like states. -/
theorem Site.Kin.route (kin : site.Kin site') {tier : Tier} (alike : state.Alike tier state')
    (dst : Pmac) :
    ∃ port? port?' after after', state.route site dst = (port?, after) ∧
      state'.route site' dst = (port?', after') ∧ Routed site site' port? port?' ∧
      after.Alike tier after' :=
  ⟨_, _, _, _, rfl, rfl, kin.routed dst _ _, ⟨alike.table, alike.manager, alike.raised⟩⟩

/-! ## Above the edge -/

/-- Kin above the edge pass a frame on alike. -/
theorem Transit.forward_alike (kin : site.Kin site') (alike : state.Alike site.identity.tier state')
    (frame : Frame) :
    Decided site site' (forward site frame state) (forward site' frame state') := by
  obtain ⟨port?, port?', after, after', found, found', routed, alike⟩ := kin.route alike ⟨frame.dst⟩
  unfold forward
  rw [found, found']
  cases routed with
  | none => exact ⟨.dropped _, alike⟩
  | lower hi hi' => exact ⟨.lower frame hi hi', alike⟩
  | upper hj hj' => exact ⟨.upper frame hj hj', alike⟩

/-- Kin above the edge treat a frame from above alike. -/
theorem Transit.fromAbove_alike (kin : site.Kin site')
    (alike : state.Alike site.identity.tier state') (frame : Frame) :
    Decided site site' (fromAbove site frame state) (fromAbove site' frame state') := by
  unfold fromAbove
  split
  · exact ⟨.flooded frame, alike⟩
  · obtain ⟨port?, port?', after, after', found, found', routed, alike⟩ :=
      kin.route alike ⟨frame.dst⟩
    rw [found, found']
    cases routed with
    | none => exact ⟨.dropped _, alike⟩
    | lower hi hi' => exact ⟨.lower frame hi hi', alike⟩
    | upper => exact ⟨.dropped _, alike⟩

/-- Kin obey an order of the fabric manager alike. -/
theorem Transit.coreMessage_alike (message : ControlMessage) :
    Verdict.Alike site site' (coreMessage site message) (coreMessage site' message) := by
  cases message with
  | arpFlood => exact .flooded _
  | _ => exact .dropped _

/-! ## At the edge -/

/-- Kin at the edge differ in their streams only. -/
theorem Site.Kin.eq_of_edge (kin : site.Kin site') (edge : site.identity.tier = .edge) :
    ∃ stream, site' = { site with stream } := by
  obtain ⟨number, identity⟩ := kin.edge edge
  obtain ⟨_, _, _, _, stream⟩ := site'
  obtain ⟨_, _, _, _, _⟩ := site
  refine ⟨stream, ?_⟩
  rw [Site.mk.injEq]
  exact ⟨number, identity, kin.lower, kin.upper, rfl⟩

/-- At the edge, like states differ in the numbers drawn only. -/
theorem ForwardState.Alike.eq_of_edge (alike : state.Alike .edge state') :
    ∃ drawn, state' = { state with drawn } := by
  obtain ⟨_, _, drawn, _⟩ := state'
  obtain ⟨_, _, _, _⟩ := state
  refine ⟨drawn, ?_⟩
  rw [ForwardState.mk.injEq]
  exact ⟨alike.table rfl, alike.manager, rfl, alike.raised⟩

namespace Edge

/-- No number is drawn to make the sender of a frame known. -/
theorem sourcePmac_drawn (stream : Choice.Stream) (drawn inPort : Nat) (amac : MacAddress)
    (ip : Ipv4Address) :
    sourcePmac { site with stream } inPort amac ip { state with drawn } =
      ((sourcePmac site inPort amac ip state).1,
        { (sourcePmac site inPort amac ip state).2 with drawn }) := by
  unfold sourcePmac
  cases state.table.pmacOfIp? ip with
  | some pmac => rfl
  | none =>
    dsimp only
    split <;> rfl

/-- No number is drawn to find the destination of a frame. -/
theorem destinationPmac_drawn (stream : Choice.Stream) (drawn : Nat) (dstIp srcIp : Ipv4Address)
    (srcPmac : Pmac) :
    destinationPmac { site with stream } dstIp srcIp srcPmac { state with drawn } =
      ((destinationPmac site dstIp srcIp srcPmac state).1,
        { (destinationPmac site dstIp srcIp srcPmac state).2 with drawn }) := by
  unfold destinationPmac
  cases state.table.pmacOfIp? dstIp with
  | some pmac => rfl
  | none =>
    simp only [ForwardState.query, ForwardState.tell]
    split <;> rfl

/-- Kin at the edge pass a frame between two known addresses on alike. -/
theorem forward_alike (kin : site.Kin site') (edge : site.identity.tier = .edge)
    (alike : state.Alike site.identity.tier state') (frame : Frame) (srcPmac dstPmac : Pmac) :
    Decided site site' (forward site frame srcPmac dstPmac state)
      (forward site' frame srcPmac dstPmac state') := by
  obtain ⟨port?, port?', after, after', found, found', routed, alike⟩ := kin.route alike dstPmac
  unfold forward
  rw [found, found']
  cases routed with
  | none => exact ⟨.dropped _, alike⟩
  | upper hj hj' => exact ⟨.upper _ hj hj', alike⟩
  | lower hi hi' =>
    dsimp only
    rw [alike.table edge]
    cases after.table.amac? dstPmac with
    | none => exact ⟨.dropped _, alike⟩
    | some amac => exact ⟨.lower _ hi hi', alike⟩

/-- Kin at the edge treat a frame from a host alike. -/
theorem fromBelow_alike (kin : site.Kin site') (edge : site.identity.tier = .edge)
    (alike : state.Alike site.identity.tier state') (inPort : Nat) (frame : Frame) :
    Decided site site' (fromBelow site inPort frame state)
      (fromBelow site' inPort frame state') := by
  have drawing : ∀ (after : ForwardState) (drawn : Nat),
      after.Alike site.identity.tier { after with drawn } := fun _ _ => ⟨fun _ => rfl, rfl, rfl⟩
  obtain ⟨stream, same⟩ := kin.eq_of_edge edge
  rw [edge] at alike
  obtain ⟨drawn, rfl⟩ := alike.eq_of_edge
  unfold fromBelow
  cases frame.headers.ips with
  | none => exact ⟨.dropped _, drawing _ _⟩
  | some ips =>
    obtain ⟨srcIp, dstIp⟩ := ips
    have source := @sourcePmac_drawn site state stream drawn inPort frame.src srcIp
    rw [← same] at source
    dsimp only
    rw [source]
    obtain ⟨result, sourced⟩ := sourcePmac site inPort frame.src srcIp state
    cases result with
    | error reason => exact ⟨.dropped _, drawing _ _⟩
    | ok srcPmac =>
      have destination := @destinationPmac_drawn site sourced stream drawn dstIp srcIp srcPmac
      rw [← same] at destination
      dsimp only
      rw [destination]
      obtain ⟨dstPmac, resolved⟩ := destinationPmac site dstIp srcIp srcPmac sourced
      dsimp only
      split
      · exact ⟨.dropped _, drawing _ _⟩
      · exact forward_alike kin edge (drawing resolved drawn) frame srcPmac dstPmac

/-- Kin at the edge treat a frame from above alike. -/
theorem fromAbove_alike (kin : site.Kin site') (edge : site.identity.tier = .edge)
    (alike : state.Alike site.identity.tier state') (frame : Frame) :
    Decided site site' (fromAbove site frame state) (fromAbove site' frame state') := by
  unfold fromAbove
  rw [alike.table edge]
  split
  · exact ⟨.flooded frame, alike⟩
  · cases state.table.amac? ⟨frame.dst⟩ with
    | none => exact ⟨.dropped _, alike⟩
    | some amac =>
      obtain ⟨port?, port?', after, after', found, found', routed, alike⟩ :=
        kin.route alike ⟨frame.dst⟩
      dsimp only
      rw [found, found']
      cases routed with
      | none => exact ⟨.dropped _, alike⟩
      | upper => exact ⟨.dropped _, alike⟩
      | lower hi hi' => exact ⟨.lower _ hi hi', alike⟩

end Edge

end Kin

/-! ## Switches -/

namespace Switch

/-- Switches at sites that are kin. Edge switches also have the same table. -/
structure Kin (switch switch' : Switch) : Prop where
  site : ∀ stream stream', (switch.site stream).Kin (switch'.site stream')
  table : switch.tier = .edge → switch'.table = switch.table

variable {switch switch' : Switch}

/-- **Kin decide alike about every frame**, whatever numbers they draw. -/
theorem Kin.judge (kin : switch.Kin switch') (stream stream' : Choice.Stream)
    (manager : FabricManager) {port port' : Port} (ports : port.Alike port') (frame : Frame) :
    Decided (switch.site stream) (switch'.site stream') (switch.judge stream manager port frame)
      (switch'.judge stream' manager port' frame) := by
  have site := kin.site stream stream'
  have alike : (switch.forwardState manager).Alike switch.tier (switch'.forwardState manager) :=
    ⟨kin.table, rfl, rfl⟩
  have tier : switch'.tier = switch.tier := site.tier
  unfold Switch.judge
  dsimp only
  rw [tier]
  cases ports with
  | lower i =>
    cases own : switch.tier with
    | edge => exact Edge.fromBelow_alike site own alike i frame
    | aggregation => exact Transit.forward_alike site alike frame
    | core => exact Transit.forward_alike site alike frame
  | upper j j' =>
    cases own : switch.tier with
    | edge => exact Edge.fromAbove_alike site own alike frame
    | aggregation => exact Transit.fromAbove_alike site alike frame
    | core => exact ⟨.dropped _, alike⟩

/-- **Kin decide alike about every message.** -/
theorem Kin.onMessage (kin : switch.Kin switch') (stream stream' : Choice.Stream)
    (message : ControlMessage) :
    Verdict.Alike (switch.site stream) (switch'.site stream')
      (Policy.onMessage switch.tier (switch.site stream) message)
      (Policy.onMessage switch'.tier (switch'.site stream') message) := by
  have tier : switch'.tier = switch.tier := (kin.site stream stream').tier
  rw [tier]
  cases switch.tier with
  | edge => exact .nothing
  | aggregation => exact .nothing
  | core => exact Transit.coreMessage_alike message

end Switch

end PmacFabric
