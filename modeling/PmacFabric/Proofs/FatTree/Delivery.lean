import PmacFabric.Proofs.FatTree.Reaction

/-!
# Every sound event has a reaction

For each kind of sound event, the device that handles it: hosts at the end of a way, switches on the
way, the sender's own edge switch, and the switches of a flood. **`deliver_of_sound`** puts them
together: in a sane network every sound event is handled without an error, and what it leads to is
one of the reactions.
-/

namespace PmacFabric.FatTree

open Network (Ground)

/-! ## Hosts -/

section Host

variable {k : Nat} {net : Network} {seat dest : Seat}

/-- The host of a seat. -/
theorem Sits.host (sits : Sits k net.ground seat) :
    ∃ host, net.hostAt? seat.id = some host ∧ host.card = seat.card k :=
  Option.map_eq_some_iff.mp sits.card

/-- A letter at its destination is handled by the host. -/
theorem deliver_carried_host {letter : Letter} (hs : Sits k net.ground seat)
    (hd : Sits k net.ground dest) (known : Registered net.manager.directory seat)
    (known' : Registered net.manager.directory dest) (bound : letter.dst = dest.ip) :
    ∃ hosts events net',
      net.deliver (.frame dest.line (letter.frame seat.pmac.mac seat.ip dest.amac)) =
        (.ok (), net') ∧ Changed k net net' none hosts events ∧
      Reaction k net (.frame dest.line (letter.frame seat.pmac.mac seat.ip dest.amac)) none hosts
        events := by
  obtain ⟨host, here, card⟩ := hd.host
  have amac : host.amac = dest.amac := congrArg Host.Card.amac card
  have ip : host.ip = dest.ip := congrArg Host.Card.ip card
  have uplink : host.uplink = some (dest.uplink k) := congrArg Host.Card.uplink card
  have takes : host.Takes (letter.frame seat.pmac.mac seat.ip dest.amac) := .inl amac.symm
  cases letter with
  | data target bytes =>
    cases bound
    obtain ⟨net', done, changed⟩ :=
      deliver_host (k := k) (.upper 0) here (Host.receive_eq_data takes rfl ip.symm)
    exact ⟨_, _, net', done, changed, .data hs hd known known' here⟩
  | answer target =>
    cases bound
    obtain ⟨net', done, changed⟩ := deliver_host (k := k) (.upper 0) here
      (Host.receive_eq_answer uplink takes rfl ip.symm rfl)
    rw [card] at changed
    exact ⟨_, _, net', done, changed, .answered hs hd known known' here⟩
  | question target =>
    cases bound
    obtain ⟨net', done, changed⟩ := deliver_host (k := k) (.upper 0) here
      (Host.receive_eq_question uplink takes rfl ip.symm rfl)
    rw [card] at changed
    exact ⟨_, _, net', done, changed, .asked hs hd known (.inl ⟨rfl, known'⟩) here⟩

/-- A flooded question at a host is for it or for somebody else. -/
theorem deliver_flooded_host {asked : Ipv4Address} (hs : Sits k net.ground seat)
    (hd : Sits k net.ground dest) (known : Registered net.manager.directory seat) :
    ∃ hosts events net', net.deliver (.frame dest.line (flooded seat asked)) = (.ok (), net') ∧
      Changed k net net' none hosts events ∧
      Reaction k net (.frame dest.line (flooded seat asked)) none hosts events := by
  obtain ⟨host, here, card⟩ := hd.host
  have ip : host.ip = dest.ip := congrArg Host.Card.ip card
  have uplink : host.uplink = some (dest.uplink k) := congrArg Host.Card.uplink card
  by_cases own : asked = dest.ip
  · subst own
    have takes : host.Takes (flooded seat dest.ip) := .inr rfl
    obtain ⟨net', done, changed⟩ := deliver_host (k := k) (.upper 0) here
      (Host.receive_eq_question uplink takes rfl ip.symm rfl)
    rw [card] at changed
    exact ⟨_, _, net', done, changed, .asked hs hd known (.inr rfl) here⟩
  · have payload : (flooded seat asked).payload =
        .arp (.request seat.pmac.mac seat.ip asked) := rfl
    obtain ⟨net', done, changed⟩ := deliver_host (k := k) (.upper 0) here
      (Host.receive_eq_ignored payload (ip ▸ own))
    exact ⟨_, _, net', done, changed, .ignored hs hd known own here⟩

end Host

/-! ## Switches on the way -/

section Hop

variable {k : Nat} {net : Network} {seat dest : Seat}

/-- A letter for a host of the switch, from above. -/
theorem fromAbove_landing {ground : Ground} {directory : Directory} {site : Site}
    {state : ForwardState} (letter : Letter) (src : MacAddress) (srcIp : Ipv4Address)
    (small : k ≤ 32) (here : At site (dest.edge k) (edgePlan k dest.place.pod dest.place.edge))
    (rolled : Rolled k ground directory (dest.edge k) state.table) (sits : Sits k ground dest)
    (known : Registered directory dest) :
    Edge.fromAbove site (letter.frame src srcIp dest.pmac.mac) state =
      (.ok [(.lower dest.place.port, letter.frame src srcIp dest.amac)], drew state) := by
  have alone := not_isBroadcast_mac dest
  have found : state.table.amac? ⟨dest.pmac.mac⟩ = some dest.amac := rolled.amac? sits known rfl
  have routed : state.route site ⟨dest.pmac.mac⟩ = (some (.lower dest.place.port), drew state) :=
    route_edge_own state here small sits.within
  rw [Edge.fromAbove, Letter.dst_frame]
  simp only [alone, found, routed, Letter.outbound_frame, Bool.false_eq_true, if_false]

/-- A frame at an aggregation or core switch, from below. -/
theorem forward_of_route {site : Site} {state : ForwardState} {port : Port} {frame : Frame}
    {dst : Pmac} (toward : frame.dst = dst.mac)
    (routed : state.route site dst = (some port, drew state)) :
    Transit.forward site frame state = (.ok [(port, frame)], drew state) := by
  rw [Transit.forward, toward, routed]

/-- A frame at an aggregation switch, from above. -/
theorem fromAbove_of_route {site : Site} {state : ForwardState} {i : Nat} {frame : Frame}
    {dst : Pmac} (toward : frame.dst = dst.mac) (alone : dst.isBroadcast = false)
    (routed : state.route site dst = (some (.lower i), drew state)) :
    Transit.fromAbove site frame state = (.ok [(.lower i, frame)], drew state) := by
  have alone : frame.dst.isBroadcast = false := toward ▸ alone
  rw [Transit.fromAbove, alone, toward, routed]
  rfl

namespace Follows

variable {switch : Switch} {id : DeviceId} (stream : Choice.Stream) (manager : FabricManager)
  (frame : Frame)

/-- A switch that follows its plan has the tier of the plan. -/
theorem tier {plan : SwitchPlan} (follows : Follows switch id plan) :
    switch.tier = plan.identity.tier :=
  congrArg SwitchIdentity.tier follows.identity

/-- An edge switch takes a frame from below as one of its hosts. -/
theorem judge_edge_below {pod e : Nat} (follows : Follows switch id (edgePlan k pod e)) (i : Nat) :
    switch.judge stream manager (.lower i) frame =
      Edge.fromBelow (switch.site stream) i frame (switch.forwardState manager) := by
  simp only [Switch.judge, follows.tier]
  rfl

/-- An edge switch takes a frame from above as one for its hosts. -/
theorem judge_edge_above {pod e : Nat} (follows : Follows switch id (edgePlan k pod e)) (j : Nat) :
    switch.judge stream manager (.upper j) frame =
      Edge.fromAbove (switch.site stream) frame (switch.forwardState manager) := by
  simp only [Switch.judge, follows.tier]
  rfl

/-- An aggregation switch forwards what comes from below. -/
theorem judge_aggregation_below {pod a : Nat}
    (follows : Follows switch id (aggregationPlan k pod a)) (i : Nat) :
    switch.judge stream manager (.lower i) frame =
      Transit.forward (switch.site stream) frame (switch.forwardState manager) := by
  simp only [Switch.judge, follows.tier]
  rfl

/-- An aggregation switch hands down what comes from above. -/
theorem judge_aggregation_above {pod a : Nat}
    (follows : Follows switch id (aggregationPlan k pod a)) (j : Nat) :
    switch.judge stream manager (.upper j) frame =
      Transit.fromAbove (switch.site stream) frame (switch.forwardState manager) := by
  simp only [Switch.judge, follows.tier]
  rfl

/-- A core switch forwards, for there is nothing above it. -/
theorem judge_core_below {c : Nat} (follows : Follows switch id (corePlan k c)) (i : Nat) :
    switch.judge stream manager (.lower i) frame =
      Transit.forward (switch.site stream) frame (switch.forwardState manager) := by
  simp only [Switch.judge, follows.tier]
  rfl

end Follows

/-- A switch that follows its plan has the lower ports of the plan. -/
theorem Follows.lowerPort {switch : Switch} {id : DeviceId} {plan : SwitchPlan} {i : Nat}
    (follows : Follows switch id plan) (h : i < plan.numLower) :
    (switch.port? (.lower i)).isSome :=
  (switch.isSome_port?_lower i).mpr (follows.lower ▸ h)

/-- A switch that follows its plan has the upper ports of the plan. -/
theorem Follows.upperPort {switch : Switch} {id : DeviceId} {plan : SwitchPlan} {j : Nat}
    (follows : Follows switch id plan) (h : j < plan.numUpper) :
    (switch.port? (.upper j)).isSome :=
  (switch.isSome_port?_upper j).mpr (follows.upper ▸ h)

/-- **A letter on its way makes one hop.** -/
theorem deliver_hop {letter : Letter} {n : Nat} {target : Endpoint} (sane : Sane k net)
    (hs : Sits k net.ground seat) (hd : Sits k net.ground dest)
    (known : Registered net.manager.directory seat)
    (known' : Registered net.manager.directory dest) (bound : letter.dst = dest.ip)
    (way : OnWay k seat dest (n + 1) target) :
    ∃ events net',
      net.deliver (.frame target (letter.frame seat.pmac.mac seat.ip dest.pmac.mac)) =
        (.ok (), net') ∧ Changed k net net' none net.hostAt? events ∧
      Reaction k net (.frame target (letter.frame seat.pmac.mac seat.ip dest.pmac.mac)) none
        net.hostAt? events := by
  have fabric := sane.fabric
  have small := le_of_accepts fabric.accepted
  obtain ⟨hp, he, hi⟩ := hd.within
  obtain ⟨hp', he', hi'⟩ := hs.within
  have pod_eq := toNat_pod hd.within small
  have position_eq := toNat_position hd.within small
  have toward := letter.dst_frame seat.pmac.mac seat.ip dest.pmac.mac
  have react : ∀ {next : Endpoint}, OnWay k seat dest n next →
      Reaction k net (.frame target (letter.frame seat.pmac.mac seat.ip dest.pmac.mac)) none
        net.hostAt? [.frame next (letter.frame seat.pmac.mac seat.ip (dest.address n))] :=
    fun later => .hop hs hd known known' bound way later
  cases way with
  | @landing j hj _ =>
    obtain ⟨switch, here, follows⟩ := fabric.edge hp he
    have remembered : net.memoryAt? (dest.edge k) = some switch.memory :=
      congrArg (Option.map Switch.memory) here
    have verdict := (follows.judge_edge_above (net.streams (dest.edge k)) net.manager _ j).trans
      (fromAbove_landing letter seat.pmac.mac seat.ip small (follows.at _)
        (sane.tables remembered).1 hd known')
    obtain ⟨net', done, changed⟩ := deliver_single (k := k) here (follows.upperPort hj)
      (pmac_ne_address dest switch) verdict (effects_none switch) rfl hd.peer
    exact ⟨_, net', done, changed, react .arrived⟩
  | @turning a ha pod edge =>
    obtain ⟨switch, here, follows⟩ := fabric.aggregation hp ha
    have routed := route_aggregation_down (switch.forwardState net.manager)
      (follows.at (net.streams (aggregationId k dest.place.pod a))) he pod_eq position_eq
    have verdict := (follows.judge_aggregation_below _ net.manager _ seat.place.edge).trans
      (forward_of_route toward routed)
    obtain ⟨net', done, changed⟩ := deliver_single (k := k) here (follows.lowerPort he')
      (pmac_ne_address dest switch) verdict (effects_none switch) rfl
      (fabric.aggregation_down hp ha he)
    exact ⟨_, net', done, changed, react (.landing ha fun _ => edge)⟩
  | @descending a i ha hi pod =>
    obtain ⟨switch, here, follows⟩ := fabric.aggregation hp ha
    have routed := route_aggregation_down (switch.forwardState net.manager)
      (follows.at (net.streams (aggregationId k dest.place.pod a))) he pod_eq position_eq
    have verdict := (follows.judge_aggregation_above _ net.manager _ i).trans
      (fromAbove_of_route toward (not_isBroadcast_pmac dest) routed)
    obtain ⟨net', done, changed⟩ := deliver_single (k := k) here (follows.upperPort hi)
      (pmac_ne_address dest switch) verdict (effects_none switch) rfl
      (fabric.aggregation_down hp ha he)
    exact ⟨_, net', done, changed, react (.landing ha fun same => absurd same pod)⟩
  | @crossing a i ha hi pod =>
    obtain ⟨switch, here, follows⟩ := fabric.core (coreIndex_lt ha hi)
    have routed := route_core (switch.forwardState net.manager)
      (follows.at (net.streams (coreId k (a * (k / 2) + i)))) hp pod_eq
    have verdict := (follows.judge_core_below _ net.manager _ seat.place.pod).trans
      (forward_of_route toward routed)
    obtain ⟨net', done, changed⟩ := deliver_single (k := k) here (follows.lowerPort hp')
      (pmac_ne_address dest switch) verdict (effects_none switch) rfl (fabric.core_down hp ha hi)
    exact ⟨_, net', done, changed, react (.descending ha hi pod)⟩
  | @climbing a ha pod =>
    obtain ⟨switch, here, follows⟩ := fabric.aggregation hp' ha
    obtain ⟨i, hi, routed⟩ := route_aggregation_up (switch.forwardState net.manager)
      (follows.at (net.streams (aggregationId k seat.place.pod a))) fabric.accepted hp'
      fun same => pod (same.symm.trans pod_eq)
    have verdict := (follows.judge_aggregation_below _ net.manager _ seat.place.edge).trans
      (forward_of_route toward routed)
    obtain ⟨net', done, changed⟩ := deliver_single (k := k) here (follows.lowerPort he')
      (pmac_ne_address dest switch) verdict (effects_none switch) rfl
      (fabric.aggregation_up hp' ha hi)
    exact ⟨_, net', done, changed, react (.crossing ha hi pod)⟩

end Hop

/-! ## The sender's edge switch -/

section Enter

variable {k : Nat} {net : Network} {seat dest : Seat}

/-- Learning about a seat leaves the inbox. -/
theorem inbox_enrolMemory (directory : Directory) (seat : Seat) (id : DeviceId)
    (memory : Switch.Memory) : (enrolMemory k directory seat id memory).inbox = memory.inbox := by
  unfold enrolMemory
  split <;> rfl

/-- What the edge switch of a sender knows when it looks for the destination. -/
theorem exists_sourced (sane : Sane k net) (hs : Sits k net.ground seat) :
    ∃ switch state, net.switchAt? (seat.edge k) = some switch ∧
      Follows switch (seat.edge k) (edgePlan k seat.place.pod seat.place.edge) ∧
      Edge.sourcePmac (switch.site (net.streams (seat.edge k))) seat.place.port seat.amac seat.ip
        (switch.forwardState net.manager) = (.ok seat.pmac, state) ∧
      Effects k net (seat.edge k) switch (some seat) state.table state.manager ∧
      state.manager.switches = net.ground.registry ∧ state.raised = [] ∧
      Rolled k net.ground (enrolled net.manager.directory seat) (seat.edge k) state.table := by
  have small := le_of_accepts sane.fabric.accepted
  obtain ⟨hp, he, hi⟩ := hs.within
  obtain ⟨switch, here, follows⟩ := sane.fabric.edge hp he
  have remembered : net.memoryAt? (seat.edge k) = some switch.memory :=
    congrArg (Option.map Switch.memory) here
  have rolled := (sane.tables remembered).1
  have table : (switch.forwardState net.manager).table = switch.memory.table := rfl
  obtain ⟨state, done, sourced⟩ := sourcePmac_seat small sane.housed
    (follows.at (net.streams (seat.edge k))) (sane.fabric.registered_edge hp he) hs table rolled
  refine ⟨switch, state, here, follows, done, ⟨sourced.directory, ?_, ?_⟩, sourced.registry,
    sourced.raised, ?_⟩
  · have inbox := inbox_enrolMemory (k := k) net.manager.directory seat (seat.edge k) switch.memory
    rw [sourced.table]
    exact congrArg (Switch.Memory.mk _) inbox.symm
  · intro other same
    cases same
    rfl
  · rw [sourced.table]
    exact rolled.enrol small sane.housed hs

/-- The port by which a letter leaves the edge switch of its sender. -/
theorem exists_first_hop {state : ForwardState} {switch : Switch} (letter : Letter)
    (dst : MacAddress) (sane : Sane k net)
    (follows : Follows switch (seat.edge k) (edgePlan k seat.place.pod seat.place.edge))
    (hs : Sits k net.ground seat) (hd : Sits k net.ground dest)
    (rolled : Rolled k net.ground (enrolled net.manager.directory seat) (seat.edge k) state.table)
    (known : Registered (enrolled net.manager.directory seat) dest) :
    ∃ out n target,
      Edge.forward (switch.site (net.streams (seat.edge k))) (letter.frame seat.amac seat.ip dst)
        seat.pmac dest.pmac state =
          (.ok [(out, letter.frame seat.pmac.mac seat.ip (dest.address n))], drew state) ∧
      net.ground.peer? ⟨seat.edge k, out⟩ = some target ∧ OnWay k seat dest n target ∧
      distance seat dest = n + 1 := by
  have fabric := sane.fabric
  have small := le_of_accepts fabric.accepted
  have site := follows.at (net.streams (seat.edge k))
  obtain ⟨hp, he, hi⟩ := hs.within
  by_cases own : seat.place.pod = dest.place.pod ∧ seat.place.edge = dest.place.edge
  · have edge : seat.edge k = dest.edge k := by
      unfold Seat.edge
      rw [own.1, own.2]
    have found := rolled.amac? hd known edge.symm
    have routed := route_edge_own state (own.1 ▸ own.2 ▸ site) small hd.within
    refine ⟨.lower dest.place.port, 0, dest.line, ?_, ?_, .arrived, ?_⟩
    · simp only [Edge.forward, routed, drew, found, Letter.inbound_frame, Seat.address]
    · rw [edge]
      exact hd.peer
    · rw [distance, if_pos own.1, if_pos own.2]
  · obtain ⟨j, hj, routed⟩ := route_edge_up state site fabric.accepted hp he hd.within own
    have up := fabric.edge_up hp he hj
    by_cases pod : seat.place.pod = dest.place.pod
    · have other : seat.place.edge ≠ dest.place.edge := fun same => own ⟨pod, same⟩
      refine ⟨.upper j, 2, _, ?_, up, ?_, ?_⟩
      · simp only [Edge.forward, routed, Letter.inbound_frame, Seat.address]
      · rw [pod]
        exact .turning hj pod other
      · rw [distance, if_pos pod, if_neg other]
    · refine ⟨.upper j, 4, _, ?_, up, .climbing hj pod, ?_⟩
      · simp only [Edge.forward, routed, Letter.inbound_frame, Seat.address]
      · rw [distance, if_neg pod]

/-- **A letter for a known seat enters the fabric.** -/
theorem deliver_enter {letter : Letter} {dst : MacAddress} (sane : Sane k net)
    (hs : Sits k net.ground seat) (hd : Sits k net.ground dest)
    (known : Registered (enrolled net.manager.directory seat) dest)
    (bound : letter.dst = dest.ip) (other : ∀ switch : Switch, dst ≠ switch.address) :
    ∃ who hosts events net',
      net.deliver (.frame (seat.uplink k) (letter.frame seat.amac seat.ip dst)) = (.ok (), net') ∧
      Changed k net net' who hosts events ∧
      Reaction k net (.frame (seat.uplink k) (letter.frame seat.amac seat.ip dst)) who hosts
        events := by
  obtain ⟨switch, state, here, follows, sourced, effects, registry, calm, rolled⟩ :=
    exists_sourced sane hs
  have site := follows.at (net.streams (seat.edge k))
  have member : state.manager.switches.contains
      (switch.site (net.streams (seat.edge k))).id = true := by
    rw [registry, site.number]
    exact sane.fabric.registered_edge hs.within.1 hs.within.2.1
  obtain ⟨state', resolved, table, directory, -, raised⟩ :=
    destinationPmac_known seat.ip seat.pmac sane.housed member effects.directory
      (site.number ▸ rolled) hd known
  obtain ⟨out, n, target, sent, linked, way, hops⟩ :=
    exists_first_hop letter dst sane follows hs hd (table ▸ rolled) known
  have verdict : switch.judge (net.streams (seat.edge k)) net.manager (.lower seat.place.port)
      (letter.frame seat.amac seat.ip dst) =
        (.ok [(out, letter.frame seat.pmac.mac seat.ip (dest.address n))], drew state') := by
    rw [follows.judge_edge_below, Edge.fromBelow, Letter.ips_frame, bound, Letter.src_frame]
    simp only [sourced, resolved, not_isBroadcast_pmac, Bool.false_eq_true, if_false]
    exact sent
  have effects' : Effects k net (seat.edge k) switch (some seat) (drew state').table
      (drew state').manager :=
    ⟨directory, (congrArg (Switch.Memory.mk · switch.inbox) table).trans effects.memory, effects.own⟩
  obtain ⟨net', done, changed⟩ := deliver_single here (follows.lowerPort hs.within.2.2)
    (other switch) verdict effects' (raised.trans calm) linked
  exact ⟨some seat, net.hostAt?, _, net', done, changed, .enter hs hd known bound way hops⟩

/-- **A question for an unknown address has the manager order a flood.** -/
theorem deliver_miss {asked : Ipv4Address} (sane : Sane k net) (hs : Sits k net.ground seat)
    (unknown : (enrolled net.manager.directory seat)[asked]? = none) :
    ∃ who hosts events net',
      net.deliver (.frame (seat.uplink k)
        ((Letter.question asked).frame seat.amac seat.ip .broadcast)) = (.ok (), net') ∧
      Changed k net net' who hosts events ∧
      Reaction k net (.frame (seat.uplink k)
        ((Letter.question asked).frame seat.amac seat.ip .broadcast)) who hosts events := by
  obtain ⟨switch, state, here, follows, sourced, effects, registry, calm, rolled⟩ :=
    exists_sourced sane hs
  have site := follows.at (net.streams (seat.edge k))
  have member : state.manager.switches.contains
      (switch.site (net.streams (seat.edge k))).id = true := by
    rw [registry, site.number]
    exact sane.fabric.registered_edge hs.within.1 hs.within.2.1
  obtain ⟨state', resolved, table, directory, raised⟩ :=
    destinationPmac_unknown seat.ip seat.pmac member effects.directory (site.number ▸ rolled) unknown
  have verdict : switch.judge (net.streams (seat.edge k)) net.manager (.lower seat.place.port)
      ((Letter.question asked).frame seat.amac seat.ip .broadcast) =
        (.error .unresolved, state') := by
    rw [follows.judge_edge_below, Edge.fromBelow, Letter.ips_frame, Letter.src_frame]
    simp only [sourced, Letter.dst, resolved]
    rfl
  have effects' : Effects k net (seat.edge k) switch (some seat) state'.table state'.manager :=
    ⟨directory, (congrArg (Switch.Memory.mk · switch.inbox) table).trans effects.memory, effects.own⟩
  obtain ⟨net', done, changed⟩ := deliver_error here (follows.lowerPort hs.within.2.2)
    (broadcast_ne_address switch) verdict effects'
  have recipients := sane.fabric.floodRecipients registry hs.within.1 hs.within.2.1
  rw [raised, calm, List.nil_append, site.number, Seat.edge, recipients, List.map_map] at changed
  exact ⟨some seat, net.hostAt?, _, net', done, changed, .miss hs unknown⟩

/-- A question of a host is for a seat that is then known, or misses. -/
theorem deliver_asking {asked : Ipv4Address} (sane : Sane k net) (hs : Sits k net.ground seat) :
    ∃ who hosts events net',
      net.deliver (.frame (seat.uplink k)
        ((Letter.question asked).frame seat.amac seat.ip .broadcast)) = (.ok (), net') ∧
      Changed k net net' who hosts events ∧
      Reaction k net (.frame (seat.uplink k)
        ((Letter.question asked).frame seat.amac seat.ip .broadcast)) who hosts events := by
  cases found : (enrolled net.manager.directory seat)[asked]? with
  | none => exact deliver_miss sane hs found
  | some pmac =>
    have listed := found
    rw [getElem?_enrolled] at found
    split at found
    · rename_i own
      subst own
      exact deliver_enter sane hs hs (registered_enrolled _ seat) rfl broadcast_ne_address
    · obtain ⟨dest, hd, rfl, rfl⟩ := sane.directory found
      exact deliver_enter sane hs hd listed rfl broadcast_ne_address

end Enter

/-! ## Floods -/

section Flood

variable {k : Nat} {net : Network} {seat : Seat} {asked : Ipv4Address}

/-- Only what is in the range matters. -/
theorem filterMap_range_congr {α : Type} {f g : Nat → Option α} {n : Nat}
    (same : ∀ i, i < n → f i = g i) : (List.range n).filterMap f = (List.range n).filterMap g := by
  induction n with
  | zero => rfl
  | succ n ih =>
    rw [List.range_succ, List.filterMap_append, List.filterMap_append,
      ih fun i hi => same i (Nat.lt_succ_of_lt hi), List.filterMap_cons, List.filterMap_cons,
      same n (Nat.lt_succ_self n)]
    rfl

/-- A question that spreads is a broadcast. -/
theorem isBroadcast_flooded (seat : Seat) (asked : Ipv4Address) :
    (flooded seat asked).dst.isBroadcast = true :=
  decide_eq_true rfl

/-- The events of a flood by a switch whose lower ports are all linked. -/
theorem filterMap_floodLower {switch : Switch} {id : DeviceId} {site : Site} {n : Nat}
    {frame : Frame} {line : Nat → Endpoint} (here : net.switchAt? id = some switch)
    (lower : site.numLower = n)
    (linked : ∀ i, i < n → net.ground.peer? ⟨id, .lower i⟩ = some (line i)) :
    (site.floodLower frame).filterMap switch.sent? =
      (List.range n).map fun i => .frame (line i) frame := by
  rw [Site.floodLower, lower, List.filterMap_map, ← List.filterMap_eq_map]
  exact filterMap_range_congr fun i hi => Network.sent?_of_peer? here (linked i hi) frame

/-- **An order to flood is carried out by its core switch**, which sends the question to all
pods. -/
theorem deliver_order {c : Nat} (sane : Sane k net) (hs : Sits k net.ground seat)
    (known : Registered net.manager.directory seat) (hc : c < k / 2 * (k / 2)) :
    ∃ events net',
      net.deliver (.control (coreId k c) (.arpFlood asked seat.ip seat.pmac)) = (.ok (), net') ∧
      Changed k net net' none net.hostAt? events ∧
      Reaction k net (.control (coreId k c) (.arpFlood asked seat.ip seat.pmac)) none net.hostAt?
        events := by
  obtain ⟨a, i, ha, hi, rfl⟩ := Fabric.exists_coreIndex hc
  obtain ⟨switch, here, follows⟩ := sane.fabric.core hc
  have verdict : Policy.onMessage switch.tier (switch.site (net.streams (coreId k (a * (k / 2) + i))))
      (.arpFlood asked seat.ip seat.pmac) =
        .ok ((switch.site (net.streams (coreId k (a * (k / 2) + i)))).floodLower
          (flooded seat asked)) := by
    rw [follows.tier]
    rfl
  obtain ⟨net', done, changed⟩ := deliver_message (k := k) here verdict
  rw [filterMap_floodLower here (follows.at _).lower fun pod hp =>
    sane.fabric.core_down hp ha hi] at changed
  exact ⟨_, net', done, changed, .order hs known ha hi⟩

/-- A copy of a flooded question goes down from every switch that it reaches. -/
theorem deliver_spreading {target : Endpoint} (sane : Sane k net) (hs : Sits k net.ground seat)
    (known : Registered net.manager.directory seat) (spread : Spread k net.ground target) :
    ∃ hosts events net', net.deliver (.frame target (flooded seat asked)) = (.ok (), net') ∧
      Changed k net net' none hosts events ∧
      Reaction k net (.frame target (flooded seat asked)) none hosts events := by
  cases spread with
  | @pod pod a i hp ha hi =>
    obtain ⟨switch, here, follows⟩ := sane.fabric.aggregation hp ha
    have verdict := follows.judge_aggregation_above (net.streams (aggregationId k pod a)) net.manager
      (flooded seat asked) i
    rw [Transit.fromAbove, if_pos (isBroadcast_flooded seat asked)] at verdict
    obtain ⟨net', done, changed⟩ := deliver_ok (k := k) here (follows.upperPort hi)
      (broadcast_ne_address switch) verdict (effects_none switch)
    rw [filterMap_floodLower here (follows.at _).lower fun e he =>
      sane.fabric.aggregation_down hp ha he] at changed
    exact ⟨_, _, net', done, changed, .fan hs known hp ha hi⟩
  | @edge pod e j hp he hj =>
    obtain ⟨switch, here, follows⟩ := sane.fabric.edge hp he
    have verdict := follows.judge_edge_above (net.streams (edgeId k pod e)) net.manager
      (flooded seat asked) j
    rw [Edge.fromAbove, if_pos (isBroadcast_flooded seat asked)] at verdict
    obtain ⟨net', done, changed⟩ := deliver_ok (k := k) here (follows.upperPort hj)
      (broadcast_ne_address switch) verdict (effects_none switch)
    have copies : ((switch.site (net.streams (edgeId k pod e))).floodLower
        (flooded seat asked)).filterMap switch.sent? =
          (List.range (k / 2)).filterMap fun i =>
            (net.ground.peer? ⟨edgeId k pod e, .lower i⟩).map fun line =>
              .frame line (flooded seat asked) := by
      rw [Site.floodLower, (follows.at _).lower, List.filterMap_map]
      apply filterMap_range_congr
      intro i _
      rw [Network.peer?_of_switchAt? here]
      rfl
    rw [copies] at changed
    exact ⟨_, _, net', done, changed, .offer hs known hp he hj⟩
  | host hd =>
    exact deliver_flooded_host hs hd known

end Flood

/-! ## All sound events -/

/-- **Every sound event is handled without an error, and has a reaction.** -/
theorem deliver_of_sound {k : Nat} {net : Network} {event : Event} (sane : Sane k net)
    (sound : Sound k net.ground net.manager.directory event) :
    ∃ who hosts events net', net.deliver event = (.ok (), net') ∧
      Changed k net net' who hosts events ∧ Reaction k net event who hosts events := by
  cases sound with
  | @addressed seat dest letter hs hd known bound =>
    exact deliver_enter sane hs hd (known.enrol sane.directory sane.housed hs) bound
      (pmac_ne_address dest)
  | asking hs => exact deliver_asking sane hs
  | @carried seat dest letter n target hs hd known known' bound way =>
    cases n with
    | zero =>
      cases way
      obtain ⟨hosts, events, net', done, changed, reaction⟩ :=
        deliver_carried_host hs hd known known' bound
      exact ⟨none, hosts, events, net', done, changed, reaction⟩
    | succ n =>
      obtain ⟨events, net', done, changed, reaction⟩ :=
        deliver_hop sane hs hd known known' bound way
      exact ⟨none, _, events, net', done, changed, reaction⟩
  | ordered hs known hc =>
    obtain ⟨events, net', done, changed, reaction⟩ := deliver_order sane hs known hc
    exact ⟨none, _, events, net', done, changed, reaction⟩
  | spreading hs known spread =>
    obtain ⟨hosts, events, net', done, changed, reaction⟩ := deliver_spreading sane hs known spread
    exact ⟨none, hosts, events, net', done, changed, reaction⟩

end PmacFabric.FatTree
