import PmacFabric.Proofs.Device.Gauge
import PmacFabric.Proofs.FatTree.Delivery
import PmacFabric.Proofs.FatTree.Reached
import PmacFabric.Proofs.Network.Wired

/-!
# Every way leads to the right edge

Between two edge switches a frame only meets switches that forward by position. `Network.Relays` says
what such a switch does with it: it passes the frame to the next link end and nothing else happens.
It goes up to a core switch if it has to (`relays_up`), across to the pod of its destination
(`relays_across`) and down to the edge switch (`relays_down`). The hops depend on nothing but the
plan: not on who is registered, not on the payload, and not on what else has been built.

**`all_ways_lead_to_edge`** puts them together for all frames, all pairs of edge switches and all
ports that a frame can take on its way up.
-/

namespace PmacFabric

/-! ## Passing a frame on -/

/-- What a switch learns, keeps and loses. -/
def Switch.kept (switch : Switch) : PmacTable × Array Frame × DropCounts :=
  (switch.table, switch.inbox, switch.drops)

namespace Network

/-- A switch above the edge handles a frame at a link end by passing it, as it is, along a link to
the next one, whatever else waits. Otherwise nothing happens: no device learns, keeps or drops
anything. -/
structure Relays (net : Network) (frame : Frame) (here next : Endpoint) : Prop where
  above : ∃ switch, net.getSwitch here.device = .ok switch ∧ switch.tier ≠ .edge
  linked : ∃ port, net.ground.peer? ⟨here.device, port⟩ = some next
  passes : ∀ queue handled trace, ∃ after,
    deliver { net with queue, handled, trace } (.frame here frame) = (.ok (), after) ∧
      after.queue.toList = queue.toList ++ [.frame next frame] ∧
      after.manager = net.manager ∧ (∀ id, after.hostAt? id = net.hostAt? id) ∧
      ∀ id, (after.switchAt? id).map Switch.kept = (net.switchAt? id).map Switch.kept

/-- A switch that decides to send a frame to one port, and nothing else, passes it on. -/
theorem relays_of_judge {net : Network} {id : DeviceId} {switch : Switch} {port out : Port}
    {frame : Frame} {next : Endpoint} (here : net.switchAt? id = some switch)
    (above : switch.tier ≠ .edge) (present : (switch.port? port).isSome)
    (other : frame.dst ≠ switch.address)
    (verdict : switch.judge (net.streams id) net.manager port frame =
      (.ok [(out, frame)], FatTree.drew (switch.forwardState net.manager)))
    (linked : net.ground.peer? ⟨id, out⟩ = some next) : net.Relays frame ⟨id, port⟩ next := by
  have handled := Switch.receive_of_ok present other verdict
  have drops : (switch.receive (net.streams id) net.manager port frame).switch.drops =
      switch.drops := by
    refine DropCounts.ext_count fun reason => ?_
    have counted := @Switch.reading_receive switch (net.streams id) net.manager port frame present
      other (.dropped reason)
    have none : switch.verdictGain (.ok [(out, frame)]) (.dropped reason) = 0 := by
      simp only [Switch.verdictGain, totalOf_cons, totalOf_nil, Switch.outputGain,
        Switch.departureGain, Switch.portGain, ite_self]
    rw [verdict, none] at counted
    exact counted
  have raised : (switch.receive (net.streams id) net.manager port frame).events =
      [.frame next frame] := by
    rw [handled.events, List.filterMap_cons, sent?_of_peer? here linked, List.filterMap_nil]
    rfl
  refine ⟨⟨switch, getSwitch_eq_ok_iff.mpr here, above⟩, ⟨out, linked⟩,
    fun queue count trace => ?_⟩
  have here' : switchAt? { net with queue, handled := count, trace } id = some switch := here
  refine ⟨_, deliver_to_switch here' port frame, ?_, handled.manager,
    fun key => hostAt?_setSwitch here' _ key, fun key => ?_⟩
  · rw [← raised]
    exact EventQueue.toList_pushAll _ _
  · have found := switchAt?_setSwitch here'
      (switch.receive (net.streams id) net.manager port frame).switch key
    refine (congrArg _ found).trans ?_
    split
    · rename_i same
      rw [← same, here, Option.map_some, Option.map_some, Switch.kept, handled.table, handled.inbox,
        drops]
      rfl
    · rfl

end Network

namespace FatTree

open Network (Ground)

/-! ## A fabric that is built on -/

/-- A switch goes on following its plan while its build is the same. -/
theorem Follows.of_sameBuild {switch switch' : Switch} {id : DeviceId} {plan : SwitchPlan}
    (follows : Follows switch id plan) (same : switch.outline.SameBuild switch'.outline) :
    Follows switch' id plan := by
  refine ⟨same.id.trans follows.number, same.identity.trans follows.identity, ?_, ?_⟩
  · rw [← follows.lower, ← switch.outline_numLower, ← switch'.outline_numLower]
    exact same.lower
  · rw [← follows.upper, ← switch.outline_numUpper, ← switch'.outline_numUpper]
    exact same.upper

/-- A planned switch follows its plan, whatever is built later. -/
theorem Fabric.follows_later {k : Nat} {net now : Network} (fabric : Fabric k net.ground)
    (grows : net.ground.Grows now.ground) {id : DeviceId} {plan : SwitchPlan}
    (planned : (switchPlans k)[id]? = some plan) :
    ∃ switch, now.switchAt? id = some switch ∧ Follows switch id plan := by
  obtain ⟨before, here, follows⟩ := fabric.switch planned
  obtain ⟨outline, found, same⟩ := grows.outline (Network.ground_outline here)
  obtain ⟨switch, here', rfl⟩ := Option.map_eq_some_iff.mp found
  exact ⟨switch, here', follows.of_sameBuild same⟩

/-! ## Four hops -/

section Hops

variable {k : Nat} {net now : Network} {frame : Frame}

/-- Addresses with the first octet of PMACs are neither broadcast nor those of switches. -/
theorem ne_address_of_reserved (reserved : frame.dst.o0 = 0) (switch : Switch) :
    frame.dst ≠ switch.address := by
  intro same
  have first : frame.dst.o0 = 0x06 := congrArg MacAddress.o0 same
  rw [reserved] at first
  exact absurd first (by decide)

/-- An address that starts with a zero octet is not the broadcast address. -/
theorem not_isBroadcast_of_reserved (reserved : frame.dst.o0 = 0) :
    Pmac.isBroadcast ⟨frame.dst⟩ = false := by
  refine decide_eq_false fun same => ?_
  have first : frame.dst.o0 = 0xff := congrArg MacAddress.o0 same
  rw [reserved] at first
  exact absurd first (by decide)

/-- Up from an aggregation switch of another pod, to some core switch. -/
theorem relays_up (fabric : Fabric k net.ground) (grows : net.ground.Grows now.ground)
    (reserved : frame.dst.o0 = 0) {pod a e : Nat} (hp : pod < k) (ha : a < k / 2) (he : e < k / 2)
    (away : (Pmac.pod ⟨frame.dst⟩).toNat ≠ pod) :
    ∃ i, i < k / 2 ∧ now.Relays frame ⟨aggregationId k pod a, .lower e⟩
      ⟨coreId k (a * (k / 2) + i), .lower pod⟩ := by
  obtain ⟨switch, here, follows⟩ :=
    fabric.follows_later grows (switchPlans_aggregation fabric.even hp ha)
  obtain ⟨i, hi, routed⟩ := route_aggregation_up (switch.forwardState now.manager)
    (follows.at (now.streams (aggregationId k pod a))) fabric.accepted hp away
  refine ⟨i, hi, Network.relays_of_judge here ?_ (follows.lowerPort he)
    (ne_address_of_reserved reserved switch) ?_ (grows.peer (fabric.aggregation_up hp ha hi))⟩
  · rw [follows.tier]
    exact nofun
  · rw [follows.judge_aggregation_below]
    exact forward_of_route rfl routed

/-- Down from a core switch, to the pod of the destination. -/
theorem relays_across (fabric : Fabric k net.ground) (grows : net.ground.Grows now.ground)
    (reserved : frame.dst.o0 = 0) {pod pod' a i : Nat} (hp : pod < k) (hp' : pod' < k)
    (ha : a < k / 2) (hi : i < k / 2) (toward : (Pmac.pod ⟨frame.dst⟩).toNat = pod) :
    now.Relays frame ⟨coreId k (a * (k / 2) + i), .lower pod'⟩
      ⟨aggregationId k pod a, .upper i⟩ := by
  obtain ⟨switch, here, follows⟩ :=
    fabric.follows_later grows (switchPlans_core fabric.even (coreIndex_lt ha hi))
  have routed := route_core (switch.forwardState now.manager)
    (follows.at (now.streams (coreId k (a * (k / 2) + i)))) hp toward
  refine Network.relays_of_judge here ?_ (follows.lowerPort hp')
    (ne_address_of_reserved reserved switch) ?_ (grows.peer (fabric.core_down hp ha hi))
  · rw [follows.tier]
    exact nofun
  · rw [follows.judge_core_below]
    exact forward_of_route rfl routed

/-- Down from an aggregation switch of the destination's pod, wherever the frame has come from, to the
edge switch of the destination. -/
theorem relays_down (fabric : Fabric k net.ground) (grows : net.ground.Grows now.ground)
    (reserved : frame.dst.o0 = 0) {pod a e : Nat} (hp : pod < k) (ha : a < k / 2) (he : e < k / 2)
    {port : Port} (within : port.index < k / 2) (toward : (Pmac.pod ⟨frame.dst⟩).toNat = pod)
    (below : (Pmac.position ⟨frame.dst⟩).toNat = e) :
    now.Relays frame ⟨aggregationId k pod a, port⟩ ⟨edgeId k pod e, .upper a⟩ := by
  obtain ⟨switch, here, follows⟩ :=
    fabric.follows_later grows (switchPlans_aggregation fabric.even hp ha)
  have routed := route_aggregation_down (switch.forwardState now.manager)
    (follows.at (now.streams (aggregationId k pod a))) he toward below
  have above : switch.tier ≠ .edge := by
    rw [follows.tier]
    exact nofun
  have other := ne_address_of_reserved reserved switch
  have linked := grows.peer (fabric.aggregation_down hp ha he)
  cases port with
  | lower i =>
    have verdict := (follows.judge_aggregation_below _ now.manager frame i).trans
      (forward_of_route rfl routed)
    exact Network.relays_of_judge here above (follows.lowerPort within) other verdict linked
  | upper i =>
    have verdict := (follows.judge_aggregation_above _ now.manager frame i).trans
      (fromAbove_of_route rfl (not_isBroadcast_of_reserved reserved) routed)
    exact Network.relays_of_judge here above (follows.upperPort within) other verdict linked

/-- The first hop, from an edge switch. -/
theorem output_up (fabric : Fabric k net.ground) (grows : net.ground.Grows now.ground) (frame : Frame)
    {pod e j : Nat} (hp : pod < k) (he : e < k / 2) (hj : j < k / 2) :
    ∃ switch, now.getSwitch (edgeId k pod e) = .ok switch ∧
      (switch.output (.upper j) frame).1 =
        some (.frame ⟨aggregationId k pod j, .lower e⟩ frame) := by
  obtain ⟨switch, here, -⟩ := fabric.follows_later grows (switchPlans_edge fabric.even hp he)
  refine ⟨switch, Network.getSwitch_eq_ok_iff.mpr here, ?_⟩
  rw [switch.output_event]
  exact Network.sent?_of_peer? here (grows.peer (fabric.edge_up hp he hj)) frame

end Hops

/-! ## All ways -/

/-- Where a frame arrives, hop by hop, on its way from edge switch `e` to edge switch `e'` of a pod by
way of aggregation switch `a`. -/
def stopsWithin (k pod e e' a : Nat) : Nat → Endpoint
  | 1 => ⟨aggregationId k pod a, .lower e⟩
  | _ => ⟨edgeId k pod e', .upper a⟩

/-- Where a frame arrives, hop by hop, on its way from one pod to another by way of the aggregation
switches `a` and their core switch `i`. -/
def stopsBetween (k pod e pod' e' a i : Nat) : Nat → Endpoint
  | 1 => ⟨aggregationId k pod a, .lower e⟩
  | 2 => ⟨coreId k (a * (k / 2) + i), .lower pod⟩
  | 3 => ⟨aggregationId k pod' a, .upper i⟩
  | _ => ⟨edgeId k pod' e', .upper a⟩

/-- What the number of an edge switch means. -/
theorem within_of_edge {tree : FatTree} {pod e : Nat} {id : DeviceId}
    (found : tree.edge pod e = .ok id) :
    pod < tree.k ∧ e < tree.k / 2 ∧ id = edgeId tree.k pod e := by
  unfold edge at found
  split at found
  · rename_i within
    cases found
    exact ⟨within.1, within.2, rfl⟩
  · cases found

/-- A new fat-tree is a fabric. -/
theorem fabric_of_new {k : Nat} {config : FabricConfig} {streams : DeviceId → Choice.Stream}
    {tree : FatTree} (done : FatTree.new k config streams = .ok tree) :
    tree.k = k ∧ Fabric k tree.net.ground := by
  obtain ⟨net, built, fabric, -⟩ := new_ok (accepts_of_new_ok done) config streams
  rw [built] at done
  cases done
  exact ⟨rfl, fabric⟩

/-- **A frame for a PMAC reaches the edge switch that the PMAC names**, from any port by which it left
another edge switch: after two hops in the same pod, and after four otherwise. The switch at each stop
passes it on as it is, in whatever state the network is by then. -/
theorem all_ways_lead_to_edge {k : Nat} {config : FabricConfig} {streams : DeviceId → Choice.Stream}
    {tree : FatTree} (done : FatTree.new k config streams = .ok tree) {p₀ e₀ p e : Nat}
    {source target : DeviceId} (start : tree.edge p₀ e₀ = .ok source)
    (goal : tree.edge p e = .ok target) (apart : source ≠ target) {frame : Frame}
    (reserved : frame.dst.o0 = 0) (pod : (Pmac.pod ⟨frame.dst⟩).toNat = p)
    (position : (Pmac.position ⟨frame.dst⟩).toNat = e) {j : Nat} (up : j < k / 2)
    {states : Nat → Network} (later : ∀ n, tree.net.Leads (states n)) :
    ∃ (stops : Nat → Endpoint) (port : Nat), port < k / 2 ∧
      (∃ switch, (states 0).getSwitch source = .ok switch ∧
        (switch.output (.upper j) frame).1 = some (.frame (stops 1) frame)) ∧
      (∀ n, 1 ≤ n → n < (if p₀ = p then 2 else 4) →
        (states n).Relays frame (stops n) (stops (n + 1))) ∧
      stops (if p₀ = p then 2 else 4) = ⟨target, .upper port⟩ := by
  obtain ⟨rfl, fabric⟩ := fabric_of_new done
  obtain ⟨hp₀, he₀, rfl⟩ := within_of_edge start
  obtain ⟨hp, he, rfl⟩ := within_of_edge goal
  have grows := fun n => (later n).grows
  have first := output_up fabric (grows 0) frame hp₀ he₀ up
  by_cases same : p₀ = p
  · subst same
    rw [if_pos rfl]
    refine ⟨stopsWithin tree.k p₀ e₀ e j, j, up, first, fun n low high => ?_, rfl⟩
    have one : n = 1 := by omega
    subst one
    exact relays_down fabric (grows 1) reserved hp up he he₀ pod position
  · rw [if_neg same]
    have away : (Pmac.pod ⟨frame.dst⟩).toNat ≠ p₀ := fun here => same (here.symm.trans pod)
    obtain ⟨i, hi, climbs⟩ := relays_up fabric (grows 1) reserved hp₀ up he₀ away
    have crosses := relays_across fabric (grows 2) reserved hp hp₀ up hi pod
    have descends : (states 3).Relays frame ⟨aggregationId tree.k p j, .upper i⟩
        ⟨edgeId tree.k p e, .upper j⟩ :=
      relays_down fabric (grows 3) reserved hp up he hi pod position
    refine ⟨stopsBetween tree.k p₀ e₀ p e j i, j, up, first, fun n low high => ?_, rfl⟩
    have hop : n = 1 ∨ n = 2 ∨ n = 3 := by omega
    rcases hop with rfl | rfl | rfl
    · exact climbs
    · exact crosses
    · exact descends

/-- Neither ARP nor IPv4, from nobody, for a port that the other edge switch does not have. -/
def flotsam : Frame := ⟨⟨2, 0, 0, 0, 0, 9⟩, ⟨0, 1, 0, 200, 7, 7⟩, .raw 0x1234 [1, 2, 3]⟩

/-- Even so it gets there, by four hops. -/
theorem flotsam_crosses :
    ∃ (stops : Nat → Endpoint) (port : Nat), port < 1 ∧
      (∃ switch, smallest.net.getSwitch 0 = .ok switch ∧
        (switch.output (.upper 0) flotsam).1 = some (.frame (stops 1) flotsam)) ∧
      (∀ n, 1 ≤ n → n < 4 → smallest.net.Relays flotsam (stops n) (stops (n + 1))) ∧
      stops 4 = ⟨2, .upper port⟩ := by
  have start : smallest.edge 0 0 = .ok 0 := rfl
  have goal : smallest.edge 1 0 = .ok 2 := rfl
  have later : ∀ _ : Nat, smallest.net.Leads smallest.net := fun _ => .refl
  exact all_ways_lead_to_edge new_smallest start goal (by decide) rfl rfl rfl (by decide) later

end FatTree

end PmacFabric
