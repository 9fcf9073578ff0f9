import PmacFabric.Proofs.Device.Gauge
import PmacFabric.Proofs.FatTree.Delivery
import PmacFabric.Proofs.Forwarding.Likeness

/-!
# Interchangeable switches

Two runs may lead a frame through different aggregation and core switches, but always past the same
stops. `Event.sight` is what can be said about an event without knowing the choices made: the stop
and the frame. Switches at which frames of one sight wait are **twins**: they are kin, and like ports
of theirs lead to the same stop. `Twins.receive` and `Twins.receiveMessage` say that twins answer with
events of the same sights and count the same.
-/

namespace PmacFabric

namespace FatTree

open Network (Ground)

/-! ## Sights -/

/-- What is left of an event when the choices made on the way to it are forgotten. -/
inductive Sight where
  | frame (stop : Stop) (frame : Frame)
  | control (target : DeviceId) (message : ControlMessage)
deriving DecidableEq

def sight (k : Nat) : Event → Sight
  | .frame target frame => .frame (.ofEndpoint k target) frame
  | .control target message => .control target message

/-- Where a frame of a sound event waits: its stop, and a link end there. -/
inductive Waits (k : Nat) (ground : Ground) : Stop → Endpoint → Prop where
  | edgeLower {pod e i : Nat} : pod < k → e < k / 2 → i < k / 2 →
      Waits k ground (.edgeLower pod e i) ⟨edgeId k pod e, .lower i⟩
  | edgeUpper {pod e j : Nat} : pod < k → e < k / 2 → j < k / 2 →
      Waits k ground (.edgeUpper pod e) ⟨edgeId k pod e, .upper j⟩
  | aggregationLower {pod a e : Nat} : pod < k → a < k / 2 → e < k / 2 →
      Waits k ground (.aggregationLower pod e) ⟨aggregationId k pod a, .lower e⟩
  | aggregationUpper {pod a i : Nat} : pod < k → a < k / 2 → i < k / 2 →
      Waits k ground (.aggregationUpper pod) ⟨aggregationId k pod a, .upper i⟩
  | core {c pod : Nat} : c < k / 2 * (k / 2) → pod < k →
      Waits k ground (.core pod) ⟨coreId k c, .lower pod⟩
  | host {seat : Seat} : Sits k ground seat → Waits k ground (.host seat.id) seat.line

/-- The stop of a frame that waits is read from its link end. -/
theorem Waits.stop {k : Nat} {ground : Ground} {stop : Stop} {target : Endpoint}
    (waits : Waits k ground stop target) : Stop.ofEndpoint k target = stop := by
  cases waits with
  | edgeLower hp he hi => exact Stop.ofEndpoint_edge hp he _
  | edgeUpper hp he hj => exact Stop.ofEndpoint_edge hp he _
  | aggregationLower hp ha he => exact Stop.ofEndpoint_aggregation hp ha _
  | aggregationUpper hp ha hi => exact Stop.ofEndpoint_aggregation hp ha _
  | core hc hp => exact Stop.ofEndpoint_core hc _
  | host sits => exact Stop.ofEndpoint_host sits.beyond _

/-- Only hosts wait at the stop of a host. -/
theorem Waits.of_host {k : Nat} {ground : Ground} {id : DeviceId} {target : Endpoint}
    (waits : Waits k ground (.host id) target) :
    target.device = id ∧ ∃ card, ground.card id = some card := by
  generalize own : Stop.host id = stop at waits
  cases waits with
  | host sits =>
    cases own
    exact ⟨rfl, _, sits.card⟩
  | _ => cases own

/-- **A sound frame waits at one of the stops.** At a switch it is for somebody else. -/
theorem Sound.waits {k : Nat} {ground : Ground} {directory : Directory} {target : Endpoint}
    {frame : Frame} (sound : Sound k ground directory (.frame target frame)) :
    ∃ stop, Waits k ground stop target ∧
      ((∃ id, stop = .host id) ∨ ∀ switch : Switch, frame.dst ≠ switch.address) := by
  cases sound with
  | @addressed seat dest _ hs hd =>
    obtain ⟨hp, he, hi⟩ := hs.within
    exact ⟨_, .edgeLower hp he hi, .inr (pmac_ne_address dest)⟩
  | asking hs =>
    obtain ⟨hp, he, hi⟩ := hs.within
    exact ⟨_, .edgeLower hp he hi, .inr broadcast_ne_address⟩
  | @carried seat dest _ _ _ hs hd _ _ _ way =>
    obtain ⟨hp, he, _⟩ := hs.within
    obtain ⟨hp', he', _⟩ := hd.within
    have other := pmac_ne_address dest
    cases way with
    | arrived => exact ⟨_, .host hd, .inl ⟨_, rfl⟩⟩
    | landing hj _ => exact ⟨_, .edgeUpper hp' he' hj, .inr other⟩
    | turning ha _ _ => exact ⟨_, .aggregationLower hp' ha he, .inr other⟩
    | descending ha hi _ => exact ⟨_, .aggregationUpper hp' ha hi, .inr other⟩
    | crossing ha hi _ => exact ⟨_, .core (coreIndex_lt ha hi) hp, .inr other⟩
    | climbing ha _ => exact ⟨_, .aggregationLower hp ha he, .inr other⟩
  | spreading _ _ spread =>
    cases spread with
    | pod hp ha hi => exact ⟨_, .aggregationUpper hp ha hi, .inr broadcast_ne_address⟩
    | edge hp he hj => exact ⟨_, .edgeUpper hp he hj, .inr broadcast_ne_address⟩
    | host hd => exact ⟨_, .host hd, .inl ⟨_, rfl⟩⟩

/-! ## Twins -/

/-- Like ports of two switches lead to the same stop. -/
def Facing (k : Nat) (switch switch' : Switch) : Prop :=
  ∀ port port', Port.Alike port port' → (switch.port? port).isSome →
    (switch'.port? port').isSome →
    (switch.peer? port).map (Stop.ofEndpoint k) = (switch'.peer? port').map (Stop.ofEndpoint k)

section Facing

variable {k : Nat} {switch switch' : Switch} {port port' : Port}

/-- Frames that facing switches send through like ports are of one sight. -/
theorem Facing.sent (facing : Facing k switch switch') (ports : port.Alike port')
    (here : (switch.port? port).isSome) (here' : (switch'.port? port').isSome) (frame : Frame) :
    (switch.sent? (port, frame)).map (sight k) = (switch'.sent? (port', frame)).map (sight k) := by
  have same := congrArg (Option.map fun stop => Sight.frame stop frame) (facing _ _ ports here here')
  simp only [Option.map_map] at same
  simp only [Switch.sent?, Option.map_map]
  exact same

/-- Frames that facing switches send through like ports count the same. -/
theorem Facing.outputGain (facing : Facing k switch switch') (ports : port.Alike port')
    (here : (switch.port? port).isSome) (here' : (switch'.port? port').isSome) (frame : Frame)
    (gauge : Switch.Gauge) :
    switch.outputGain (port, frame) gauge = switch'.outputGain (port', frame) gauge := by
  have linked := congrArg Option.isSome (facing _ _ ports here here')
  rw [Option.isSome_map, Option.isSome_map] at linked
  have lower : port.lower? = port'.lower? := by cases ports <;> rfl
  simp only [Switch.outputGain, here, here', if_true, linked, lower]

/-- The sight of the only event of a verdict that sends one frame. -/
theorem map_sight_single (k : Nat) (switch : Switch) (out : Port × Frame) :
    (switch.verdictEvents (.ok [out])).map (sight k) =
      ((switch.sent? out).map (sight k)).toList := by
  simp only [Switch.verdictEvents, List.filterMap_cons, List.filterMap_nil]
  cases switch.sent? out <;> rfl

/-- **Alike verdicts lead to events of the same sights, and count the same.** -/
theorem Facing.verdict (facing : Facing k switch switch') {stream stream' : Choice.Stream}
    (lower : switch'.numLower = switch.numLower) {verdict verdict' : Verdict}
    (alike : Verdict.Alike (switch.site stream) (switch'.site stream') verdict verdict') :
    (switch'.verdictEvents verdict').map (sight k) = (switch.verdictEvents verdict).map (sight k) ∧
      ∀ gauge, switch'.verdictGain verdict' gauge = switch.verdictGain verdict gauge := by
  have single : ∀ {port port' : Port} (frame : Frame), port.Alike port' →
      (switch.port? port).isSome → (switch'.port? port').isSome →
      (switch'.verdictEvents (.ok [(port', frame)])).map (sight k) =
          (switch.verdictEvents (.ok [(port, frame)])).map (sight k) ∧
        ∀ gauge, switch'.verdictGain (.ok [(port', frame)]) gauge =
          switch.verdictGain (.ok [(port, frame)]) gauge := by
    intro port port' frame ports here here'
    refine ⟨?_, ?_⟩
    · rw [map_sight_single, map_sight_single, facing.sent ports here here' frame]
    · intro gauge
      simp only [Switch.verdictGain, totalOf_cons, totalOf_nil,
        facing.outputGain ports here here' frame gauge]
  cases alike with
  | dropped reason => exact ⟨rfl, fun gauge => rfl⟩
  | nothing => exact ⟨rfl, fun gauge => rfl⟩
  | @lower i frame hi hi' =>
    exact single frame (.lower i) ((switch.isSome_port?_lower i).mpr hi)
      ((switch'.isSome_port?_lower i).mpr hi')
  | @upper j j' frame hj hj' =>
    exact single frame (.upper j j') ((switch.isSome_port?_upper j).mpr hj)
      ((switch'.isSome_port?_upper j').mpr hj')
  | flooded frame =>
    have ports : ∀ i, i < switch.numLower →
        (switch.port? (.lower i)).isSome ∧ (switch'.port? (.lower i)).isSome := fun i hi =>
      ⟨(switch.isSome_port?_lower i).mpr hi, (switch'.isSome_port?_lower i).mpr (lower ▸ hi)⟩
    have number : (switch.site stream).numLower = switch.numLower := rfl
    have number' : (switch'.site stream').numLower = switch.numLower := lower
    simp only [Switch.verdictEvents, Switch.verdictGain, Site.floodLower, number, number']
    constructor
    · simp only [List.filterMap_map, List.map_filterMap]
      apply filterMap_range_congr
      intro i hi
      exact (facing.sent (.lower i) (ports i hi).1 (ports i hi).2 frame).symm
    · intro gauge
      simp only [totalOf_map]
      apply totalOf_congr
      intro i mem
      obtain ⟨here, here'⟩ := ports i (List.mem_range.mp mem)
      exact (facing.outputGain (.lower i) here here' frame gauge).symm

end Facing

/-- Outcomes that cannot be told apart from outside. -/
structure Abreast (k : Nat) (switch switch' : Switch) (outcome outcome' : Switch.Outcome) :
    Prop where
  outline : outcome.switch.outline = switch.outline
  outline' : outcome'.switch.outline = switch'.outline
  table : switch.tier = .edge → outcome'.switch.table = outcome.switch.table
  manager : outcome'.manager = outcome.manager
  events : outcome'.events.map (sight k) = outcome.events.map (sight k)
  gains : ∃ gain : Switch.Gauge → Nat, ∀ gauge,
    outcome.switch.reading gauge = switch.reading gauge + gain gauge ∧
      outcome'.switch.reading gauge = switch'.reading gauge + gain gauge

/-- Switches that answer alike, in two networks: they are kin, and their ports face alike. -/
structure Twins (k : Nat) (switch switch' : Switch) : Prop where
  kin : switch.Kin switch'
  facing : Facing k switch switch'

section Twins

variable {k : Nat} {switch switch' : Switch}

/-- Twins have equally many lower ports. -/
theorem Twins.numLower (twins : Twins k switch switch') : switch'.numLower = switch.numLower :=
  (twins.kin.site (fun _ => 0) fun _ => 0).lower

/-- **Twins handle a frame alike.** -/
theorem Twins.receive (twins : Twins k switch switch') (stream stream' : Choice.Stream)
    (manager : FabricManager) {port port' : Port} (ports : port.Alike port')
    (here : (switch.port? port).isSome) (here' : (switch'.port? port').isSome) {frame : Frame}
    (other : ∀ switch : Switch, frame.dst ≠ switch.address) :
    Abreast k switch switch' (switch.receive stream manager port frame)
      (switch'.receive stream' manager port' frame) := by
  have handled := @Switch.receive_handled switch stream manager port frame here (other switch)
  have handled' := @Switch.receive_handled switch' stream' manager port' frame here' (other switch')
  have decided := twins.kin.judge stream stream' manager ports frame
  obtain ⟨events, gains⟩ := twins.facing.verdict twins.numLower decided.verdict
  have lower : port'.lower? = port.lower? := by cases ports <;> rfl
  refine ⟨handled.outline, handled'.outline, ?_, ?_, ?_,
    fun gauge => Switch.arrivalGain port.lower? frame gauge +
      switch.verdictGain (switch.judge stream manager port frame).1 gauge, fun gauge => ⟨?_, ?_⟩⟩
  · intro edge
    rw [handled.table, handled'.table]
    exact decided.state.table edge
  · rw [handled.manager, handled'.manager]
    exact decided.state.manager
  · rw [handled.events, handled'.events, List.map_append, List.map_append, decided.state.raised,
      events]
  · exact Switch.reading_receive here (other switch) gauge
  · rw [Switch.reading_receive here' (other switch') gauge, lower, gains]

/-- **Twins handle a message alike.** -/
theorem Twins.receiveMessage (twins : Twins k switch switch') (stream stream' : Choice.Stream)
    (manager : FabricManager) (message : ControlMessage) :
    Abreast k switch switch' (switch.receiveMessage stream manager message)
      (switch'.receiveMessage stream' manager message) := by
  have handled := switch.receiveMessage_handled stream manager message
  have handled' := switch'.receiveMessage_handled stream' manager message
  have verdicts := twins.kin.onMessage stream stream' message
  obtain ⟨events, gains⟩ := twins.facing.verdict twins.numLower verdicts
  refine ⟨handled.outline, handled'.outline, ?_, ?_, ?_,
    switch.verdictGain (Policy.onMessage switch.tier (switch.site stream) message),
    fun gauge => ⟨?_, ?_⟩⟩
  · intro edge
    rw [handled.table, handled'.table]
    exact twins.kin.table edge
  · rw [handled.manager, handled'.manager]
  · rw [handled.events, handled'.events, events]
  · exact switch.reading_receiveMessage stream manager message gauge
  · rw [switch'.reading_receiveMessage stream' manager message gauge, gains]

end Twins

/-! ## Twins in a fabric -/

/-- Switches that follow plans of one tier and pod are kin. -/
theorem Follows.kin {switch switch' : Switch} {id id' : DeviceId} {plan plan' : SwitchPlan}
    (follows : Follows switch id plan) (follows' : Follows switch' id' plan')
    (tier : plan'.identity.tier = plan.identity.tier) (pod : plan'.identity.pod = plan.identity.pod)
    (lower : plan'.numLower = plan.numLower) (upper : plan'.numUpper = plan.numUpper)
    (edge : plan.identity.tier = .edge →
      id' = id ∧ plan'.identity = plan.identity ∧ switch'.table = switch.table) :
    switch.Kin switch' := by
  have own := follows.identity
  have own' := follows'.identity
  refine ⟨fun stream stream' => ⟨?_, ?_, ?_, ?_, ?_⟩, ?_⟩
  · show switch'.identity.tier = switch.identity.tier
    rw [own, own', tier]
  · show switch'.identity.pod = switch.identity.pod
    rw [own, own', pod]
  · exact follows'.lower.trans (lower.trans follows.lower.symm)
  · exact follows'.upper.trans (upper.trans follows.upper.symm)
  · intro tier
    have tier : switch.identity.tier = .edge := tier
    obtain ⟨number, identity, -⟩ := edge (own ▸ tier)
    exact ⟨follows'.number.trans (number.trans follows.number.symm),
      own'.trans (identity.trans own.symm)⟩
  · intro tier
    have tier : switch.identity.tier = .edge := tier
    exact (edge (own ▸ tier)).2.2

section Fabric

variable {k : Nat} {net net' : Network}

/-- Two networks with one ground, whose edge switches have the same tables. -/
structure Paired (net net' : Network) : Prop where
  ground : net'.ground = net.ground
  tables : ∀ {id switch switch'}, net.switchAt? id = some switch →
    net'.switchAt? id = some switch' → switch.tier = .edge → switch'.table = switch.table

/-- A lower port that a switch has is one of its plan. -/
theorem Follows.lt_lower {switch : Switch} {id : DeviceId} {plan : SwitchPlan} {i : Nat}
    (follows : Follows switch id plan) (here : (switch.port? (.lower i)).isSome) :
    i < plan.numLower :=
  follows.lower ▸ (switch.isSome_port?_lower i).mp here

/-- An upper port that a switch has is one of its plan. -/
theorem Follows.lt_upper {switch : Switch} {id : DeviceId} {plan : SwitchPlan} {j : Nat}
    (follows : Follows switch id plan) (here : (switch.port? (.upper j)).isSome) :
    j < plan.numUpper :=
  follows.upper ▸ (switch.isSome_port?_upper j).mp here

/-- Twins at two numbers, with the plans that they follow. -/
def TwinsAt (k : Nat) (net net' : Network) (id id' : DeviceId) (plan plan' : SwitchPlan) : Prop :=
  ∃ switch switch', net.switchAt? id = some switch ∧ net'.switchAt? id' = some switch' ∧
    Follows switch id plan ∧ Follows switch' id' plan' ∧ Twins k switch switch'

/-- An edge switch is the twin of itself in another run. -/
theorem Paired.twins_edge (paired : Paired net net') (fabric : Fabric k net.ground) {pod e : Nat}
    (hp : pod < k) (he : e < k / 2) :
    TwinsAt k net net' (edgeId k pod e) (edgeId k pod e) (edgePlan k pod e) (edgePlan k pod e) := by
  have fabric' : Fabric k net'.ground := paired.ground ▸ fabric
  obtain ⟨switch, here, follows⟩ := fabric.edge hp he
  obtain ⟨switch', here', follows'⟩ := fabric'.edge hp he
  have tier : switch.tier = .edge := congrArg SwitchIdentity.tier follows.identity
  have kin := follows.kin follows' rfl rfl rfl rfl fun _ =>
    ⟨rfl, rfl, paired.tables here here' tier⟩
  refine ⟨switch, switch', here, here', follows, follows', kin, ?_⟩
  intro port port' ports has has'
  rw [← Network.peer?_of_switchAt? here, ← Network.peer?_of_switchAt? here', paired.ground]
  cases ports with
  | lower i => rfl
  | upper j j' =>
    have hj := follows.lt_upper has
    have hj' := follows'.lt_upper has'
    rw [fabric.edge_up hp he hj, fabric.edge_up hp he hj', Option.map_some, Option.map_some,
      Stop.ofEndpoint_aggregation hp hj, Stop.ofEndpoint_aggregation hp hj']

/-- The aggregation switches of a pod are twins. -/
theorem Paired.twins_aggregation (paired : Paired net net') (fabric : Fabric k net.ground)
    {pod a a' : Nat} (hp : pod < k) (ha : a < k / 2) (ha' : a' < k / 2) :
    TwinsAt k net net' (aggregationId k pod a) (aggregationId k pod a') (aggregationPlan k pod a)
      (aggregationPlan k pod a') := by
  have fabric' : Fabric k net'.ground := paired.ground ▸ fabric
  obtain ⟨switch, here, follows⟩ := fabric.aggregation hp ha
  obtain ⟨switch', here', follows'⟩ := fabric'.aggregation hp ha'
  have kin := follows.kin follows' rfl rfl rfl rfl nofun
  refine ⟨switch, switch', here, here', follows, follows', kin, ?_⟩
  intro port port' ports has has'
  rw [← Network.peer?_of_switchAt? here, ← Network.peer?_of_switchAt? here', paired.ground]
  cases ports with
  | lower e =>
    have he := follows.lt_lower has
    rw [fabric.aggregation_down hp ha he, fabric.aggregation_down hp ha' he, Option.map_some,
      Option.map_some, Stop.ofEndpoint_edge hp he, Stop.ofEndpoint_edge hp he]
  | upper i i' =>
    have hi := follows.lt_upper has
    have hi' := follows'.lt_upper has'
    rw [fabric.aggregation_up hp ha hi, fabric.aggregation_up hp ha' hi', Option.map_some,
      Option.map_some, Stop.ofEndpoint_core (coreIndex_lt ha hi),
      Stop.ofEndpoint_core (coreIndex_lt ha' hi')]

/-- The core switches are twins. -/
theorem Paired.twins_core (paired : Paired net net') (fabric : Fabric k net.ground) {c c' : Nat}
    (hc : c < k / 2 * (k / 2)) (hc' : c' < k / 2 * (k / 2)) :
    TwinsAt k net net' (coreId k c) (coreId k c') (corePlan k c) (corePlan k c') := by
  have fabric' : Fabric k net'.ground := paired.ground ▸ fabric
  obtain ⟨switch, here, follows⟩ := fabric.core hc
  obtain ⟨switch', here', follows'⟩ := fabric'.core hc'
  have kin := follows.kin follows' rfl rfl rfl rfl nofun
  refine ⟨switch, switch', here, here', follows, follows', kin, ?_⟩
  intro port port' ports has has'
  rw [← Network.peer?_of_switchAt? here, ← Network.peer?_of_switchAt? here', paired.ground]
  cases ports with
  | lower pod =>
    have hp : pod < k := follows.lt_lower has
    obtain ⟨a, i, ha, hi, rfl⟩ := Fabric.exists_coreIndex hc
    obtain ⟨a', i', ha', hi', rfl⟩ := Fabric.exists_coreIndex hc'
    rw [fabric.core_down hp ha hi, fabric.core_down hp ha' hi', Option.map_some, Option.map_some,
      Stop.ofEndpoint_aggregation hp ha, Stop.ofEndpoint_aggregation hp ha']
  | upper j j' => exact absurd (follows.lt_upper has) (Nat.not_lt_zero j)

/-- **Frames of one sight wait at like ports of twins**, if they do not wait at a host. -/
theorem Paired.twins (paired : Paired net net') (fabric : Fabric k net.ground) {stop : Stop}
    {target target' : Endpoint} (waits : Waits k net.ground stop target)
    (waits' : Waits k net.ground stop target') (inside : ∀ id, stop ≠ .host id) :
    ∃ switch switch', net.switchAt? target.device = some switch ∧
      net'.switchAt? target'.device = some switch' ∧ Twins k switch switch' ∧
      target.port.Alike target'.port ∧ (switch.port? target.port).isSome ∧
      (switch'.port? target'.port).isSome := by
  cases waits with
  | edgeLower hp he hi =>
    cases waits'
    obtain ⟨switch, switch', here, here', follows, follows', twins⟩ :=
      paired.twins_edge fabric hp he
    exact ⟨switch, switch', here, here', twins, .lower _, follows.lowerPort hi,
      follows'.lowerPort hi⟩
  | edgeUpper hp he hj =>
    cases waits' with
    | edgeUpper _ _ hj' =>
      obtain ⟨switch, switch', here, here', follows, follows', twins⟩ :=
        paired.twins_edge fabric hp he
      exact ⟨switch, switch', here, here', twins, .upper _ _, follows.upperPort hj,
        follows'.upperPort hj'⟩
  | aggregationLower hp ha he =>
    cases waits' with
    | aggregationLower _ ha' _ =>
      obtain ⟨switch, switch', here, here', follows, follows', twins⟩ :=
        paired.twins_aggregation fabric hp ha ha'
      exact ⟨switch, switch', here, here', twins, .lower _, follows.lowerPort he,
        follows'.lowerPort he⟩
  | aggregationUpper hp ha hi =>
    cases waits' with
    | aggregationUpper _ ha' hi' =>
      obtain ⟨switch, switch', here, here', follows, follows', twins⟩ :=
        paired.twins_aggregation fabric hp ha ha'
      exact ⟨switch, switch', here, here', twins, .upper _ _, follows.upperPort hi,
        follows'.upperPort hi'⟩
  | core hc hp =>
    cases waits' with
    | core hc' _ =>
      obtain ⟨switch, switch', here, here', follows, follows', twins⟩ :=
        paired.twins_core fabric hc hc'
      exact ⟨switch, switch', here, here', twins, .lower _, follows.lowerPort hp,
        follows'.lowerPort hp⟩
  | host => exact absurd rfl (inside _)

end Fabric

end FatTree

end PmacFabric
