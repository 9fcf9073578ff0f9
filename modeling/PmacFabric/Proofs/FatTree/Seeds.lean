import PmacFabric.Proofs.FatTree.Lockstep
import PmacFabric.Proofs.FatTree.Reached

/-!
# The choices made are invisible

Which upper ports the switches of a fat-tree choose follows from a seed. `choices_invisible` says
that nothing else does: two fat-trees of one parameter that differ in their seeds and streams give
the same answers to every sequence of operations, and after every operation their hosts, fabric
managers and edge switches are the same; the counters of aggregation switches add up to the same for
each pod, and those of core switches for the whole fat-tree.
-/

namespace PmacFabric

namespace Network

/-! ## Views -/

/-- A host is found by its number; the error says whether a switch has the number. -/
theorem getHost_eq (net : Network) (id : DeviceId) :
    net.getHost id =
      match net.hostAt? id with
      | some host => .ok host
      | none =>
        match net.ground.outline id with
        | some _ => .error (.deviceIsNotAHost id)
        | none => .error (.deviceNotFound id) := by
  have outline : net.ground.outline id = (net.switchAt? id).map Switch.outline := rfl
  rw [outline]
  unfold getHost hostAt? switchAt? getDevice?
  cases net.devices[id]? with
  | none => rfl
  | some device => cases device <;> rfl

/-! ## Building makes no choices -/

/-- The same network under another configuration, with other streams. -/
def reseeded (net : Network) (config : FabricConfig) (streams : DeviceId → Choice.Stream) :
    Network :=
  { net with config, streams }

variable (config : FabricConfig) (streams : DeviceId → Choice.Stream)

/-- The planned switches are the same under every seed. -/
theorem addPlanned_reseeded (plans : List FatTree.SwitchPlan) (net : Network) :
    plans.foldl addPlanned (net.reseeded config streams) =
      (plans.foldl addPlanned net).reseeded config streams := by
  induction plans generalizing net with
  | nil => rfl
  | cons plan rest ih => exact ih (net.addPlanned plan)

/-- Whether a link can be added does not depend on the seed, and neither does what it changes. -/
theorem addLink_reseeded (net : Network) (south north : Endpoint) :
    (net.reseeded config streams).addLink south north =
      ((net.addLink south north).1, (net.addLink south north).2.reseeded config streams) := by
  have same : ∀ net : Network, net.reseeded config streams =
      net.redressed (fun _ => config) (fun _ => streams) id := fun _ => rfl
  rw [same, same, addLink_redressed]

/-- The planned links are the same under every seed. -/
theorem addLinks_reseeded (links : List (Endpoint × Endpoint)) (net : Network) :
    (net.reseeded config streams).addLinks links =
      ((net.addLinks links).1, (net.addLinks links).2.reseeded config streams) := by
  induction links generalizing net with
  | nil => rfl
  | cons link rest ih =>
    obtain ⟨south, north⟩ := link
    unfold addLinks
    rw [addLink_reseeded]
    cases net.addLink south north with
    | mk result linked =>
      cases result with
      | error e => rfl
      | ok _ => exact ih linked

end Network

namespace FatTree

open Network (Ground)

/-- **Configuration and streams enter a new fat-tree unread.** -/
theorem new_reseeded (k : Nat) (config config' : FabricConfig)
    (streams streams' : DeviceId → Choice.Stream) :
    new k config' streams' =
      (new k config streams).map fun tree =>
        { tree with net := tree.net.reseeded config' streams' } := by
  have switches : planned k config' streams' = (planned k config streams).reseeded config' streams' :=
    Network.addPlanned_reseeded config' streams' (switchPlans k) (.empty config streams)
  unfold new
  rw [switches, Network.addLinks_reseeded]
  split
  · rfl
  · cases (planned k config streams).addLinks (edgeLinks k ++ coreLinks k) with
    | mk result net => cases result <;> rfl

/-! ## Operations in lockstep -/

namespace Lockstep

variable {k : Nat} {net net' : Network}

/-- Networks in lockstep have the same hosts. -/
theorem getHost (lock : Lockstep k net net') (id : DeviceId) : net'.getHost id = net.getHost id := by
  rw [net.getHost_eq, net'.getHost_eq, lock.hosts, lock.ground]

/-- What a host posts is processed alike. -/
theorem settle_post (lock : Lockstep k net net') (legit : Legit k net) (legit' : Legit k net')
    {operation : Operation} {id : DeviceId} {host host' : Host} {events : List Event}
    (sender : operation.sender? = some id) (here : net.getHost id = .ok host)
    (posted : hostPost host operation = some (events, host')) :
    ((net'.setHost id host').enqueue events).settle.1 =
        ((net.setHost id host').enqueue events).settle.1 ∧
      Lockstep k ((net.setHost id host').enqueue events).settle.2
        ((net'.setHost id host').enqueue events).settle.2 := by
  have here := Network.getHost_eq_ok_iff.mp here
  have here' : net'.hostAt? id = some host := (lock.hosts id).trans here
  have begun : post net operation = some ((net.setHost id host').enqueue events) := by
    simp only [post, sender, Option.bind_some, here, posted, Option.map_some]
  have begun' : post net' operation = some ((net'.setHost id host').enqueue events) := by
    simp only [post, sender, Option.bind_some, here', posted, Option.map_some]
  exact (lock.setHost here (card_hostPost posted) events).settle (legit.post begun).2
    (legit'.post begun').2

/-- Data sent from either of two networks in lockstep has one result, and they stay in lockstep. -/
theorem send (lock : Lockstep k net net') (legit : Legit k net) (legit' : Legit k net')
    (id : DeviceId) (dst : Ipv4Address) (bytes : Bytes) :
    (net'.send id dst bytes).1 = (net.send id dst bytes).1 ∧
      Lockstep k (net.send id dst bytes).2 (net'.send id dst bytes).2 := by
  unfold Network.send
  rw [lock.getHost]
  cases here : net.getHost id with
  | error e => exact ⟨rfl, lock⟩
  | ok host =>
    dsimp only
    cases sent : host.send dst bytes with
    | error e => exact ⟨rfl, lock⟩
    | ok posted =>
      have sender : (Operation.send id dst bytes).sender? = some id := rfl
      exact lock.settle_post legit legit' sender here (by rw [hostPost, sent]; rfl)

/-- Asking again from either of two networks in lockstep has one result, and they stay in
lockstep. -/
theorem retransmit (lock : Lockstep k net net') (legit : Legit k net) (legit' : Legit k net')
    (id : DeviceId) :
    (net'.retransmit id).1 = (net.retransmit id).1 ∧
      Lockstep k (net.retransmit id).2 (net'.retransmit id).2 := by
  unfold Network.retransmit
  rw [lock.getHost]
  cases here : net.getHost id with
  | error e => exact ⟨rfl, lock⟩
  | ok host =>
    dsimp only
    cases sent : host.retransmit with
    | error e => exact ⟨rfl, lock⟩
    | ok posted =>
      have sender : (Operation.retransmit id).sender? = some id := rfl
      obtain ⟨result, settled⟩ :=
        lock.settle_post legit legit' sender here (by rw [hostPost, sent]; rfl)
      exact ⟨congrArg (Except.map fun _ => posted.1.length) result, settled⟩

/-- One host joins both networks. -/
theorem join (lock : Lockstep k net net') {net₁ net₁' : Network} {seat : Seat}
    (joins : Joins k net net₁ seat) (joins' : Joins k net' net₁' seat) :
    Lockstep k net₁ net₁' := by
  have joined := joins.joined
  have joined' := joins'.joined
  refine ⟨?_, ?_, ?_, ?_, ?_, ?_, ?_, ?_, ?_, ?_⟩
  · have outlines : net₁'.ground.outline = net₁.ground.outline := by
      rw [joined.outline, joined'.outline, lock.ground]
    have cards : net₁'.ground.card = net₁.ground.card := by
      funext id
      rw [joins.card, joins'.card, lock.ground]
    have registry : net₁'.ground.registry = net₁.ground.registry := by
      rw [joined.registry, joined'.registry, lock.ground]
    show Ground.mk _ _ _ = Ground.mk _ _ _
    exact congr (congr (congrArg Ground.mk outlines) cards) registry
  · rw [joined.size, joined'.size, lock.size]
  · rw [joined.traffic.config, joined'.traffic.config, lock.stopAfter]
  · rw [joined.traffic.config, joined'.traffic.config, lock.horizon]
  · rw [joined.traffic.handled, joined'.traffic.handled, lock.handled]
  · rw [joined.manager, joined'.manager, lock.manager]
  · intro id
    rw [joined.hosts, joined'.hosts, lock.hosts]
  · intro id own own' here here' edge
    obtain ⟨switch, before, identity, table, reading⟩ := joined.switchAt? joins.number here
    obtain ⟨switch', before', _, table', reading'⟩ := joined'.switchAt? joins'.number here'
    have edge : switch.tier = .edge := (congrArg SwitchIdentity.tier identity).symm.trans edge
    obtain ⟨tables, readings⟩ := lock.edges id switch switch' before before' edge
    exact ⟨table'.trans (tables.trans table.symm), fun gauge => by
      rw [reading', readings, reading]⟩
  · intro select gauge
    rw [joined.tally joins.number, joined'.tally joins'.number, lock.tallies]
  · rw [joined.traffic.queue, joined'.traffic.queue, lock.queue]

/-- Networks that differ in configuration and streams only. -/
theorem reseeded (k : Nat) (net : Network) {config : FabricConfig}
    (streams : DeviceId → Choice.Stream) (stopAfter : config.stopAfter = net.config.stopAfter)
    (horizon : config.horizon = net.config.horizon) :
    Lockstep k net (net.reseeded config streams) := by
  refine ⟨rfl, rfl, stopAfter, horizon, rfl, rfl, fun _ => rfl, ?_, fun _ _ => rfl, rfl⟩
  intro id switch switch' here here' _
  cases here.symm.trans here'
  exact ⟨rfl, fun _ => rfl⟩

end Lockstep

/-! ## Fat-trees in lockstep -/

/-- Two fat-trees with hosts at the same places, in lockstep. -/
structure Together (tree tree' : FatTree) : Prop where
  k : tree'.k = tree.k
  hostSlots : tree'.hostSlots = tree.hostSlots
  lock : Lockstep tree.k tree.net tree'.net

namespace Together

variable {k : Nat} {log log' : List Ipv4Packet} {tree tree' : FatTree}

/-- Hosts are refused at the same places, for the same reasons. -/
theorem refusal? (together : Together tree tree') (place : Place) :
    FatTree.refusal? tree' place = FatTree.refusal? tree place := by
  unfold FatTree.refusal? FatTree.edge
  rw [together.k, together.hostSlots]

/-- Adding a host to either of two fat-trees in lockstep has one result, and they stay in
lockstep. -/
theorem addHost (together : Together tree tree') (legit : Legit tree.k tree.net)
    (legit' : Legit tree'.k tree'.net) (slotted : Slotted tree) (slotted' : Slotted tree')
    (place : Place) (amac : MacAddress) (ip : Ipv4Address) :
    (tree'.addHost place amac ip).1 = (tree.addHost place amac ip).1 ∧
      Together (tree.addHost place amac ip).2 (tree'.addHost place amac ip).2 := by
  cases refused : FatTree.refusal? tree place with
  | some e =>
    have refused' := (together.refusal? place).trans refused
    rw [addHost_of_refused refused, addHost_of_refused refused']
    exact ⟨rfl, together⟩
  | none =>
    obtain ⟨slot, hslot, free⟩ := free_of_refusal? refused
    have hslot' : place.slot? tree'.k = some slot := together.k ▸ hslot
    have free' : tree'.hostSlots.contains slot = false := together.hostSlots ▸ free
    obtain ⟨after, done, joins⟩ :=
      addHost_of_free legit.fabric legit.housed slotted hslot free amac ip
    obtain ⟨after', done', joins'⟩ :=
      addHost_of_free legit'.fabric legit'.housed slotted' hslot' free' amac ip
    have size : tree'.net.devices.size = tree.net.devices.size := together.lock.size
    rw [together.k, size] at joins'
    rw [done, done', size, together.hostSlots]
    exact ⟨rfl, together.k, rfl, together.lock.join joins joins'⟩

/-- **An operation has one answer in both fat-trees**, and keeps them in lockstep. -/
theorem perform (together : Together tree tree') (reached : Reached k log tree)
    (reached' : Reached k log' tree') (operation : Operation) :
    (tree'.perform operation).1 = (tree.perform operation).1 ∧
      Together (tree.perform operation).2 (tree'.perform operation).2 := by
  obtain ⟨number, legit, slotted⟩ := reached.legit
  obtain ⟨number', legit', slotted'⟩ := reached'.legit
  rw [← number] at legit legit'
  cases operation with
  | addHost place amac ip =>
    have own' : Legit tree'.k tree'.net := by rw [together.k]; exact legit'
    obtain ⟨result, added⟩ := together.addHost legit own' slotted slotted' place amac ip
    exact ⟨congrArg (Except.map Answer.host) result, added⟩
  | send id dst bytes =>
    obtain ⟨result, sent⟩ := together.lock.send legit legit' id dst bytes
    refine ⟨?_, together.k, together.hostSlots, sent⟩
    exact congrArg (fun r => (Except.mapError TopologyError.network r).map fun _ => Answer.done) result
  | retransmit id =>
    obtain ⟨result, asked⟩ := together.lock.retransmit legit legit' id
    refine ⟨?_, together.k, together.hostSlots, asked⟩
    exact congrArg (fun r => (Except.mapError TopologyError.network r).map Answer.asked) result
  | setStopAfter stopAfter =>
    exact ⟨rfl, together.k, together.hostSlots, { together.lock with stopAfter := rfl }⟩

/-- **Sequences of operations have the same answers in both fat-trees**, and keep them in
lockstep. -/
theorem performAll (together : Together tree tree') (reached : Reached k log tree)
    (reached' : Reached k log' tree') (operations : List Operation)
    (distinct : (tree.performAll operations).2.net.DistinctHosts) :
    (tree'.performAll operations).1 = (tree.performAll operations).1 ∧
      Together (tree.performAll operations).2 (tree'.performAll operations).2 := by
  induction operations generalizing log log' tree tree' with
  | nil => exact ⟨rfl, together⟩
  | cons operation rest ih =>
    obtain ⟨result, after⟩ := together.perform reached reached' operation
    have before := (hostsWithin_performAll rest (tree.perform operation).2).distinct distinct
    have before' := (Network.HostsWithin.of_ground after.lock.ground.symm).distinct before
    obtain ⟨results, last⟩ :=
      ih after (reached.perform operation before) (reached'.perform operation before') distinct
    refine ⟨?_, last⟩
    show (tree'.perform operation).1 :: ((tree'.perform operation).2.performAll rest).1 =
      (tree.perform operation).1 :: ((tree.perform operation).2.performAll rest).1
    rw [result, results]

end Together

/-! ## What cannot be told apart -/

/-- **Networks whose users and hosts see no difference**: everything is the same but the share that
each of several interchangeable switches and ports had in the work. -/
structure Alike (net net' : Network) : Prop where
  handled : net'.handled = net.handled
  hosts : ∀ id, net'.getHost id = net.getHost id
  manager : net'.manager = net.manager
  edges : ∀ id switch, net.getSwitch id = .ok switch → switch.tier = .edge →
    ∃ switch', net'.getSwitch id = .ok switch' ∧ switch'.table = switch.table ∧
      switch'.drops = switch.drops ∧ switch'.received = switch.received ∧
      switch'.transmitted = switch.transmitted ∧ switch'.lowerCounters = switch.lowerCounters
  aggregations : ∀ pod gauge,
    net'.tally (fun tier own => tier = .aggregation ∧ own = pod) gauge =
      net.tally (fun tier own => tier = .aggregation ∧ own = pod) gauge
  cores : ∀ gauge,
    net'.tally (fun tier _ => tier = .core) gauge = net.tally (fun tier _ => tier = .core) gauge

/-- Users and hosts cannot tell networks in lockstep apart. -/
theorem Lockstep.alike {k : Nat} {net net' : Network} (lock : Lockstep k net net') :
    Alike net net' := by
  refine ⟨lock.handled, lock.getHost, lock.manager, fun id switch here edge => ?_,
    fun pod gauge => lock.tallies _ gauge, fun gauge => lock.tallies _ gauge⟩
  have here := Network.getSwitch_eq_ok_iff.mp here
  have outline := Network.ground_outline here
  rw [← lock.ground] at outline
  obtain ⟨switch', here', same⟩ := Option.map_eq_some_iff.mp outline
  obtain ⟨table, reading⟩ := lock.edges id switch switch' here here' edge
  have ports : switch'.numLower = switch.numLower := by
    rw [← switch'.outline_numLower, same, switch.outline_numLower]
  exact ⟨switch', Network.getSwitch_eq_ok_iff.mpr here', table, Switch.eq_of_reading ports reading⟩

/-- Fat-trees of one size are built in lockstep, whatever their seeds. -/
theorem together_new {k : Nat} {config : FabricConfig} {seed seed' : Option Nat}
    {streams streams' : DeviceId → Choice.Stream} {tree tree' : FatTree}
    (made : new k { config with seed } streams = .ok tree)
    (made' : new k { config with seed := seed' } streams' = .ok tree') : Together tree tree' := by
  obtain ⟨net, done, _, _, _, same, _⟩ := new_ok (accepts_of_new_ok made) { config with seed } streams
  have reseeded := new_reseeded k { config with seed } { config with seed := seed' } streams streams'
  rw [done] at made reseeded
  cases made
  rw [made'] at reseeded
  cases reseeded
  refine ⟨rfl, rfl, Lockstep.reseeded k net streams' ?_ ?_⟩
  · rw [same.config]
    rfl
  · rw [same.config]
    rfl

/-- Operations can be performed in two batches. -/
theorem performAll_append (tree : FatTree) (operations later : List Operation) :
    (tree.performAll (operations ++ later)).2 =
      ((tree.performAll operations).2.performAll later).2 := by
  induction operations generalizing tree with
  | nil => rfl
  | cons operation rest ih => exact ih (tree.perform operation).2

/-- **The choices made are invisible.** For every accepted parameter, fat-trees with any two seeds and
any two streams answer every sequence of operations alike, and are alike after each of them, as long
as no two hosts are given one address. -/
theorem choices_invisible {k : Nat} (accepted : accepts k = true) (config : FabricConfig)
    (seed seed' : Option Nat) (streams streams' : DeviceId → Choice.Stream) :
    ∃ tree tree', new k { config with seed } streams = .ok tree ∧
      new k { config with seed := seed' } streams' = .ok tree' ∧
      ∀ operations, (tree.performAll operations).2.net.DistinctHosts →
        (tree'.performAll operations).1 = (tree.performAll operations).1 ∧
        ∀ n, Alike (tree.performAll (operations.take n)).2.net
          (tree'.performAll (operations.take n)).2.net := by
  obtain ⟨net, made, _⟩ := new_ok accepted { config with seed } streams
  obtain ⟨net', made', _⟩ := new_ok accepted { config with seed := seed' } streams'
  have together := together_new made made'
  have alike := fun operations => together.performAll (.new made) (.new made') operations
  refine ⟨_, _, made, made', fun operations distinct => ⟨(alike operations distinct).1, fun n => ?_⟩⟩
  have before : (performAll { k, net } (operations.take n)).2.net.DistinctHosts := by
    have later := hostsWithin_performAll (operations.drop n)
      (performAll { k, net } (operations.take n)).2
    rw [← performAll_append, List.take_append_drop] at later
    exact later.distinct distinct
  exact (alike (operations.take n) before).2.lock.alike

/-- The fat-tree for four, all of whose choices are one number. -/
def fixed (number : Nat) : FatTree :=
  ((FatTree.new 4 {} fun _ _ => number).toOption).getD ⟨4, .empty {} fun _ _ => number, {}⟩

/-- The witness is what the builder gives for its stream. -/
theorem new_fixed (number : Nat) : FatTree.new 4 {} (fun _ _ => number) = .ok (fixed number) := by
  obtain ⟨net, done, _⟩ := new_ok (k := 4) (by decide) {} fun _ _ => number
  rw [fixed, done]
  rfl

/-- A host in either of two pods; the first sends to the second. -/
def crossing : List Operation :=
  [.addHost ⟨0, 0, 0⟩ ⟨2, 0, 0, 0, 0, 1⟩ ⟨10, 0, 0, 1⟩,
    .addHost ⟨1, 1, 1⟩ ⟨2, 0, 0, 0, 0, 2⟩ ⟨10, 0, 0, 2⟩,
    .send 20 ⟨10, 0, 0, 2⟩ [7]]

/-- What an aggregation switch has received shows its choices, and nothing else does. -/
theorem crossing_alike :
    (((fixed 0).performAll crossing).2.net.switchAt? 2).map (·.received) ≠
        (((fixed 1).performAll crossing).2.net.switchAt? 2).map (·.received) ∧
      Alike ((fixed 0).performAll crossing).2.net ((fixed 1).performAll crossing).2.net := by
  refine ⟨by decide +kernel, ?_⟩
  obtain ⟨tree, tree', made, made', alike⟩ :=
    choices_invisible (k := 4) (by decide) {} none none (fun _ _ => 0) fun _ _ => 1
  have same : tree = fixed 0 := Except.ok.inj (made.symm.trans (new_fixed 0))
  have same' : tree' = fixed 1 := Except.ok.inj (made'.symm.trans (new_fixed 1))
  rw [same, same'] at alike
  have crossed := (alike crossing (by decide +kernel)).2 3
  have all : crossing.take 3 = crossing := rfl
  rwa [all] at crossed

end FatTree

end PmacFabric
