import PmacFabric.Proofs.FatTree.Populated
import PmacFabric.Proofs.FatTree.Transit
import PmacFabric.Proofs.Network.Topology

/-!
# Hosts that stay behind

`FatTree.addHost` looks up in its own table whether a place is free, adds the new host to the network,
and has the network attach it. The network is open to its callers, who may have linked something else
to the port of the place; then the last step is refused, and the host that was added before it stays
behind without a link. A refusal by `Network.addLink` or `Network.attachHost` leaves no such traces.

`Exposed` lists the fat-trees that callers can bring about, whatever they do with the network.
**`failed_addHost`** says that an addition that fails changes nothing, or leaves one host behind
(`Strands`) and changes nothing else; and that the latter never happens where hosts were only added at
places. `addHost_strands` is the shortest way to it.
-/

namespace PmacFabric

namespace Network

/-- A host that is added comes last among the hosts. -/
theorem hosts_addHost (net : Network) (name : String) (amac : MacAddress) (ip : Ipv4Address) :
    (net.addHost name amac ip).2.hosts = net.hosts ++ [.new name net.devices.size amac ip] := by
  rw [hosts_eq, hosts_eq]
  show (net.devices.push _).toList.filterMap Device.host? = _
  rw [Array.toList_push, List.filterMap_append]
  rfl

/-- No switch changes when a host is added. -/
theorem switches_addHost (net : Network) (name : String) (amac : MacAddress) (ip : Ipv4Address) :
    (net.addHost name amac ip).2.switches = net.switches := by
  rw [switches_eq, switches_eq]
  show (net.devices.push _).toList.filterMap Device.switch? = _
  rw [Array.toList_push, List.filterMap_append]
  exact List.append_nil _

/-- A host is not attached to a port that has a link. -/
theorem attachHost_of_taken {net : Network} {id switch : DeviceId} {port : Nat} {host : Host}
    {peer : Endpoint} (here : net.hostAt? id = some host) (loose : host.uplink = none)
    (leads : net.ground.peer? ⟨switch, .lower port⟩ = some peer) :
    net.attachHost id switch port =
      (.error (.device (.portAlreadyConnected (.lower port))), net) := by
  obtain ⟨outline, found, leads⟩ := Option.bind_eq_some_iff.mp leads
  obtain ⟨target, there, rfl⟩ := Option.map_eq_some_iff.mp found
  rw [Switch.outline_peer?] at leads
  obtain ⟨state, present, taken⟩ := Option.bind_eq_some_iff.mp leads
  have refused : net.checkFree ⟨switch, .lower port⟩ =
      .error (.device (.portAlreadyConnected (.lower port))) := by
    simp only [checkFree, getSwitch_eq_ok_iff.mpr there, Switch.checkFree, present, taken,
      Option.isSome_some, if_true, Except.mapError]
  simp only [attachHost, getHost_eq_ok_iff.mpr here, loose, Option.isSome_none,
    Bool.false_eq_true, if_false, refused]

end Network

namespace FatTree

open Network (Ground)

/-! ## What callers can bring about -/

/-- Hosts are added at places, and the network is open to everything else that can be done to one. -/
inductive Exposed : FatTree → Prop where
  | new {k : Nat} {config : FabricConfig} {streams : DeviceId → Choice.Stream} {tree : FatTree} :
      FatTree.new k config streams = .ok tree → Exposed tree
  | addHost {tree : FatTree} (place : Place) (amac : MacAddress) (ip : Ipv4Address) :
      Exposed tree → Exposed (tree.addHost place amac ip).2
  | build {tree : FatTree} {net : Network} : Exposed tree → tree.net.Build net →
      Exposed { tree with net }
  | work {tree : FatTree} {net : Network} : Exposed tree → tree.net.Work net →
      Exposed { tree with net }

/-- An exposed fat-tree stays exposed while hosts are added to it. -/
theorem Exposed.addHosts {tree : FatTree} (exposed : tree.Exposed) (places : List Place) :
    (tree.addHosts places).2.Exposed := by
  induction places generalizing tree with
  | nil => exact exposed
  | cons place rest ih =>
    have first := exposed.addHost place place.amac place.ip
    unfold FatTree.addHosts
    cases added : tree.addHost place place.amac place.ip with
    | mk result after =>
      rw [added] at first
      cases result with
      | error e => exact first
      | ok id => exact ih first

/-- Complete fat-trees are exposed. -/
theorem Exposed.of_build {k : Nat} {config : FabricConfig} {streams : DeviceId → Choice.Stream}
    {tree : FatTree} (built : FatTree.build k config streams = .ok tree) : tree.Exposed := by
  unfold FatTree.build at built
  split at built
  · cases built
  · next made =>
    have all := (Exposed.new made).addHosts (places k)
    split at built
    · cases built
    · next added =>
      cases built
      rwa [added] at all

/-- Populated fat-trees, whose network had traffic only, are exposed. -/
theorem Populated.exposed {tree : FatTree} (populated : tree.Populated) : tree.Exposed := by
  induction populated with
  | new made => exact .new made
  | move _ move ih =>
    cases move with
    | addHost place amac ip => exact ih.addHost place amac ip
    | work move => exact ih.work move

/-! ## The planned switches stay -/

/-- Every planned switch exists, with the ports of the plan. Other devices and links may exist. -/
def Equipped (k : Nat) (ground : Ground) : Prop :=
  ∀ (id : Nat) (plan : SwitchPlan), (switchPlans k)[id]? = some plan →
    ∃ outline, ground.outline id = some outline ∧ outline.built = (id, plan)

/-- A fabric has all planned switches. -/
theorem Equipped.of_fabric {k : Nat} {ground : Ground} (fabric : Fabric k ground) :
    Equipped k ground := by
  intro id plan planned
  have built := fabric.built id
  rw [planned, Option.map_some] at built
  exact Option.map_eq_some_iff.mp built

/-- Planned switches stay while a network grows. -/
theorem Equipped.grows {k : Nat} {ground later : Ground} (equipped : Equipped k ground)
    (grows : ground.Grows later) : Equipped k later := by
  intro id plan planned
  obtain ⟨outline, found, built⟩ := equipped id plan planned
  obtain ⟨outline', found', same⟩ := grows.outline found
  refine ⟨outline', found', ?_⟩
  rw [← built]
  simp only [Switch.Outline.built, same.name, same.id, same.identity, same.lower, same.upper]

/-- An exposed fat-tree has an accepted size and all planned switches. -/
theorem Exposed.equipped {tree : FatTree} (exposed : tree.Exposed) :
    accepts tree.k = true ∧ Equipped tree.k tree.net.ground := by
  induction exposed with
  | new made =>
    obtain ⟨rfl, fabric⟩ := fabric_of_new made
    exact ⟨fabric.accepted, .of_fabric fabric⟩
  | @addHost tree place amac ip _ ih =>
    obtain ⟨accepted, equipped⟩ := ih
    obtain ⟨same, unchanged | ⟨switch, added⟩⟩ := addHost_net tree place amac ip
    · rw [same, unchanged]
      exact ⟨accepted, equipped⟩
    · rw [same, added]
      have second : Network.Build _ ((tree.net.addHost place.hostName amac ip).2.attachHost
        tree.net.devices.size switch place.port).2 := .attachHost ..
      exact ⟨accepted, (equipped.grows (Network.grows_addHost ..)).grows second.grows⟩
  | build _ move ih => exact ⟨ih.1, ih.2.grows move.grows⟩
  | work _ move ih => exact ⟨ih.1, move.ground ▸ ih.2⟩

/-- The port of a place exists. -/
theorem Exposed.hasPort {tree : FatTree} (exposed : tree.Exposed) {place : Place}
    (within : place.Within tree.k) :
    tree.net.ground.HasPort ⟨edgeId tree.k place.pod place.edge, .lower place.port⟩ := by
  obtain ⟨accepted, equipped⟩ := exposed.equipped
  obtain ⟨outline, found, built⟩ :=
    equipped _ _ (switchPlans_edge (even_of_accepts accepted) within.1 within.2.1)
  refine ⟨outline, found, ?_⟩
  have lower := congrArg (fun shape => shape.2.numLower) built
  exact Nat.lt_of_lt_of_eq within.2.2 lower.symm

/-! ## Failing to add a host -/

/-- A host that is added but not attached: the fat-tree knows no host at the place, but something else
is linked to its port. -/
structure Strands (tree : FatTree) (place : Place) (amac : MacAddress) (ip : Ipv4Address)
    (e : TopologyError) (after : FatTree) : Prop where
  free : refusal? tree place = none
  taken : ∃ edge peer, tree.edge place.pod place.edge = .ok edge ∧
    tree.net.opposite? ⟨edge, .lower place.port⟩ = some peer
  error : e = .network (.device (.portAlreadyConnected (.lower place.port)))
  /-- The fat-tree knows nothing about the host, and its network was not changed otherwise. -/
  result : after = { tree with net := (tree.net.addHost place.hostName amac ip).2 }
  hosts : after.net.hosts =
    tree.net.hosts ++ [.new place.hostName tree.net.devices.size amac ip]
  graph : after.net.graph = tree.net.graph.addNode
  switches : after.net.switches = tree.net.switches
  links : after.net.links = tree.net.links
  manager : after.net.manager = tree.net.manager

/-- A host stays unattached if the port of its place, free in the table of hosts, leads to something
else. -/
theorem Strands.of_taken {tree : FatTree} {place : Place} {peer : Endpoint}
    (free : refusal? tree place = none)
    (leads : tree.net.ground.peer? ⟨edgeId tree.k place.pod place.edge, .lower place.port⟩ =
      some peer) (amac : MacAddress) (ip : Ipv4Address) :
    ∃ e after, tree.addHost place amac ip = (.error e, after) ∧
      Strands tree place amac ip e after := by
  obtain ⟨slot, hslot, unused⟩ := free_of_refusal? free
  obtain ⟨within, -⟩ := slot?_eq_some_iff.mp hslot
  have edge : tree.edge place.pod place.edge = .ok (edgeId tree.k place.pod place.edge) :=
    if_pos ⟨within.1, within.2.1⟩
  have here : (tree.net.addHost place.hostName amac ip).2.hostAt? tree.net.devices.size =
      some (.new place.hostName tree.net.devices.size amac ip) := by
    rw [Network.hostAt?_addHost, if_pos rfl]
  -- The new host is not attached yet, so it is for the port that the network refuses.
  have still := (Network.grows_addHost tree.net place.hostName amac ip).peer leads
  have refused := Network.attachHost_of_taken here rfl still
  have refused : (tree.net.addHost place.hostName amac ip).2.attachHost
      (tree.net.addHost place.hostName amac ip).1 (edgeId tree.k place.pod place.edge)
      place.port = (.error _, _) := refused
  refine ⟨_, _, ?_,
    { free
      taken := ⟨_, peer, edge, Network.opposite?_of_peer? leads⟩
      error := rfl
      result := rfl
      hosts := Network.hosts_addHost ..
      graph := rfl
      switches := Network.switches_addHost ..
      links := rfl
      manager := rfl }⟩
  simp only [addHost, edge, hslot, unused, Bool.false_eq_true, if_false, refused]

/-- **What becomes of an addition**: it is refused, it leaves a host behind, or it gives the place a
seat. -/
theorem Exposed.addHost_cases {tree : FatTree} (exposed : tree.Exposed) (place : Place)
    (amac : MacAddress) (ip : Ipv4Address) :
    (∃ e, refusal? tree place = some e ∧ tree.addHost place amac ip = (.error e, tree)) ∨
      (∃ e after, tree.addHost place amac ip = (.error e, after) ∧
        Strands tree place amac ip e after) ∨
      ∃ id after, tree.addHost place amac ip = (.ok id, after) := by
  cases free : refusal? tree place with
  | some e => exact .inl ⟨e, rfl, addHost_of_refused free amac ip⟩
  | none =>
    obtain ⟨slot, hslot, unused⟩ := free_of_refusal? free
    obtain ⟨within, -⟩ := slot?_eq_some_iff.mp hslot
    cases leads : tree.net.ground.peer?
        ⟨edgeId tree.k place.pod place.edge, .lower place.port⟩ with
    | some peer => exact .inr (.inl (Strands.of_taken free leads amac ip))
    | none =>
      obtain ⟨net, done, -⟩ :=
        addHost_of_unlinked hslot unused (exposed.hasPort within) leads amac ip
      exact .inr (.inr ⟨_, _, done⟩)

/-! ## Fat-trees that know their ports -/

/-- The table of hosts and the ports for hosts agree. -/
def Aligned (tree : FatTree) : Prop :=
  ∀ (place : Place) (slot : Nat), place.slot? tree.k = some slot →
    tree.hostSlots.contains slot =
      (tree.net.ground.peer? ⟨edgeId tree.k place.pod place.edge, .lower place.port⟩).isSome

/-- Table and ports keep agreeing when a newcomer is entered at its place. -/
theorem Aligned.join {tree : FatTree} {net : Network} {seat : Seat} {slot : Nat}
    (aligned : tree.Aligned) (fabric : Fabric tree.k tree.net.ground)
    (hslot : seat.place.slot? tree.k = some slot) (joins : Joins tree.k tree.net net seat) :
    Aligned { tree with net, hostSlots := tree.hostSlots.insert slot seat.id } := by
  intro place slot' hslot'
  show (tree.hostSlots.insert slot seat.id).contains slot' = (net.ground.peer?
    ⟨edgeId tree.k place.pod place.edge, .lower place.port⟩).isSome
  rw [Std.TreeMap.contains_insert, joins.peer? fabric]
  by_cases same : slot = slot'
  · subst same
    rw [if_pos (by rw [← eq_of_slot? hslot hslot']; rfl), Std.compare_eq_iff_eq.mpr rfl]
    rfl
  · -- Another slot is another place, so the table and the port both stay as they were.
    have other : seat.uplink tree.k ≠
        ⟨edgeId tree.k place.pod place.edge, .lower place.port⟩ := by
      intro here
      obtain ⟨device, port⟩ := Endpoint.mk.injEq .. ▸ here
      obtain ⟨pod, edge⟩ := edgeId_inj joins.within.2.1 (slot?_eq_some_iff.mp hslot').1.2.1 device
      have there : seat.place = place := by
        rw [Place.mk.injEq]
        exact ⟨pod, edge, Port.lower.inj port⟩
      rw [there] at hslot
      exact same (Option.some.inj (hslot.symm.trans hslot'))
    have apart : compare slot slot' ≠ .eq := fun equal => same (Std.compare_eq_iff_eq.mp equal)
    rw [if_neg other, ← aligned _ _ hslot', beq_false_of_ne apart, Bool.false_or]

/-- While table and ports agree, no host stays unattached. -/
theorem Aligned.not_strands {tree after : FatTree} {place : Place} {amac : MacAddress}
    {ip : Ipv4Address} {e : TopologyError} (aligned : tree.Aligned) :
    ¬ Strands tree place amac ip e after := by
  intro strands
  obtain ⟨slot, hslot, unused⟩ := free_of_refusal? strands.free
  obtain ⟨edge, peer, found, leads⟩ := strands.taken
  obtain ⟨-, -, rfl⟩ := within_of_edge found
  have known := aligned place slot hslot
  rw [← Network.opposite?_lower, leads, unused] at known
  cases known

/-- Where hosts are only added at places, the fat-tree knows them all. -/
theorem Populated.aligned {tree : FatTree} (populated : tree.Populated) : tree.Aligned := by
  induction populated with
  | @new k config streams tree made =>
    obtain ⟨net, done, -, -, free, -⟩ := new_ok (accepts_of_new_ok made) config streams
    cases made.symm.trans done
    intro place slot hslot
    obtain ⟨within, -⟩ := slot?_eq_some_iff.mp hslot
    rw [free within.1 within.2.1]
    rfl
  | @move tree after populated move ih =>
    cases move with
    | work move =>
      intro place slot hslot
      rw [ih _ _ hslot, move.ground]
    | addHost place amac ip =>
      cases free : refusal? tree place with
      | some e =>
        rw [addHost_of_refused free]
        exact ih
      | none =>
        obtain ⟨slot, hslot, unused⟩ := free_of_refusal? free
        obtain ⟨within, -⟩ := slot?_eq_some_iff.mp hslot
        have unlinked : tree.net.ground.peer?
            ⟨edgeId tree.k place.pod place.edge, .lower place.port⟩ = none := by
          rw [← Option.not_isSome_iff_eq_none, ← ih _ _ hslot, unused]
          exact Bool.false_ne_true
        obtain ⟨net, done, joins⟩ := addHost_of_unlinked hslot unused
          (populated.exposed.hasPort within) unlinked amac ip
        rw [done]
        exact ih.join populated.fabric hslot joins

/-! ## The law of failing -/

/-- **An addition that fails changes nothing, or leaves a host behind.** It leaves none behind where
hosts were only added at places. -/
theorem failed_addHost {tree : FatTree} (exposed : tree.Exposed) {place : Place}
    {amac : MacAddress} {ip : Ipv4Address} {e : TopologyError} {after : FatTree}
    (failed : tree.addHost place amac ip = (.error e, after)) :
    (refusal? tree place = some e ∧ after = tree ∨ Strands tree place amac ip e after) ∧
      (tree.Populated → after = tree) := by
  have cases : refusal? tree place = some e ∧ after = tree ∨
      Strands tree place amac ip e after := by
    rcases exposed.addHost_cases place amac ip with
      ⟨e', refused, done⟩ | ⟨e', after', done, strands⟩ | ⟨id, after', done⟩
    · cases failed.symm.trans done
      exact .inl ⟨refused, rfl⟩
    · cases failed.symm.trans done
      exact .inr strands
    · cases failed.symm.trans done
  refine ⟨cases, fun populated => ?_⟩
  rcases cases with ⟨-, same⟩ | strands
  · exact same
  · exact absurd strands populated.aligned.not_strands

/-! ## A cuckoo -/

/-- The smallest fat-tree, after its caller added a host to the network itself. -/
def visited : FatTree :=
  { smallest with net := (smallest.net.addHost "cuckoo" ⟨2, 0, 0, 0, 0, 10⟩ ⟨10, 9, 0, 1⟩).2 }

/-- The same, after the caller had the network attach the host to the first port for hosts. -/
def nest : FatTree := { visited with net := (visited.net.attachHost 5 0 0).2 }

/-- Adding and attaching a host to the network itself is open to the callers of a fat-tree. -/
theorem exposed_nest : nest.Exposed := by
  have added : visited.Exposed := .build (.new new_smallest) (.addHost ..)
  exact .build added (.attachHost 5 0 0)

/-- The fat-tree does not know that the first place is taken. -/
theorem refused_nest :
    nest.addHost ⟨0, 0, 0⟩ ⟨2, 0, 0, 0, 0, 11⟩ ⟨10, 9, 0, 2⟩ =
      (.error (.network (.device (.portAlreadyConnected (.lower 0)))),
        (nest.addHost ⟨0, 0, 0⟩ ⟨2, 0, 0, 0, 0, 11⟩ ⟨10, 9, 0, 2⟩).2) :=
  Prod.ext (by decide +kernel) rfl

/-- The host that comes second stays behind. One for a pod that does not exist leaves no trace. -/
theorem stray_beside_nest :
    Strands nest ⟨0, 0, 0⟩ ⟨2, 0, 0, 0, 0, 11⟩ ⟨10, 9, 0, 2⟩
        (.network (.device (.portAlreadyConnected (.lower 0))))
        (nest.addHost ⟨0, 0, 0⟩ ⟨2, 0, 0, 0, 0, 11⟩ ⟨10, 9, 0, 2⟩).2 ∧
      (smallest.addHost ⟨2, 0, 0⟩ ⟨2, 0, 0, 0, 0, 11⟩ ⟨10, 9, 0, 2⟩).2 = smallest := by
  constructor
  · refine (failed_addHost exposed_nest refused_nest).1.resolve_left fun ⟨_, same⟩ => ?_
    have more := congrArg (fun tree : FatTree => tree.net.hosts.length) same
    exact absurd more (by decide +kernel)
  · have populated : smallest.Populated := .new new_smallest
    have outside : smallest.addHost ⟨2, 0, 0⟩ ⟨2, 0, 0, 0, 0, 11⟩ ⟨10, 9, 0, 2⟩ =
        (.error (.invalidLocation 2 0 0),
          (smallest.addHost ⟨2, 0, 0⟩ ⟨2, 0, 0, 0, 0, 11⟩ ⟨10, 9, 0, 2⟩).2) :=
      Prod.ext (by decide +kernel) rfl
    exact (failed_addHost populated.exposed outside).2 populated

/-- **A failing addition can change a fat-tree**: it leaves one more host and one more node. -/
theorem addHost_strands :
    ∃ (tree : FatTree) (place : Place) (amac : MacAddress) (ip : Ipv4Address) (e : TopologyError)
      (after : FatTree), tree.Exposed ∧ tree.addHost place amac ip = (.error e, after) ∧
        after ≠ tree ∧ after.net.hosts.length = tree.net.hosts.length + 1 ∧
        after.net.graph.numNodes = tree.net.graph.numNodes + 1 := by
  refine ⟨nest, _, _, _, _, _, exposed_nest, refused_nest, fun same => ?_, by decide +kernel,
    by decide +kernel⟩
  have more := congrArg (fun tree : FatTree => tree.net.hosts.length) same
  exact absurd more (by decide +kernel)

end FatTree

end PmacFabric
