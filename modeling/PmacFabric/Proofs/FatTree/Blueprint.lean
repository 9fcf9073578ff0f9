import Mathlib.Data.List.Nodup
import Mathlib.Tactic.Ring
import PmacFabric.Proofs.FatTree.Complete
import PmacFabric.Proofs.FatTree.Ledger
import PmacFabric.Proofs.FatTree.Transit
import PmacFabric.Proofs.Network.Addressing

/-!
# What the builder builds

The rules of a fat-tree are stated here by what callers can look up: the switches that `edge`,
`aggregation` and `core` name, the link ends that ports lead to, and the lists of switches, hosts and
links. `Blueprint` holds of every fat-tree, `Vacant` of one without hosts, and `Full` of one with a
host at every place.
**`builder_builds`** says that a parameter is refused if it is unsupported, and that otherwise both
ways of building succeed and give what they should.

That nothing else is there follows from the wiring. The planned links use up all ports but those for
hosts, each link is listed once, and each listed link is at some port or host: so the list has the
planned links and those of the hosts, and no others (`Fabric.links_perm`).
-/

namespace PmacFabric

namespace Network

/-- Two link ends are each other's. -/
def Peered (net : Network) (south north : Endpoint) : Prop :=
  net.opposite? south = some north ∧ net.opposite? north = some south

/-- A number belongs to the switch at a position of a tier, which has so many ports. -/
def Stands (net : Network) (id : DeviceId) (tier : Tier) (pod position numLower numUpper : Nat) :
    Prop :=
  ∃ switch, net.getSwitch id = .ok switch ∧ switch.id = id ∧ switch.tier = tier ∧
    switch.identity.pod.toNat = pod ∧ switch.identity.position.toNat = position ∧
    switch.numLower = numLower ∧ switch.numUpper = numUpper

end Network

/-- The link of a host, if it is attached. -/
def Host.link? (host : Host) : Option (Endpoint × Endpoint) :=
  host.uplink.map fun uplink => (⟨host.id, .upper 0⟩, uplink)

/-- The link of a host leads from its one port to its switch. -/
theorem Host.link?_eq_some_iff {host : Host} {link : Endpoint × Endpoint} :
    host.link? = some link ↔ host.uplink = some link.2 ∧ link.1 = ⟨host.id, .upper 0⟩ := by
  obtain ⟨south, north⟩ := link
  rw [Host.link?, Option.map_eq_some_iff]
  constructor
  · rintro ⟨uplink, attached, same⟩
    cases same
    exact ⟨attached, rfl⟩
  · rintro ⟨attached, rfl⟩
    exact ⟨north, attached, rfl⟩

namespace FatTree

open Network (Ground)

/-! ## The rules -/

/-- The parameters of no fat-tree. -/
def Unsupported (k : Nat) : Prop := k < 2 ∨ k % 2 ≠ 0 ∨ 32 < k

instance (k : Nat) : Decidable (Unsupported k) :=
  inferInstanceAs (Decidable (k < 2 ∨ k % 2 ≠ 0 ∨ 32 < k))

/-- The switches of a fat-tree and the links between them. -/
structure Blueprint (k : Nat) (tree : FatTree) : Prop where
  parameter : tree.k = k
  edge : ∀ {pod e}, pod < k → e < k / 2 →
    ∃ id, tree.edge pod e = .ok id ∧ tree.net.Stands id .edge pod e (k / 2) (k / 2)
  aggregation : ∀ {pod a}, pod < k → a < k / 2 →
    ∃ id, tree.aggregation pod a = .ok id ∧
      tree.net.Stands id .aggregation pod a (k / 2) (k / 2)
  core : ∀ {c}, c < (k / 2) ^ 2 →
    ∃ id, tree.core c = .ok id ∧ tree.net.Stands id .core k c k 0
  /-- Each edge switch has one link to each aggregation switch of its pod. -/
  pods : ∀ {pod e j edge aggregation}, tree.edge pod e = .ok edge →
    tree.aggregation pod j = .ok aggregation →
    tree.net.Peered ⟨edge, .upper j⟩ ⟨aggregation, .lower e⟩
  /-- Each aggregation switch has a group of core switches, with one link to each. -/
  spine : ∀ {pod a i aggregation core}, i < k / 2 →
    tree.aggregation pod a = .ok aggregation → tree.core (a * (k / 2) + i) = .ok core →
    tree.net.Peered ⟨aggregation, .upper i⟩ ⟨core, .lower pod⟩
  /-- Only lower ports of edge switches can be free. -/
  connected : ∀ {id switch port}, tree.net.getSwitch id = .ok switch →
    (switch.port? port).isSome = true →
    (tree.net.opposite? ⟨id, port⟩).isSome = true ∨ switch.tier = .edge ∧ port.isUpper = false
  switches : tree.net.switches.length = k ^ 2 / 2 + k ^ 2 / 2 + (k / 2) ^ 2
  identities : (tree.net.switches.map Switch.identity).Nodup

/-- A fat-tree without hosts. -/
structure Vacant (k : Nat) (tree : FatTree) : Prop extends Blueprint k tree where
  free : ∀ {pod e h edge}, tree.edge pod e = .ok edge →
    tree.net.opposite? ⟨edge, .lower h⟩ = none
  links : tree.net.links.size = k ^ 3 / 2
  hosts : tree.net.hosts = []

/-- A fat-tree with a host at every place. -/
structure Full (k : Nat) (tree : FatTree) : Prop extends Blueprint k tree where
  /-- The host at a place has the addresses of the place and is attached to its port. -/
  seated : ∀ {place : Place}, place.Within k →
    ∃ id host edge, tree.host place = .ok id ∧ tree.edge place.pod place.edge = .ok edge ∧
      tree.net.getHost id = .ok host ∧ host.ip = place.ip ∧ host.amac = place.amac ∧
      tree.net.Peered ⟨id, .upper 0⟩ ⟨edge, .lower place.port⟩
  links : tree.net.links.size = k ^ 3 / 2 + k ^ 3 / 4
  hosts : tree.net.hosts.length = k ^ 3 / 4
  ips : (tree.net.hosts.map Host.ip).Nodup
  /-- No address of a host or a switch is the address of another one. -/
  addresses : (tree.net.hosts.map Host.amac ++ tree.net.switches.map Switch.address).Nodup

/-- A parameter is accepted just if there is a fat-tree for it. -/
theorem accepts_iff {k : Nat} : accepts k = true ↔ ¬ Unsupported k := by
  simp only [accepts, Bool.and_eq_true, decide_eq_true_eq, beq_iff_eq, Unsupported]
  unfold TopologyError.maxK
  omega

/-- What the number of an aggregation switch means. -/
theorem within_of_aggregation {tree : FatTree} {pod a : Nat} {id : DeviceId}
    (found : tree.aggregation pod a = .ok id) :
    pod < tree.k ∧ a < tree.k / 2 ∧ id = aggregationId tree.k pod a := by
  unfold aggregation at found
  split at found
  · next within =>
    cases found
    exact ⟨within.1, within.2, rfl⟩
  · cases found

/-- What the number of a core switch means. -/
theorem within_of_core {tree : FatTree} {c : Nat} {id : DeviceId} (found : tree.core c = .ok id) :
    c < tree.k / 2 * (tree.k / 2) ∧ id = coreId tree.k c := by
  unfold core at found
  split at found
  · next within =>
    cases found
    exact ⟨within, rfl⟩
  · cases found

/-! ## Sizes of the plan -/

section Sizes

variable {k : Nat}

/-- Half of the square of an even number. -/
theorem half_sq (even : k % 2 = 0) : k ^ 2 / 2 = k / 2 * k := by
  obtain ⟨half, rfl⟩ := Nat.dvd_of_mod_eq_zero even
  rw [Nat.mul_div_cancel_left half (by decide)]
  exact Nat.div_eq_of_eq_mul_right (by decide) (by ring)

/-- Half of the square of edge switches, as many aggregation switches, and half of those core
switches. -/
theorem numSwitches_eq (even : k % 2 = 0) :
    numSwitches k = k ^ 2 / 2 + k ^ 2 / 2 + (k / 2) ^ 2 := by
  rw [half_sq even, ← Nat.add_mul, half_add_half even, numSwitches, Nat.pow_two]

/-- Three nested ranges make as many triples as the product of their lengths. -/
theorem length_triples {α : Type} (f : Nat → Nat → Nat → α) (n m l : Nat) :
    ((List.range n).flatMap fun a =>
      (List.range m).flatMap fun b => (List.range l).map (f a b)).length = n * (m * l) := by
  refine length_flatMap_range (fun a => length_flatMap_range (fun b => ?_) m) n
  rw [List.length_map, List.length_range]

/-- The plan has half of the cube of links. -/
theorem length_planLinks (even : k % 2 = 0) :
    (edgeLinks k ++ coreLinks k).length = k ^ 3 / 2 := by
  rw [List.length_append, edgeLinks, coreLinks, length_triples, length_triples]
  obtain ⟨half, rfl⟩ := Nat.dvd_of_mod_eq_zero even
  rw [Nat.mul_div_cancel_left half (by decide)]
  exact (Nat.div_eq_of_eq_mul_right (by decide) (by ring)).symm

/-- There is a place for a quarter of the cube of hosts. -/
theorem length_places (even : k % 2 = 0) : (places k).length = k ^ 3 / 4 := by
  rw [places, length_triples]
  obtain ⟨half, rfl⟩ := Nat.dvd_of_mod_eq_zero even
  rw [Nat.mul_div_cancel_left half (by decide)]
  exact (Nat.div_eq_of_eq_mul_right (by decide) (by ring)).symm

/-- No link is planned twice. -/
theorem nodup_planLinks (k : Nat) : (edgeLinks k ++ coreLinks k).Nodup :=
  (links_apart k).imp fun apart same => apart.1 (congrArg Prod.fst same)

end Sizes

/-! ## The switches of a fabric -/

section Fabric

variable {k : Nat} {net : Network}

/-- A switch that follows its plan stands at its position. -/
theorem Follows.stands {switch : Switch} {id : DeviceId} {tier : Tier}
    {pod position numLower numUpper : Nat} {name : String}
    (here : net.switchAt? id = some switch)
    (follows : Follows switch id
      ⟨name, ⟨tier, UInt8.ofNat pod, UInt8.ofNat position⟩, numLower, numUpper⟩)
    (hp : pod < 256) (hi : position < 256) :
    net.Stands id tier pod position numLower numUpper := by
  refine ⟨switch, Network.getSwitch_eq_ok_iff.mpr here, follows.number,
    congrArg SwitchIdentity.tier follows.identity, ?_, ?_, follows.lower, follows.upper⟩
  · rw [follows.identity]
    exact UInt8.toNat_ofNat_of_lt' hp
  · rw [follows.identity]
    exact UInt8.toNat_ofNat_of_lt' hi

/-- The number of a core switch fits into one octet. -/
theorem coreIndex_lt_octet {c : Nat} (small : k ≤ 32) (hc : c < k / 2 * (k / 2)) : c < 256 := by
  have half : k / 2 ≤ 16 := by omega
  exact Nat.lt_of_lt_of_le hc (Nat.mul_le_mul half half)

/-- No number is given to two switches. -/
theorem Fabric.nodup_ids (fabric : Fabric k net.ground) : (net.switches.map Switch.id).Nodup := by
  refine List.pairwise_map.mpr (Network.pairwise_switches fun differ here here' same => differ ?_)
  rw [← fabric.number here, ← fabric.number here', same]

/-- The switches of a fabric have the numbers of the plan. -/
theorem Fabric.ids_perm (fabric : Fabric k net.ground) :
    (net.switches.map Switch.id).Perm (List.range (numSwitches k)) := by
  refine (List.perm_ext_iff_of_nodup fabric.nodup_ids List.nodup_range).mpr fun id => ?_
  rw [List.mem_map, List.mem_range]
  constructor
  · rintro ⟨switch, mem, rfl⟩
    obtain ⟨id, here⟩ := Network.mem_switches_iff.mp mem
    rw [fabric.number here]
    exact fabric.id_lt here
  · intro within
    rw [← length_switchPlans fabric.even] at within
    obtain ⟨switch, here, follows⟩ := fabric.switch (List.getElem?_eq_getElem within)
    exact ⟨switch, Network.mem_switches_iff.mpr ⟨id, here⟩, follows.number⟩

/-- A fabric has as many switches as the plan. -/
theorem Fabric.length_switches (fabric : Fabric k net.ground) :
    net.switches.length = numSwitches k := by
  have all := fabric.ids_perm.length_eq
  rwa [List.length_map, List.length_range] at all

/-- **The identity of a switch is its own.** -/
theorem Fabric.eq_of_identity (fabric : Fabric k net.ground) {id id' : DeviceId}
    {switch switch' : Switch} (here : net.switchAt? id = some switch)
    (here' : net.switchAt? id' = some switch') (same : switch.identity = switch'.identity) :
    id = id' := by
  have small := le_of_accepts fabric.accepted
  -- The numbers of the plan are small enough to be read back from octets.
  have octet : ∀ {n m : Nat}, n < 32 → m < 32 → UInt8.ofNat n = UInt8.ofNat m → n = m :=
    fun hn hm => ofNat_inj_of_lt (by omega) (by omega)
  rcases fabric.planned here with
    ⟨pod, e, hp, he, rfl, follows⟩ | ⟨pod, a, hp, ha, rfl, follows⟩ | ⟨c, hc, rfl, follows⟩ <;>
    rcases fabric.planned here' with
      ⟨pod', e', hp', he', rfl, follows'⟩ | ⟨pod', a', hp', ha', rfl, follows'⟩ |
        ⟨c', hc', rfl, follows'⟩ <;>
    rw [follows.identity, follows'.identity] at same <;>
    obtain ⟨tier, pods, positions⟩ := SwitchIdentity.mk.injEq .. ▸ same
  case inl.inl =>
    rw [octet (by omega) (by omega) pods, octet (by omega) (by omega) positions]
  case inr.inl.inr.inl =>
    rw [octet (by omega) (by omega) pods, octet (by omega) (by omega) positions]
  case inr.inr.inr.inr =>
    rw [ofNat_inj_of_lt (coreIndex_lt_octet small hc) (coreIndex_lt_octet small hc') positions]
  all_goals cases tier

/-- No identity is given to two switches. -/
theorem Fabric.nodup_identities (fabric : Fabric k net.ground) :
    (net.switches.map Switch.identity).Nodup :=
  List.pairwise_map.mpr (Network.pairwise_switches fun differ here here' same =>
    differ (fabric.eq_of_identity here here' same))

/-- The largest fat-tree has 1280 switches. -/
theorem numSwitches_le (small : k ≤ 32) : numSwitches k ≤ 1280 :=
  Nat.add_le_add (Nat.mul_le_mul small small)
    (Nat.mul_le_mul (Nat.div_le_div_right small) (Nat.div_le_div_right small))

/-- No address is given to two switches: their numbers fit into two octets. -/
theorem Fabric.nodup_addresses (fabric : Fabric k net.ground) :
    (net.switches.map Switch.address).Nodup := by
  have few : numSwitches k ≤ 65536 :=
    Nat.le_trans (numSwitches_le (le_of_accepts fabric.accepted)) (by decide)
  refine List.pairwise_map.mpr (Network.pairwise_switches fun differ here here' same => differ ?_)
  have shared := Switch.address_eq_iff.mp same
  rw [fabric.number here, fabric.number here'] at shared
  rwa [Nat.mod_eq_of_lt (Nat.lt_of_lt_of_le (fabric.id_lt here) few),
    Nat.mod_eq_of_lt (Nat.lt_of_lt_of_le (fabric.id_lt here') few)] at shared

/-! ## The links of a fabric -/

/-- The ends of a planned link lead to each other. -/
theorem Fabric.peered (fabric : Fabric k net.ground) {link : Endpoint × Endpoint}
    (mem : link ∈ edgeLinks k ++ coreLinks k) : net.Peered link.1 link.2 :=
  ⟨Network.opposite?_of_peer? (fabric.links link mem).1,
    Network.opposite?_of_peer? (fabric.links link mem).2⟩

/-- **Every port has a planned link, unless it is for a host.** -/
theorem Fabric.port_cases (fabric : Fabric k net.ground) {id : DeviceId} {switch : Switch}
    {port : Port} (here : net.switchAt? id = some switch)
    (has : (switch.port? port).isSome = true) :
    (∃ link ∈ edgeLinks k ++ coreLinks k, link.1 = ⟨id, port⟩ ∨ link.2 = ⟨id, port⟩) ∨
      switch.tier = .edge ∧ port.isUpper = false := by
  rcases fabric.planned here with
    ⟨pod, e, hp, he, rfl, follows⟩ | ⟨pod, a, hp, ha, rfl, follows⟩ | ⟨c, hc, rfl, follows⟩
  · cases port with
    | lower i => exact .inr ⟨congrArg SwitchIdentity.tier follows.identity, rfl⟩
    | upper j =>
      have hj : j < k / 2 := Nat.lt_of_lt_of_eq ((switch.isSome_port?_upper j).mp has) follows.upper
      exact .inl ⟨_, List.mem_append_left _ (mem_edgeLinks.mpr ⟨pod, e, j, hp, he, hj, rfl⟩),
        .inl rfl⟩
  · cases port with
    | lower e =>
      have he : e < k / 2 := Nat.lt_of_lt_of_eq ((switch.isSome_port?_lower e).mp has) follows.lower
      exact .inl ⟨_, List.mem_append_left _ (mem_edgeLinks.mpr ⟨pod, e, a, hp, he, ha, rfl⟩),
        .inr rfl⟩
    | upper i =>
      have hi : i < k / 2 := Nat.lt_of_lt_of_eq ((switch.isSome_port?_upper i).mp has) follows.upper
      exact .inl ⟨_, List.mem_append_right _ (mem_coreLinks.mpr ⟨pod, a, i, hp, ha, hi, rfl⟩),
        .inl rfl⟩
  · cases port with
    | lower pod =>
      have hp : pod < k := Nat.lt_of_lt_of_eq ((switch.isSome_port?_lower pod).mp has) follows.lower
      obtain ⟨a, i, ha, hi, rfl⟩ := Fabric.exists_coreIndex hc
      exact .inl ⟨_, List.mem_append_right _ (mem_coreLinks.mpr ⟨pod, a, i, hp, ha, hi, rfl⟩),
        .inr rfl⟩
    | upper i =>
      have none : i < 0 := Nat.lt_of_lt_of_eq ((switch.isSome_port?_upper i).mp has) follows.upper
      exact absurd none (Nat.not_lt_zero i)

/-- A link that leaves the port of a switch is planned. -/
theorem Fabric.planned_of_upper (fabric : Fabric k net.ground) {id : DeviceId} {switch : Switch}
    {port : Port} {north : Endpoint} (here : net.switchAt? id = some switch)
    (leads : net.opposite? ⟨id, port⟩ = some north) (up : port.isUpper = true) :
    (⟨id, port⟩, north) ∈ edgeLinks k ++ coreLinks k := by
  have has : (switch.port? port).isSome = true := by
    rw [Network.opposite?_of_switchAt? here] at leads
    obtain ⟨state, found, -⟩ := Option.bind_eq_some_iff.mp leads
    rw [found]
    rfl
  rcases fabric.port_cases here has with ⟨⟨south, north'⟩, mem, rfl | same⟩ | ⟨-, down⟩
  · have planned := (fabric.peered mem).1
    rw [leads] at planned
    rw [Option.some.inj planned]
    exact mem
  · have down := (Network.isLink_iff.mp (links_shape mem)).2.1
    rw [show north' = ⟨id, port⟩ from same] at down
    cases down.symm.trans up
  · cases down.symm.trans up

/-- A device below a link of the plan is a switch. -/
theorem Fabric.hostAt?_of_planned (fabric : Fabric k net.ground) {link : Endpoint × Endpoint}
    (mem : link ∈ edgeLinks k ++ coreLinks k) : net.hostAt? link.1.device = none := by
  rcases List.mem_append.mp mem with planned | planned
  · obtain ⟨pod, e, j, hp, he, -, rfl⟩ := mem_edgeLinks.mp planned
    obtain ⟨switch, here, -⟩ := fabric.edge hp he
    exact Network.hostAt?_of_switchAt? here
  · obtain ⟨pod, a, i, hp, ha, -, rfl⟩ := mem_coreLinks.mp planned
    obtain ⟨switch, here, -⟩ := fabric.aggregation hp ha
    exact Network.hostAt?_of_switchAt? here

end Fabric

/-! ## The links of hosts -/

section Links

variable {k : Nat} {net : Network}

/-- No two hosts share a link. -/
theorem hostLinks_nodup (reached : net.Reached) : (net.hosts.filterMap Host.link?).Nodup := by
  refine List.pairwise_filterMap.mpr (Network.pairwise_hosts ?_)
  intro id id' host host' differ here here' link made link' made' same
  have number : host.id = id := reached.number (Network.getDevice?_of_hostAt? here)
  have number' : host'.id = id' := reached.number (Network.getDevice?_of_hostAt? here')
  have south := (Host.link?_eq_some_iff.mp made).2
  rw [same, (Host.link?_eq_some_iff.mp made').2] at south
  exact differ (number ▸ number' ▸ (congrArg Endpoint.device south).symm)

/-- The listed links are at ports with planned links and at attached hosts. -/
theorem Fabric.mem_links_iff (fabric : Fabric k net.ground) (reached : net.Reached)
    {link : Endpoint × Endpoint} :
    link ∈ net.links ↔
      link ∈ edgeLinks k ++ coreLinks k ∨ ∃ host ∈ net.hosts, host.link? = some link := by
  obtain ⟨south, north⟩ := link
  rw [reached.matched.listed]
  constructor
  · rintro ⟨leads, up⟩
    cases found : net.getDevice? south.device with
    | none => simp only [Network.opposite?, found, reduceCtorEq] at leads
    | some device =>
      cases device with
      | switch switch =>
        exact .inl (fabric.planned_of_upper (Network.switchAt?_of_getDevice? found) leads up)
      | host host =>
        have here := Network.hostAt?_of_getDevice? found
        have number : host.id = south.device := reached.number found
        rw [Network.opposite?_of_hostAt? here] at leads
        split at leads
        · next interface =>
          refine .inr ⟨host, Network.mem_hosts_iff.mpr ⟨_, here⟩, ?_⟩
          refine Host.link?_eq_some_iff.mpr ⟨leads, ?_⟩
          rw [number, ← interface]
        · cases leads
  · rintro (planned | ⟨host, mem, made⟩)
    · exact ⟨(fabric.peered planned).1, (Network.isLink_iff.mp (links_shape planned)).1⟩
    · obtain ⟨id, here⟩ := Network.mem_hosts_iff.mp mem
      have number : host.id = id := reached.number (Network.getDevice?_of_hostAt? here)
      obtain ⟨attached, interface⟩ := Host.link?_eq_some_iff.mp made
      cases (show south = ⟨host.id, .upper 0⟩ from interface)
      refine ⟨?_, rfl⟩
      rw [Network.opposite?_of_hostAt? (number ▸ here), if_pos rfl]
      exact attached

/-- **The links of a fabric are those of the plan and those of its hosts.** -/
theorem Fabric.links_perm (fabric : Fabric k net.ground) (reached : net.Reached) :
    net.links.toList.Perm
      (edgeLinks k ++ coreLinks k ++ net.hosts.filterMap Host.link?) := by
  have listed : net.links.toList.Nodup :=
    reached.matched.apart.imp fun apart same => apart.1 (congrArg Prod.fst same)
  have distinct : (edgeLinks k ++ coreLinks k ++ net.hosts.filterMap Host.link?).Nodup := by
    refine List.nodup_append.mpr ⟨nodup_planLinks k, hostLinks_nodup reached, ?_⟩
    rintro link planned other mem rfl
    obtain ⟨host, mem, made⟩ := List.mem_filterMap.mp mem
    obtain ⟨id, here⟩ := Network.mem_hosts_iff.mp mem
    have number : host.id = id := reached.number (Network.getDevice?_of_hostAt? here)
    have none := fabric.hostAt?_of_planned planned
    rw [(Host.link?_eq_some_iff.mp made).2, number, here] at none
    cases none
  refine (List.perm_ext_iff_of_nodup listed distinct).mpr fun link => ?_
  rw [Array.mem_toList_iff, fabric.mem_links_iff reached, ← List.mem_filterMap,
    ← List.mem_append]

/-- The links of a network are those of the plan and one for each attached host. -/
theorem Fabric.size_links (fabric : Fabric k net.ground) (reached : net.Reached) :
    net.links.size = k ^ 3 / 2 + (net.hosts.filterMap Host.link?).length := by
  rw [← Array.length_toList, (fabric.links_perm reached).length_eq, List.length_append,
    length_planLinks fabric.even]

end Links

/-! ## The builder -/

section Builder

variable {k : Nat} {tree : FatTree}

/-- A fabric is what the blueprint says. -/
theorem blueprint (parameter : tree.k = k) (fabric : Fabric k tree.net.ground) :
    Blueprint k tree := by
  subst parameter
  have small := le_of_accepts fabric.accepted
  refine
    { parameter := rfl
      edge := fun {pod e} hp he => ?_
      aggregation := fun {pod a} hp ha => ?_
      core := fun {c} hc => ?_
      pods := fun {pod e j edge aggregation} foundEdge foundAggregation => ?_
      spine := fun {pod a i aggregation core} hi foundAggregation foundCore => ?_
      connected := fun {id switch port} found has => ?_
      switches := fabric.length_switches.trans (numSwitches_eq fabric.even)
      identities := fabric.nodup_identities }
  · obtain ⟨switch, here, follows⟩ := fabric.edge hp he
    exact ⟨_, if_pos ⟨hp, he⟩, follows.stands here (by omega) (by omega)⟩
  · obtain ⟨switch, here, follows⟩ := fabric.aggregation hp ha
    exact ⟨_, if_pos ⟨hp, ha⟩, follows.stands here (by omega) (by omega)⟩
  · rw [Nat.pow_two] at hc
    obtain ⟨switch, here, follows⟩ := fabric.core hc
    exact ⟨_, if_pos hc, follows.stands here (by omega) (coreIndex_lt_octet small hc)⟩
  · obtain ⟨hp, he, rfl⟩ := within_of_edge foundEdge
    obtain ⟨-, hj, rfl⟩ := within_of_aggregation foundAggregation
    exact fabric.peered (List.mem_append_left _
      (mem_edgeLinks.mpr ⟨pod, e, j, hp, he, hj, rfl⟩))
  · obtain ⟨hp, ha, rfl⟩ := within_of_aggregation foundAggregation
    obtain ⟨-, rfl⟩ := within_of_core foundCore
    exact fabric.peered (List.mem_append_right _
      (mem_coreLinks.mpr ⟨pod, a, i, hp, ha, hi, rfl⟩))
  · rcases fabric.port_cases (Network.getSwitch_eq_ok_iff.mp found) has with
      ⟨⟨south, north⟩, mem, rfl | same⟩ | hostPort
    · refine .inl ?_
      rw [(fabric.peered mem).1]
      rfl
    · refine .inl ?_
      rw [← same, (fabric.peered mem).2]
      rfl
    · exact .inr hostPort

/-- What building does, users can do. -/
theorem reached_build {net after : Network} (reached : net.Reached) (move : net.Build after) :
    after.Reached :=
  reached.leads (.build .refl move)

/-- The empty network is a starting point. -/
theorem reached_empty (config : FabricConfig) (streams : DeviceId → Choice.Stream) :
    (Network.empty config streams).Reached :=
  ⟨config, streams, .refl⟩

variable {config : FabricConfig} {streams : DeviceId → Choice.Stream}

/-- **A fat-tree without hosts is built for every accepted parameter.** -/
theorem new_vacant (accepted : accepts k = true) (config : FabricConfig)
    (streams : DeviceId → Choice.Stream) :
    ∃ tree, new k config streams = .ok tree ∧ Vacant k tree := by
  obtain ⟨net, made, fabric, pristine, free, -, -⟩ := new_ok accepted config streams
  have reached := new_keeps reached_build (reached_empty config streams) made
  have hosts : net.hosts = [] := by
    refine List.eq_nil_iff_forall_not_mem.mpr fun host mem => ?_
    obtain ⟨id, here⟩ := Network.mem_hosts_iff.mp mem
    rw [pristine.1] at here
    cases here
  refine ⟨_, made,
    { blueprint rfl fabric with
      free := fun {pod e h edge} found => ?_
      links := ?_
      hosts }⟩
  · obtain ⟨hp, he, rfl⟩ := within_of_edge found
    exact (Network.opposite?_lower net _ h).trans (free hp he)
  · rw [fabric.size_links reached, hosts]
    rfl

/-- The host of a seat is found at its place. -/
theorem Slotted.host {seat : Seat} (slotted : Slotted tree)
    (sits : Sits tree.k tree.net.ground seat) : tree.host seat.place = .ok seat.id := by
  have hslot := slot?_eq_some_iff.mpr ⟨sits.within, rfl⟩
  have found := (slotted hslot seat.id).mpr ⟨seat, sits, rfl, rfl⟩
  simp only [FatTree.host, hostAt?, hslot, Option.bind_some, found]

/-- A seat and its port lead to each other. -/
theorem Sits.peered {net : Network} {seat : Seat} (sits : Sits k net.ground seat) :
    net.Peered seat.line (seat.uplink k) := by
  obtain ⟨host, here, card⟩ := sits.host
  refine ⟨?_, Network.opposite?_of_peer? sits.peer⟩
  exact (Network.opposite?_of_hostAt? here).trans
    ((if_pos rfl).trans (congrArg Host.Card.uplink card))

section Filled

variable (filled : Filled k config (places k) tree)
include filled

/-- Every host of a complete fat-tree has its link. -/
theorem length_hostLinks :
    (tree.net.hosts.filterMap Host.link?).length = tree.net.hosts.length := by
  obtain ⟨rfl, legit, -⟩ := filled.reached.legit
  rw [List.length_filterMap_eq_countP, List.countP_eq_length]
  intro host mem
  obtain ⟨id, here⟩ := Network.mem_hosts_iff.mp mem
  obtain ⟨seat, -, -, card⟩ := legit.housed.seated (Network.ground_card here)
  have attached : host.uplink = some (seat.uplink tree.k) := congrArg Host.Card.uplink card
  rw [Host.link?, attached]
  rfl

/-- Hosts and switches have addresses of their own. -/
theorem addresses_nodup :
    (tree.net.hosts.map Host.amac ++ tree.net.switches.map Switch.address).Nodup := by
  obtain ⟨rfl, legit, -⟩ := filled.reached.legit
  have hosts : (tree.net.hosts.map Host.amac).Nodup :=
    List.pairwise_map.mpr (legit.housed.distinctHosts.imp And.right)
  refine List.nodup_append.mpr ⟨hosts, legit.fabric.nodup_addresses, ?_⟩
  rintro address listed other listed' rfl
  obtain ⟨host, mem, rfl⟩ := List.mem_map.mp listed
  obtain ⟨switch, -, same⟩ := List.mem_map.mp listed'
  obtain ⟨id, here⟩ := Network.mem_hosts_iff.mp mem
  obtain ⟨seat, sits, -, card⟩ := legit.housed.seated (Network.ground_card here)
  have amac : host.amac = seat.place.amac :=
    (congrArg Host.Card.amac card).trans (filled.seats sits).2.1
  -- Hosts have 02 as their first octet, and switches 06.
  have first := congrArg MacAddress.o0 (same.trans amac)
  exact absurd first (by decide : (0x06 : UInt8) ≠ 0x02)

variable (complete : Complete k tree.net.ground)
include complete

/-- The IP addresses of a complete fat-tree are those of its places. -/
theorem ips_perm : (tree.net.hosts.map Host.ip).Perm ((places k).map Place.ip) := by
  obtain ⟨rfl, legit, -⟩ := filled.reached.legit
  have small := le_of_accepts legit.fabric.accepted
  have distinct : (tree.net.hosts.map Host.ip).Nodup :=
    List.pairwise_map.mpr (legit.housed.distinctHosts.imp And.left)
  have planned : ((places tree.k).map Place.ip).Nodup :=
    (nodup_places tree.k).map_on fun place mem other mem' =>
      Place.eq_of_ip small (mem_places.mp mem) (mem_places.mp mem')
  refine (List.perm_ext_iff_of_nodup distinct planned).mpr fun ip => ?_
  rw [List.mem_map, List.mem_map]
  constructor
  · rintro ⟨host, mem, rfl⟩
    obtain ⟨id, here⟩ := Network.mem_hosts_iff.mp mem
    obtain ⟨seat, sits, -, card⟩ := legit.housed.seated (Network.ground_card here)
    obtain ⟨taken, -, ip⟩ := filled.seats sits
    exact ⟨seat.place, taken, ip.symm.trans (congrArg Host.Card.ip card).symm⟩
  · rintro ⟨place, mem, rfl⟩
    obtain ⟨seat, sits, rfl⟩ := complete (mem_places.mp mem)
    obtain ⟨host, here, card⟩ := sits.host
    exact ⟨host, Network.mem_hosts_iff.mpr ⟨_, here⟩,
      (congrArg Host.Card.ip card).trans (filled.seats sits).2.2⟩

/-- **A fat-tree whose places are all filled is full.** -/
theorem full_of_filled (reached : tree.net.Reached) : Full k tree := by
  obtain ⟨rfl, legit, slotted⟩ := filled.reached.legit
  have fabric := legit.fabric
  have even := fabric.even
  have hosts := (ips_perm filled complete).length_eq
  rw [List.length_map, List.length_map, length_places even] at hosts
  refine
    { blueprint rfl fabric with
      seated := fun {place} within => ?_
      links := ?_
      hosts
      ips := List.pairwise_map.mpr (legit.housed.distinctHosts.imp And.left)
      addresses := addresses_nodup filled }
  · obtain ⟨seat, sits, rfl⟩ := complete within
    obtain ⟨host, here, card⟩ := sits.host
    obtain ⟨-, amac, ip⟩ := filled.seats sits
    exact ⟨seat.id, host, _, slotted.host sits, if_pos ⟨within.1, within.2.1⟩,
      Network.getHost_eq_ok_iff.mpr here, (congrArg Host.Card.ip card).trans ip,
      (congrArg Host.Card.amac card).trans amac, sits.peered⟩
  · rw [fabric.size_links reached, length_hostLinks filled, hosts]

end Filled

/-- **A fat-tree with all hosts is built for every accepted parameter.** -/
theorem build_full (accepted : accepts k = true) (config : FabricConfig)
    (streams : DeviceId → Choice.Stream) :
    ∃ tree, build k config streams = .ok tree ∧ Full k tree := by
  obtain ⟨tree, built, filled⟩ := build_ok accepted config streams
  have reached := build_keeps reached_build (reached_empty config streams) built
  exact ⟨tree, built, full_of_filled filled (filled.complete built) reached⟩

/-- **The builder refuses just the unsupported parameters, and builds fat-trees for all others.** -/
theorem builder_builds (k : Nat) (config : FabricConfig) (streams : DeviceId → Choice.Stream) :
    if Unsupported k then
      new k config streams = .error (.invalidK k) ∧ build k config streams = .error (.invalidK k)
    else
      (∃ tree, new k config streams = .ok tree ∧ Vacant k tree) ∧
        ∃ tree, build k config streams = .ok tree ∧ Full k tree := by
  split
  · next unsupported =>
    have refused : accepts k = false :=
      Bool.eq_false_iff.mpr fun accepted => accepts_iff.mp accepted unsupported
    have failed : new k config streams = .error (.invalidK k) := by
      simp only [new, refused, Bool.not_false, if_true]
    exact ⟨failed, by simp only [build, failed]⟩
  · next supported =>
    have accepted := accepts_iff.mpr supported
    exact ⟨new_vacant accepted config streams, build_full accepted config streams⟩

end Builder

end FatTree

end PmacFabric
