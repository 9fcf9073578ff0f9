import PmacFabric.Proofs.FatTree.Wiring

/-!
# Hosts at their places

A **seat** is a host at its place, with the addresses that it has. `Sits` says that a network has the
seat: the host exists, is attached to the port of its place, and the port leads back to it. `Housed`
says that all hosts of a fabric have seats and that no two of them share an address. In such a fabric
each of place, number, IP address, own hardware address and PMAC determines the seat.

`addHost_cases` says that adding a host to a fat-tree either changes nothing or gives a new seat;
`Fabric.join` and `Housed.join` say that fabric and seats stay as they were apart from it.
-/

namespace PmacFabric.FatTree

open Network (Ground)

/-- Whether a fat-tree has a place. -/
def Place.Within (k : Nat) (place : Place) : Prop :=
  place.pod < k ∧ place.edge < k / 2 ∧ place.port < k / 2

/-- The PMAC that stands for the host at a place. -/
def Place.pmac (place : Place) : Pmac :=
  .encode (UInt8.ofNat place.pod) (UInt8.ofNat place.edge) (UInt8.ofNat place.port)

structure Seat where
  place : Place
  id : DeviceId
  amac : MacAddress
  ip : Ipv4Address
deriving DecidableEq

namespace Seat

/-- The edge switch that the host is attached to. -/
def edge (k : Nat) (seat : Seat) : DeviceId := edgeId k seat.place.pod seat.place.edge

/-- The switch end of the link of the host. -/
def uplink (k : Nat) (seat : Seat) : Endpoint := ⟨seat.edge k, .lower seat.place.port⟩

/-- The host end of the link of the host. -/
def line (seat : Seat) : Endpoint := ⟨seat.id, .upper 0⟩

/-- The address under which the fabric knows the host. -/
def pmac (seat : Seat) : Pmac := seat.place.pmac

/-- The entry that the edge switch has for the host. -/
def entry (seat : Seat) : PmacEntry := ⟨seat.pmac, seat.amac, seat.ip, seat.place.port⟩

def card (k : Nat) (seat : Seat) : Host.Card :=
  ⟨seat.place.hostName, seat.id, seat.amac, seat.ip, some (seat.uplink k)⟩

end Seat

/-- A seat that a network has. -/
structure Sits (k : Nat) (ground : Ground) (seat : Seat) : Prop where
  within : seat.place.Within k
  beyond : numSwitches k ≤ seat.id
  card : ground.card seat.id = some (seat.card k)
  peer : ground.peer? (seat.uplink k) = some seat.line

/-- All hosts of a fabric have seats, and their addresses are their own. -/
structure Housed (k : Nat) (ground : Ground) : Prop where
  seated : ∀ {id card}, ground.card id = some card →
    ∃ seat : Seat, Sits k ground seat ∧ seat.id = id ∧ card = seat.card k
  attached : ∀ {pod e i peer}, pod < k → e < k / 2 →
    ground.peer? ⟨edgeId k pod e, .lower i⟩ = some peer →
    ∃ seat : Seat, Sits k ground seat ∧ seat.place = ⟨pod, e, i⟩ ∧ peer = seat.line
  distinct : ∀ {seat other : Seat}, Sits k ground seat → Sits k ground other →
    seat.ip = other.ip ∨ seat.amac = other.amac → seat = other

/-- A host that is attached to the port of a place. -/
structure Occupies (k : Nat) (net : Network) (place : Place) (id : DeviceId) (host : Host) : Prop where
  within : place.Within k
  found : net.getHost id = .ok host
  uplink : host.uplink = some ⟨edgeId k place.pod place.edge, .lower place.port⟩

/-- In a fabric whose hosts have seats, an attached host has the seat of its place. -/
theorem Occupies.seat {k : Nat} {net : Network} {place : Place} {id : DeviceId} {host : Host}
    (occupies : Occupies k net place id host) (housed : Housed k net.ground) :
    Sits k net.ground ⟨place, id, host.amac, host.ip⟩ := by
  have here := Network.getHost_eq_ok_iff.mp occupies.found
  obtain ⟨⟨⟨pod, e, i⟩, _, amac, ip⟩, sits, rfl, card⟩ := housed.seated (Network.ground_card here)
  obtain ⟨-, -, rfl, rfl, uplink⟩ := Host.Card.mk.injEq .. ▸ card
  rw [occupies.uplink] at uplink
  obtain ⟨device, port⟩ := Endpoint.mk.injEq .. ▸ Option.some.inj uplink
  obtain ⟨hpod, hedge⟩ := edgeId_inj occupies.within.2.1 sits.within.2.1 device
  have same : place = ⟨pod, e, i⟩ := by
    obtain ⟨_, _, _⟩ := place
    rw [Place.mk.injEq]
    exact ⟨hpod, hedge, Port.lower.inj port⟩
  rw [same]
  exact sits

/-- The host of a seat is attached at its place. -/
theorem Sits.occupies {k : Nat} {net : Network} {seat : Seat} (sits : Sits k net.ground seat) :
    ∃ host, Occupies k net seat.place seat.id host ∧ host.amac = seat.amac ∧ host.ip = seat.ip := by
  obtain ⟨host, here, card⟩ := Option.map_eq_some_iff.mp sits.card
  exact ⟨host, ⟨sits.within, Network.getHost_eq_ok_iff.mpr here, congrArg Host.Card.uplink card⟩,
    congrArg Host.Card.amac card, congrArg Host.Card.ip card⟩

/-! ## What determines a seat -/

namespace Sits

variable {k : Nat} {ground : Ground} {seat other : Seat}

/-- A number has at most one seat. -/
theorem eq_of_id (h : Sits k ground seat) (h' : Sits k ground other) (same : seat.id = other.id) :
    seat = other := by
  have cards : seat.card k = other.card k := by
    have both := h.card
    rw [same, h'.card] at both
    exact (Option.some.inj both).symm
  obtain ⟨⟨pod, e, i⟩, id, amac, ip⟩ := seat
  obtain ⟨⟨pod', e', i'⟩, id', amac', ip'⟩ := other
  obtain ⟨-, rfl, rfl, rfl, uplink⟩ := Host.Card.mk.injEq .. ▸ cards
  obtain ⟨device, port⟩ := Endpoint.mk.injEq .. ▸ Option.some.inj uplink
  obtain ⟨rfl, rfl⟩ := edgeId_inj h.within.2.1 h'.within.2.1 device
  cases port
  rfl

/-- A link end of a switch leads to at most one seat. -/
theorem eq_of_uplink (h : Sits k ground seat) (h' : Sits k ground other)
    (same : seat.uplink k = other.uplink k) : seat = other := by
  have both := h.peer
  rw [same, h'.peer] at both
  exact h.eq_of_id h' (congrArg Endpoint.device (Option.some.inj both)).symm

/-- A place has at most one seat. -/
theorem eq_of_place (h : Sits k ground seat) (h' : Sits k ground other)
    (same : seat.place = other.place) : seat = other := by
  apply h.eq_of_uplink h'
  unfold Seat.uplink Seat.edge
  rw [same]

end Sits

/-- Numbers below 256 are determined by their octets. -/
theorem ofNat_inj_of_lt {m n : Nat} (hm : m < 256) (hn : n < 256)
    (same : UInt8.ofNat m = UInt8.ofNat n) : m = n := by
  have := congrArg UInt8.toNat same
  rwa [UInt8.toNat_ofNat_of_lt' hm, UInt8.toNat_ofNat_of_lt' hn] at this

/-- Every coordinate of a place fits into one octet of its PMAC. -/
theorem Place.Within.lt_octet {k : Nat} {place : Place} (h : place.Within k) (small : k ≤ 32) :
    place.pod < 256 ∧ place.edge < 256 ∧ place.port < 256 := by
  obtain ⟨hp, he, hi⟩ := h
  omega

/-- **The PMAC of a host says where it sits.** -/
theorem Sits.eq_of_pmac {k : Nat} {ground : Ground} {seat other : Seat} (small : k ≤ 32)
    (h : Sits k ground seat) (h' : Sits k ground other) (same : seat.pmac = other.pmac) :
    seat = other := by
  obtain ⟨hp, he, hi⟩ := h.within.lt_octet small
  obtain ⟨hp', he', hi'⟩ := h'.within.lt_octet small
  obtain ⟨-, pod, edge, port, -⟩ := MacAddress.mk.injEq .. ▸ Pmac.mk.inj same
  apply h.eq_of_place h'
  obtain ⟨⟨_, _, _⟩, _, _, _⟩ := seat
  obtain ⟨⟨_, _, _⟩, _, _, _⟩ := other
  rw [Place.mk.injEq]
  exact ⟨ofNat_inj_of_lt hp hp' pod, ofNat_inj_of_lt he he' edge, ofNat_inj_of_lt hi hi' port⟩

namespace Housed

variable {k : Nat} {ground : Ground} {seat other : Seat}

/-- In a housed fabric an IP address has at most one seat. -/
theorem eq_of_ip (housed : Housed k ground) (h : Sits k ground seat) (h' : Sits k ground other)
    (same : seat.ip = other.ip) : seat = other :=
  housed.distinct h h' (.inl same)

/-- In a housed fabric a hardware address has at most one seat. -/
theorem eq_of_amac (housed : Housed k ground) (h : Sits k ground seat) (h' : Sits k ground other)
    (same : seat.amac = other.amac) : seat = other :=
  housed.distinct h h' (.inr same)

end Housed

/-! ## Joining a fabric -/

section Join

variable {k : Nat} {net net' : Network} {seat : Seat}

/-- The host of a seat when it has just been attached. -/
def Seat.newcomer (k : Nat) (seat : Seat) : Host :=
  Network.newcomer seat.place.hostName seat.id seat.amac seat.ip (seat.uplink k)

/-- The edge switch has the port of every place. -/
theorem hasPort_uplink (fabric : Fabric k net.ground) (within : seat.place.Within k) :
    net.ground.HasPort (seat.uplink k) := by
  obtain ⟨hp, he, hi⟩ := within
  obtain ⟨switch, here, follows⟩ := fabric.edge hp he
  refine ⟨switch.outline, Network.ground_outline here, ?_⟩
  show seat.place.port < switch.outline.lower.length
  rw [switch.outline_numLower, follows.lower]
  exact hi

/-- A network that a seat has joined at a free port. -/
structure Joins (k : Nat) (net net' : Network) (seat : Seat) : Prop where
  within : seat.place.Within k
  number : seat.id = net.devices.size
  free : net.ground.peer? (seat.uplink k) = none
  joined : Network.Joined net net' (seat.newcomer k) (seat.uplink k)

/-- The newcomer is known by its number, and whoever was known before still is. -/
theorem Joins.card (joins : Joins k net net' seat) (id : DeviceId) :
    net'.ground.card id = if id = seat.id then some (seat.card k) else net.ground.card id := by
  show (net'.hostAt? id).map Host.card = _
  rw [joins.joined.hosts]
  show Option.map _ (if id = seat.id then _ else _) = _
  split <;> rfl

/-- The port of the newcomer leads to it, and every other port where it led before. -/
theorem Joins.peer? (joins : Joins k net net' seat) (fabric : Fabric k net.ground) (key : Endpoint) :
    net'.ground.peer? key = if seat.uplink k = key then some seat.line else net.ground.peer? key := by
  rw [← Ground.peer?_connect (hasPort_uplink fabric joins.within) seat.line key, Ground.peer?,
    joins.joined.outline]
  rfl

/-- All switches of the plan are among the devices. -/
theorem Fabric.numSwitches_le_size (fabric : Fabric k net.ground) :
    numSwitches k ≤ net.devices.size := by
  have two := two_le_of_accepts fabric.accepted
  have half : 0 < k / 2 * (k / 2) := Nat.mul_pos (by omega) (by omega)
  obtain ⟨switch, here, _⟩ := fabric.core (Nat.sub_one_lt_of_lt half)
  have within : k * k + (k / 2 * (k / 2) - 1) < net.devices.size :=
    Network.lt_size_of_getDevice? (Network.getDevice?_of_switchAt? here)
  unfold numSwitches
  omega

/-- The planned switches and links do not see a host that joins. -/
theorem Fabric.join (fabric : Fabric k net.ground) (joins : Joins k net net' seat) :
    Fabric k net'.ground := by
  refine ⟨fabric.accepted, ?_, ?_, ?_⟩
  · intro id
    rw [joins.joined.outline, Ground.built_connect]
    exact fabric.built id
  · intro link mem
    obtain ⟨south, north⟩ := fabric.links link mem
    have taken : ∀ {key peer}, net.ground.peer? key = some peer → seat.uplink k ≠ key := by
      rintro key peer linked rfl
      cases joins.free.symm.trans linked
    rw [joins.peer? fabric, joins.peer? fabric, if_neg (taken south), if_neg (taken north)]
    exact ⟨south, north⟩
  · intro id
    rw [joins.joined.registry]
    exact fabric.registry id

/-- A seat of the old network is one of the new. -/
theorem Sits.join {other : Seat} (sits : Sits k net.ground other) (fabric : Fabric k net.ground)
    (joins : Joins k net net' seat) : Sits k net'.ground other := by
  have elsewhere : other.id ≠ seat.id := by
    intro same
    obtain ⟨host, here, _⟩ := Option.map_eq_some_iff.mp sits.card
    rw [same, joins.number, Network.hostAt?_size] at here
    cases here
  have apart : seat.uplink k ≠ other.uplink k := by
    intro same
    have free := joins.free
    rw [same, sits.peer] at free
    cases free
  refine ⟨sits.within, sits.beyond, ?_, ?_⟩
  · rw [joins.card, if_neg elsewhere]
    exact sits.card
  · rw [joins.peer? fabric, if_neg apart]
    exact sits.peer

/-- Whoever joins has a seat. -/
theorem Joins.sits (joins : Joins k net net' seat) (fabric : Fabric k net.ground) :
    Sits k net'.ground seat := by
  refine ⟨joins.within, ?_, ?_, ?_⟩
  · rw [joins.number]
    exact fabric.numSwitches_le_size
  · rw [joins.card, if_pos rfl]
  · rw [joins.peer? fabric, if_pos rfl]

/-- The new network has the new seat and the old ones. -/
theorem Housed.sits_join {other : Seat} (housed : Housed k net.ground) (fabric : Fabric k net.ground)
    (joins : Joins k net net' seat) (sits : Sits k net'.ground other) :
    other = seat ∨ Sits k net.ground other := by
  by_cases last : other.id = seat.id
  · exact .inl (sits.eq_of_id (joins.sits fabric) last)
  · have card := sits.card
    rw [joins.card, if_neg last] at card
    obtain ⟨found, old, number, _⟩ := housed.seated card
    have same := sits.eq_of_id (old.join fabric joins) number.symm
    exact .inr (same ▸ old)

/-- A fabric stays housed when the newcomer has addresses of its own. -/
theorem Housed.join (housed : Housed k net.ground) (fabric : Fabric k net.ground)
    (joins : Joins k net net' seat)
    (distinct : ∀ {other : Seat}, Sits k net.ground other →
      seat.ip ≠ other.ip ∧ seat.amac ≠ other.amac) : Housed k net'.ground := by
  refine ⟨fun {id card} found => ?_, fun {pod e i peer} hp he linked => ?_,
    fun {first second} h h' same => ?_⟩
  · rw [joins.card] at found
    split at found
    · rename_i last
      cases found
      exact ⟨seat, joins.sits fabric, last.symm, rfl⟩
    · obtain ⟨old, sits, number, rfl⟩ := housed.seated found
      exact ⟨old, sits.join fabric joins, number, rfl⟩
  · rw [joins.peer? fabric] at linked
    split at linked
    · rename_i here
      cases linked
      obtain ⟨device, port⟩ := Endpoint.mk.injEq .. ▸ here
      obtain ⟨hpod, hedge⟩ := edgeId_inj joins.within.2.1 he device
      refine ⟨seat, joins.sits fabric, ?_, rfl⟩
      rw [← hpod, ← hedge, ← Port.lower.inj port]
    · obtain ⟨old, sits, place, rfl⟩ := housed.attached hp he linked
      exact ⟨old, sits.join fabric joins, place, rfl⟩
  · have apart : ∀ {other : Seat}, Sits k net.ground other →
        ¬ (seat.ip = other.ip ∨ seat.amac = other.amac) := fun old shared =>
      shared.elim (distinct old).1 (distinct old).2
    rcases housed.sits_join fabric joins h with rfl | old <;>
      rcases housed.sits_join fabric joins h' with rfl | old'
    · rfl
    · exact absurd same (apart old')
    · exact absurd (same.imp Eq.symm Eq.symm) (apart old)
    · exact housed.distinct old old' same

end Join

/-! ## Adding a host to a fat-tree -/

/-- The places of a fat-tree are taken exactly by its seats. -/
def Slotted (tree : FatTree) : Prop :=
  ∀ {place slot}, place.slot? tree.k = some slot → ∀ id,
    tree.hostSlots[slot]? = some id ↔
      ∃ seat : Seat, Sits tree.k tree.net.ground seat ∧ seat.place = place ∧ seat.id = id

/-- Places are numbered by pod, then by edge switch, then by port. -/
theorem slot?_eq_some_iff {k slot : Nat} {place : Place} :
    place.slot? k = some slot ↔
      place.Within k ∧ slot = (place.pod * (k / 2) + place.edge) * (k / 2) + place.port := by
  unfold Place.slot? Place.Within
  split
  · rename_i within
    simp only [within, Option.some.injEq, true_and, and_self, eq_comm]
  · rename_i outside
    simp only [outside, reduceCtorEq, false_and]

/-- Different places have different numbers. -/
theorem eq_of_slot? {k slot : Nat} {place other : Place} (h : place.slot? k = some slot)
    (h' : other.slot? k = some slot) : place = other := by
  obtain ⟨⟨_, he, hi⟩, rfl⟩ := slot?_eq_some_iff.mp h
  obtain ⟨⟨_, he', hi'⟩, same⟩ := slot?_eq_some_iff.mp h'
  obtain ⟨outer, port⟩ := pod_offset_inj hi hi' same
  obtain ⟨pod, edge⟩ := pod_offset_inj he he' outer
  obtain ⟨_, _, _⟩ := place
  obtain ⟨_, _, _⟩ := other
  rw [Place.mk.injEq]
  exact ⟨pod, edge, port⟩

/-- Why a fat-tree refuses a host at a place, if it does. -/
def refusal? (tree : FatTree) (place : Place) : Option TopologyError :=
  match tree.edge place.pod place.edge with
  | .error e => some e
  | .ok _ =>
    match place.slot? tree.k with
    | none => some (.invalidLocation place.pod place.edge place.port)
    | some slot =>
      if tree.hostSlots.contains slot then
        some (.network (.device (.portAlreadyConnected (.lower place.port))))
      else none

/-- A host that is refused changes nothing. -/
theorem addHost_of_refused {tree : FatTree} {place : Place} {e : TopologyError}
    (refused : refusal? tree place = some e) (amac : MacAddress) (ip : Ipv4Address) :
    tree.addHost place amac ip = (.error e, tree) := by
  unfold refusal? at refused
  unfold addHost
  cases edge : tree.edge place.pod place.edge with
  | error e' =>
    rw [edge] at refused
    cases refused
    rfl
  | ok switch =>
    rw [edge] at refused
    cases hslot : place.slot? tree.k with
    | none =>
      rw [hslot] at refused
      cases refused
      rfl
    | some slot =>
      rw [hslot] at refused
      dsimp only at refused ⊢
      split at refused
      · rename_i taken
        cases refused
        rw [if_pos taken]
      · cases refused

/-- A place that is not refused exists, and nobody has taken it. -/
theorem free_of_refusal? {tree : FatTree} {place : Place} (welcome : refusal? tree place = none) :
    ∃ slot, place.slot? tree.k = some slot ∧ tree.hostSlots.contains slot = false := by
  unfold refusal? at welcome
  split at welcome
  · cases welcome
  · split at welcome
    · cases welcome
    · rename_i slot hslot
      split at welcome
      · cases welcome
      · rename_i free
        exact ⟨slot, hslot, Bool.eq_false_iff.mpr free⟩

/-- A host is attached at a place if nothing is linked to the port of the place. -/
theorem addHost_of_unlinked {tree : FatTree} {place : Place} {slot : Nat}
    (hslot : place.slot? tree.k = some slot) (free : tree.hostSlots.contains slot = false)
    (has : tree.net.ground.HasPort ⟨edgeId tree.k place.pod place.edge, .lower place.port⟩)
    (unlinked : tree.net.ground.peer? ⟨edgeId tree.k place.pod place.edge, .lower place.port⟩ =
      none)
    (amac : MacAddress) (ip : Ipv4Address) :
    ∃ net, tree.addHost place amac ip =
        (.ok tree.net.devices.size,
          { tree with net, hostSlots := tree.hostSlots.insert slot tree.net.devices.size }) ∧
      Joins tree.k tree.net net ⟨place, tree.net.devices.size, amac, ip⟩ := by
  obtain ⟨within, -⟩ := slot?_eq_some_iff.mp hslot
  have edge : place.pod < tree.k ∧ place.edge < tree.k / 2 := ⟨within.1, within.2.1⟩
  obtain ⟨net, done, joined⟩ := Network.attachHost_addHost place.hostName amac ip has unlinked
  have done : (tree.net.addHost place.hostName amac ip).2.attachHost
      (tree.net.addHost place.hostName amac ip).1 (edgeId tree.k place.pod place.edge)
      place.port = (.ok (), net) := done
  refine ⟨net, ?_, ⟨within, rfl, unlinked, joined⟩⟩
  simp only [addHost, FatTree.edge, if_pos edge, hslot, free, Bool.false_eq_true, if_false, done]
  rfl

/-- **A host that is added at a free place gives the fat-tree a new seat.** -/
theorem addHost_of_free {tree : FatTree} (fabric : Fabric tree.k tree.net.ground)
    (housed : Housed tree.k tree.net.ground) (slotted : Slotted tree) {place : Place} {slot : Nat}
    (hslot : place.slot? tree.k = some slot) (free : tree.hostSlots.contains slot = false)
    (amac : MacAddress) (ip : Ipv4Address) :
    ∃ net, tree.addHost place amac ip =
        (.ok tree.net.devices.size,
          { tree with net, hostSlots := tree.hostSlots.insert slot tree.net.devices.size }) ∧
      Joins tree.k tree.net net ⟨place, tree.net.devices.size, amac, ip⟩ := by
  obtain ⟨within, -⟩ := slot?_eq_some_iff.mp hslot
  have unlinked : tree.net.ground.peer? ⟨edgeId tree.k place.pod place.edge, .lower place.port⟩ =
      none := by
    cases linked : tree.net.ground.peer? ⟨edgeId tree.k place.pod place.edge, .lower place.port⟩ with
    | none => rfl
    | some peer =>
      obtain ⟨old, sits, there, _⟩ := housed.attached within.1 within.2.1 linked
      have found := (slotted hslot old.id).mpr ⟨old, sits, there, rfl⟩
      rw [Std.TreeMap.contains_eq_isSome_getElem?, found] at free
      cases free
  have has := @hasPort_uplink _ _ ⟨place, tree.net.devices.size, amac, ip⟩ fabric within
  exact addHost_of_unlinked hslot free has unlinked amac ip

/-- **Adding a host changes nothing, or gives the fat-tree a new seat.** -/
theorem addHost_cases {tree : FatTree} (fabric : Fabric tree.k tree.net.ground)
    (housed : Housed tree.k tree.net.ground) (slotted : Slotted tree) (place : Place)
    (amac : MacAddress) (ip : Ipv4Address) :
    (∃ e, tree.addHost place amac ip = (.error e, tree)) ∨
      ∃ net slot, place.slot? tree.k = some slot ∧
        tree.addHost place amac ip =
          (.ok tree.net.devices.size,
            { tree with net, hostSlots := tree.hostSlots.insert slot tree.net.devices.size }) ∧
        Joins tree.k tree.net net ⟨place, tree.net.devices.size, amac, ip⟩ := by
  cases refused : refusal? tree place with
  | some e => exact .inl ⟨e, addHost_of_refused refused amac ip⟩
  | none =>
    obtain ⟨slot, hslot, free⟩ := free_of_refusal? refused
    obtain ⟨net, done, joins⟩ := addHost_of_free fabric housed slotted hslot free amac ip
    exact .inr ⟨net, slot, hslot, done, joins⟩

/-- When a newcomer is entered at its place, the table of places stays exact. -/
theorem Slotted.join {tree : FatTree} {net : Network} {seat : Seat} {slot : Nat}
    (slotted : Slotted tree) (fabric : Fabric tree.k tree.net.ground)
    (housed : Housed tree.k tree.net.ground) (hslot : seat.place.slot? tree.k = some slot)
    (joins : Joins tree.k tree.net net seat) :
    Slotted { tree with net, hostSlots := tree.hostSlots.insert slot seat.id } := by
  intro place slot' hslot' id
  show (tree.hostSlots.insert slot seat.id)[slot']? = some id ↔
    ∃ other : Seat, Sits tree.k net.ground other ∧ other.place = place ∧ other.id = id
  rw [Std.TreeMap.getElem?_insert]
  have hslot' : place.slot? tree.k = some slot' := hslot'
  by_cases same : slot = slot'
  · subst same
    have here := eq_of_slot? hslot hslot'
    rw [if_pos (Std.compare_eq_iff_eq.mpr rfl)]
    constructor
    · intro number
      exact ⟨seat, joins.sits fabric, here, Option.some.inj number⟩
    · rintro ⟨other, sits, there, rfl⟩
      rw [sits.eq_of_place (joins.sits fabric) (there.trans here.symm)]
  · rw [if_neg (fun h => same (Std.compare_eq_iff_eq.mp h)), slotted hslot' id]
    constructor
    · rintro ⟨other, sits, there, number⟩
      exact ⟨other, sits.join fabric joins, there, number⟩
    · rintro ⟨other, sits, there, number⟩
      rcases housed.sits_join fabric joins sits with rfl | old
      · rw [← there, hslot] at hslot'
        exact absurd (Option.some.inj hslot') same
      · exact ⟨other, old, there, number⟩

end PmacFabric.FatTree
