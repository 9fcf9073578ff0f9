import Mathlib.Data.List.Forall2
import PmacFabric.Proofs.Network.Sturdy

/-!
# Every record of the topology tells the same

A network writes its topology down five times: in the peers of ports, the uplinks of hosts, the list
of links, the graph, and the registry of the fabric manager. `opposite?` reads a link at one of its
ends, whether that is a port or the interface of a host.

Links come into being in one way only: two free ends become each other's (`Couples`). Everything
else, traffic and refused operations among it, leaves them alone (`Build.couples`, `Work.sameLinks`).
So the records of links are **matched** in every network that users can bring about
(`Reached.matched`), and **`topology_coherent`** says what callers may rely on.
-/

namespace PmacFabric

/-- The number that a device was given. -/
def Device.id : Device → DeviceId
  | .switch s => s.id
  | .host h => h.id

namespace Network

/-! ## Link ends -/

/-- The link end that a link end is connected to: the peer of a port, or the uplink of a host. -/
def opposite? (net : Network) (key : Endpoint) : Option Endpoint :=
  match net.getDevice? key.device with
  | some (.switch switch) => switch.peer? key.port
  | some (.host host) => if key.port = .upper 0 then host.uplink else none
  | none => none

/-- Whether a link end exists: a port of a switch, or the only interface of a host. -/
def HasEnd (net : Network) (key : Endpoint) : Prop :=
  match net.getDevice? key.device with
  | some (.switch switch) => (switch.port? key.port).isSome = true
  | some (.host _) => key.port = .upper 0
  | none => False

/-- The uplink of a host, at the link end that counts as its upper port 0. -/
def Ground.uplink? (ground : Ground) (key : Endpoint) : Option Endpoint :=
  if key.port = .upper 0 then (ground.card key.device).bind Host.Card.uplink else none

/-- The link end that a link end is connected to, read off the ground. -/
def Ground.opposite? (ground : Ground) (key : Endpoint) : Option Endpoint :=
  (ground.peer? key).or (ground.uplink? key)

/-- The uplink at a link end depends on the card of its host only. -/
theorem Ground.uplink?_congr {ground later : Ground} {key : Endpoint}
    (same : key.port = .upper 0 → later.card key.device = ground.card key.device) :
    later.uplink? key = ground.uplink? key := by
  unfold uplink?
  split
  · rename_i interface
    rw [same interface]
  · rfl

/-- The opposite of a port of a switch is its peer. -/
theorem opposite?_of_switchAt? {net : Network} {key : Endpoint} {switch : Switch}
    (here : net.switchAt? key.device = some switch) :
    net.opposite? key = switch.peer? key.port := by
  simp only [opposite?, getDevice?_of_switchAt? here]

/-- The opposite of the link end of a host is its uplink. -/
theorem opposite?_of_hostAt? {net : Network} {key : Endpoint} {host : Host}
    (here : net.hostAt? key.device = some host) :
    net.opposite? key = if key.port = .upper 0 then host.uplink else none := by
  simp only [opposite?, getDevice?_of_hostAt? here]

/-- Opposite link ends can be read off the ground. -/
theorem opposite?_eq (net : Network) (key : Endpoint) :
    net.opposite? key = net.ground.opposite? key := by
  rw [Ground.opposite?, Ground.peer?, Ground.uplink?]
  cases found : net.getDevice? key.device with
  | none =>
    have bare : net.devices[key.device]? = none := found
    simp only [opposite?, found, ground, switchAt?, hostAt?, bare, Option.bind_none,
      Option.map_none, ite_self, Option.none_or]
  | some device =>
    cases device with
    | switch switch =>
      have here := switchAt?_of_getDevice? found
      have alone := hostAt?_of_switchAt? here
      rw [opposite?_of_switchAt? here, ground_outline here, Option.bind_some,
        Switch.outline_peer?]
      simp only [ground, alone, Option.map_none, Option.bind_none, ite_self, Option.or_none]
    | host host =>
      have here := hostAt?_of_getDevice? found
      have alone := switchAt?_of_hostAt? here
      rw [opposite?_of_hostAt? here, ground_card here, Option.bind_some]
      simp only [ground, alone, Option.map_none, Option.bind_none, Option.none_or, Host.card]

/-- A link end with a peer has it as its opposite. -/
theorem opposite?_of_peer? {net : Network} {key peer : Endpoint}
    (leads : net.ground.peer? key = some peer) : net.opposite? key = some peer := by
  rw [opposite?_eq, Ground.opposite?, leads, Option.some_or]

/-- A lower port belongs to no host. -/
theorem opposite?_lower (net : Network) (id : DeviceId) (i : Nat) :
    net.opposite? ⟨id, .lower i⟩ = net.ground.peer? ⟨id, .lower i⟩ := by
  rw [opposite?_eq, Ground.opposite?, Ground.uplink?, if_neg Port.noConfusion, Option.or_none]

/-- Networks on the same ground have the same opposite ends. -/
theorem opposite?_congr {net after : Network} (same : after.ground = net.ground) :
    after.opposite? = net.opposite? := by
  funext key
  rw [opposite?_eq, opposite?_eq, same]

/-- A link end that leads anywhere exists. -/
theorem hasEnd_of_opposite? {net : Network} {key peer : Endpoint}
    (leads : net.opposite? key = some peer) : net.HasEnd key := by
  unfold opposite? at leads
  unfold HasEnd
  split at leads
  · rename_i switch found
    obtain ⟨state, here, -⟩ := Option.bind_eq_some_iff.mp leads
    simp only [here, Option.isSome_some]
  · split at leads
    · assumption
    · cases leads
  · cases leads

/-- A link end that is connected has its new peer opposite, and all others what they had. -/
theorem Ground.opposite?_connect {ground : Ground} {target : Endpoint} (has : ground.HasPort target)
    (peer key : Endpoint) :
    (ground.connect target peer).opposite? key =
      if target = key then some peer else ground.opposite? key := by
  rw [opposite?, peer?_connect has]
  split
  · exact Option.some_or
  · rfl

/-! ## What building does -/

/-- What a link does: two free ends become each other's. -/
structure Couples (net after : Network) (south north : Endpoint) : Prop where
  shape : isLink south north = true
  freeSouth : net.opposite? south = none
  freeNorth : net.opposite? north = none
  opposite : ∀ key, after.opposite? key =
    if north = key then some south else if south = key then some north else net.opposite? key
  links : after.links = net.links.push (south, north)
  edges : after.edges = net.edges ++ [(south.device, north.device)] ∨
    after.edges = net.edges ++ [(north.device, south.device)]

/-- What everything else does. -/
structure SameLinks (net after : Network) : Prop where
  opposite : ∀ key, after.opposite? key = net.opposite? key
  links : after.links = net.links
  edges : after.edges = net.edges

section Build

variable {net after : Network}

theorem SameLinks.refl (net : Network) : net.SameLinks net := ⟨fun _ => rfl, rfl, rfl⟩

/-- A new switch changes no link. -/
theorem sameLinks_addSwitch (net : Network) (name : String) (identity : SwitchIdentity)
    (numLower numUpper : Nat) :
    net.SameLinks (net.addSwitch name identity numLower numUpper).2 := by
  refine ⟨fun key => ?_, rfl, rfl⟩
  rw [opposite?_eq, opposite?_eq, Ground.opposite?, Ground.uplink?, peer?_addSwitch,
    card_addSwitch]
  rfl

/-- A new host changes no link. -/
theorem sameLinks_addHost (net : Network) (name : String) (amac : MacAddress) (ip : Ipv4Address) :
    net.SameLinks (net.addHost name amac ip).2 := by
  refine ⟨fun key => ?_, rfl, rfl⟩
  have uplink : (net.addHost name amac ip).2.ground.uplink? key = net.ground.uplink? key := by
    rw [Ground.uplink?, Ground.uplink?, card_addHost]
    by_cases last : key.device = net.devices.size
    · have absent : net.ground.card key.device = none := by
        simp only [ground, last, hostAt?_size, Option.map_none]
      rw [if_pos last, absent]
      rfl
    · rw [if_neg last]
  rw [opposite?_eq, opposite?_eq, Ground.opposite?, peer?_addHost, uplink, Ground.opposite?]

/-- A port of a switch leads to its peer only. -/
theorem opposite?_of_hasPort {key : Endpoint} (has : net.ground.HasPort key) :
    net.opposite? key = net.ground.peer? key := by
  obtain ⟨outline, found, -⟩ := has
  obtain ⟨switch, here, rfl⟩ := Option.map_eq_some_iff.mp found
  rw [opposite?_of_switchAt? here, Ground.peer?, found, Option.bind_some, Switch.outline_peer?]

/-- Linking two free ports couples them. -/
theorem couples_linked {south north : Endpoint} (shape : isLink south north = true)
    (freeSouth : net.ground.HasPort south ∧ net.ground.peer? south = none)
    (freeNorth : net.ground.HasPort north ∧ net.ground.peer? north = none) :
    net.Couples (net.linked south north) south north := by
  have begun := Ground.free_connect north freeSouth.1 (isLink_ne shape shape) freeNorth
  refine ⟨shape, ?_, ?_, fun key => ?_, rfl, .inl Array.toList_push⟩
  · rw [opposite?_of_hasPort freeSouth.1, freeSouth.2]
  · rw [opposite?_of_hasPort freeNorth.1, freeNorth.2]
  · rw [opposite?_eq, ground_linked, Ground.link, Ground.opposite?_connect begun.1,
      Ground.opposite?_connect freeSouth.1, opposite?_eq]

/-- Attaching a host couples it to the port. -/
theorem couples_attached {id switch : DeviceId} {port : Nat} {host : Host}
    (here : net.hostAt? id = some host) (loose : host.uplink = none)
    (free : net.ground.HasPort ⟨switch, .lower port⟩ ∧
      net.ground.peer? ⟨switch, .lower port⟩ = none) :
    net.Couples (net.attached id switch port host) ⟨id, .upper 0⟩ ⟨switch, .lower port⟩ := by
  have apart : id ≠ switch := by
    rintro rfl
    obtain ⟨⟨outline, found, -⟩, -⟩ := free
    simp only [ground, switchAt?_of_hostAt? here, Option.map_none] at found
    cases found
  have loose' : net.opposite? ⟨id, .upper 0⟩ = none := by
    rw [opposite?_of_hostAt? here, if_pos rfl, loose]
  have peer := Ground.peer?_connect free.1 ⟨id, .upper 0⟩
  refine ⟨?_, loose', ?_, fun key => ?_, rfl, .inr Array.toList_push⟩
  · exact isLink_iff.mpr ⟨rfl, rfl, apart⟩
  · rw [opposite?_of_hasPort free.1, free.2]
  · rw [opposite?_eq, ground_attached here]
    show ((net.ground.connect _ _).peer? key).or (Ground.uplink? _ key) = _
    rw [peer]
    split
    · exact Option.some_or
    · rename_i other
      split
      · rename_i own
        subst own
        have bare : net.ground.peer? ⟨id, .upper 0⟩ = none := by
          simp only [Ground.peer?, ground, switchAt?_of_hostAt? here, Option.map_none,
            Option.bind_none]
        rw [bare, Option.none_or]
        simp only [Ground.uplink?, if_true, Option.bind_some]
      · rename_i foreign
        have elsewhere : key.port = .upper 0 → id ≠ key.device := by
          rintro interface rfl
          exact foreign (by rw [← interface])
        rw [Ground.uplink?_congr fun interface => if_neg (elsewhere interface), opposite?_eq,
          Ground.opposite?]

/-- **Building joins two free link ends, or it leaves all links alone.** -/
theorem Build.couples (move : net.Build after) :
    net.SameLinks after ∨ ∃ south north, net.Couples after south north := by
  cases move with
  | addSwitch => exact .inl (sameLinks_addSwitch ..)
  | addHost => exact .inl (sameLinks_addHost ..)
  | addLink south north =>
    rcases net.addLink_cases south north with same | ⟨shape, freeSouth, freeNorth, linked⟩
    · rw [same]
      exact .inl (.refl net)
    · rw [linked]
      exact .inr ⟨_, _, couples_linked shape freeSouth freeNorth⟩
  | attachHost id switch port =>
    rcases net.attachHost_cases id switch port with same | ⟨host, here, loose, free, attached⟩
    · rw [same]
      exact .inl (.refl net)
    · rw [attached]
      exact .inr ⟨_, _, couples_attached here loose free⟩

/-- Handling an event changes neither the graph nor the devices there are. -/
theorem Reacts.graph {event : Event} {raised : List Event} (reacts : net.Reacts event raised after) :
    after.graph = net.graph ∧ after.devices.size = net.devices.size := by
  cases reacts <;> exact ⟨rfl, Array.size_setIfInBounds⟩

/-- Traffic adds neither nodes nor edges, and no devices. -/
theorem Work.graph (sturdy : net.Sturdy) (move : net.Work after) :
    after.graph = net.graph ∧ after.devices.size = net.devices.size := by
  cases move with
  | send => exact ⟨rfl, Array.size_setIfInBounds⟩
  | retransmit => exact ⟨rfl, Array.size_setIfInBounds⟩
  | inject => exact ⟨rfl, rfl⟩
  | setStopAfter => exact ⟨rfl, rfl⟩
  | watch => exact ⟨rfl, rfl⟩
  | event stepped =>
    obtain ⟨event, queue, trace, raised, -, -, reacts, -⟩ := sturdy.step stepped
    exact reacts.graph

/-- Events leave all links as they are. -/
theorem Work.sameLinks (sturdy : net.Sturdy) (move : net.Work after) : net.SameLinks after :=
  ⟨congrFun (opposite?_congr move.ground), move.links sturdy,
    congrArg (fun graph => graph.edges.toList) (move.graph sturdy).1⟩

/-! ## Matched records -/

/-- Whether an edge runs between the devices of a link. Edges have no direction. -/
def Spans (edge : DeviceId × DeviceId) (link : Endpoint × Endpoint) : Prop :=
  edge = (link.1.device, link.2.device) ∨ edge = (link.2.device, link.1.device)

/-- Ports, uplinks, links and edges tell the same. -/
structure Matched (net : Network) : Prop where
  symm : ∀ {a b}, net.opposite? a = some b → net.opposite? b = some a
  listed : ∀ {south north}, (south, north) ∈ net.links ↔
    net.opposite? south = some north ∧ south.port.isUpper = true
  shape : ∀ link ∈ net.links, isLink link.1 link.2 = true
  apart : net.links.toList.Pairwise fun link other =>
    link.1 ≠ other.1 ∧ link.1 ≠ other.2 ∧ link.2 ≠ other.1 ∧ link.2 ≠ other.2
  edges : List.Forall₂ Spans net.edges net.links.toList

/-- The records agree before anything is added. -/
theorem matched_empty (config : FabricConfig) (streams : DeviceId → Choice.Stream) :
    (Network.empty config streams).Matched :=
  { symm := nofun
    listed := ⟨fun mem => absurd mem (Array.not_mem_empty _), fun leads => nomatch leads.1⟩
    shape := fun _ mem => absurd mem (Array.not_mem_empty _)
    apart := .nil
    edges := .nil }

/-- The records agree as long as no link is made. -/
theorem Matched.of_sameLinks (matched : net.Matched) (same : net.SameLinks after) :
    after.Matched := by
  refine ⟨fun {a b} => ?_, fun {south north} => ?_, ?_, ?_, ?_⟩
  · rw [same.opposite, same.opposite]
    exact matched.symm
  · rw [same.opposite, same.links]
    exact matched.listed
  · rw [same.links]
    exact matched.shape
  · rw [same.links]
    exact matched.apart
  · rw [same.links, same.edges]
    exact matched.edges

/-- Both ends of a link lead to each other. -/
theorem Matched.ends (matched : net.Matched) {link : Endpoint × Endpoint} (mem : link ∈ net.links) :
    net.opposite? link.1 = some link.2 ∧ net.opposite? link.2 = some link.1 :=
  have leads := (matched.listed.mp mem).1
  ⟨leads, matched.symm leads⟩

section Couples

variable {south north : Endpoint}

/-- After a coupling, south leads to north. -/
theorem Couples.opposite_south (couples : net.Couples after south north) :
    after.opposite? south = some north := by
  rw [couples.opposite, if_neg (isLink_ne couples.shape couples.shape).symm, if_pos rfl]

/-- After a coupling, north leads to south. -/
theorem Couples.opposite_north (couples : net.Couples after south north) :
    after.opposite? north = some south := by
  rw [couples.opposite, if_pos rfl]

/-- An end that was taken before is neither of the two. -/
theorem Couples.opposite_old (couples : net.Couples after south north) {key peer : Endpoint}
    (leads : net.opposite? key = some peer) :
    south ≠ key ∧ north ≠ key ∧ after.opposite? key = some peer := by
  have notSouth : south ≠ key := by
    rintro rfl
    cases couples.freeSouth.symm.trans leads
  have notNorth : north ≠ key := by
    rintro rfl
    cases couples.freeNorth.symm.trans leads
  refine ⟨notSouth, notNorth, ?_⟩
  rw [couples.opposite, if_neg notNorth, if_neg notSouth, leads]

/-- **A coupling keeps the records in agreement**: both ends, the list of links and the graph gain
the same link, and since its ends were free, no other link has one of them. -/
theorem Matched.couple (matched : net.Matched) (couples : net.Couples after south north) :
    after.Matched := by
  have old : ∀ link ∈ net.links, link.1 ≠ south ∧ link.1 ≠ north ∧ link.2 ≠ south ∧
      link.2 ≠ north := by
    intro link mem
    obtain ⟨leads, back⟩ := matched.ends mem
    obtain ⟨southFirst, northFirst, -⟩ := couples.opposite_old leads
    obtain ⟨southSecond, northSecond, -⟩ := couples.opposite_old back
    exact ⟨southFirst.symm, northFirst.symm, southSecond.symm, northSecond.symm⟩
  refine ⟨fun {a b} leads => ?_, fun {a b} => ?_, fun link mem => ?_, ?_, ?_⟩
  · rw [couples.opposite] at leads
    split at leads
    · rename_i same
      cases leads
      rw [← same, couples.opposite_south]
    · split at leads
      · rename_i same
        cases leads
        rw [← same, couples.opposite_north]
      · exact (couples.opposite_old (matched.symm leads)).2.2
  · rw [couples.links, Array.mem_push, matched.listed, Prod.mk.injEq]
    constructor
    · rintro (⟨leads, up⟩ | ⟨rfl, rfl⟩)
      · exact ⟨(couples.opposite_old leads).2.2, up⟩
      · exact ⟨couples.opposite_south, (isLink_iff.mp couples.shape).1⟩
    · rintro ⟨leads, up⟩
      rw [couples.opposite] at leads
      split at leads
      · rename_i same
        rw [← same, (isLink_iff.mp couples.shape).2.1] at up
        cases up
      · split at leads
        · rename_i same
          cases leads
          exact .inr ⟨same.symm, rfl⟩
        · exact .inl ⟨leads, up⟩
  · rw [couples.links] at mem
    rcases Array.mem_push.mp mem with before | rfl
    · exact matched.shape link before
    · exact couples.shape
  · rw [couples.links, Array.toList_push, List.pairwise_append]
    refine ⟨matched.apart, List.pairwise_singleton _ _, fun link mem other new => ?_⟩
    cases List.mem_singleton.mp new
    exact old link (Array.mem_toList_iff.mp mem)
  · rw [couples.links, Array.toList_push]
    rcases couples.edges with along | against
    · rw [along]
      exact List.rel_append matched.edges (.cons (.inl rfl) .nil)
    · rw [against]
      exact List.rel_append matched.edges (.cons (.inr rfl) .nil)

end Couples

/-- No sequence of moves brings the records apart. -/
theorem Leads.matched {later : Network} (leads : net.Leads later) (sturdy : net.Sturdy)
    (matched : net.Matched) : later.Matched := by
  induction leads with
  | refl => exact matched
  | build _ move ih =>
    rcases move.couples with same | ⟨south, north, couples⟩
    · exact ih.of_sameLinks same
    · exact ih.couple couples
  | work before move ih => exact ih.of_sameLinks (move.sameLinks (sturdy.leads before))

/-- **The records of links match in every network that users can bring about.** -/
theorem Reached.matched (reached : net.Reached) : net.Matched := by
  obtain ⟨config, streams, leads⟩ := reached
  exact leads.matched (sturdy_empty config streams) (matched_empty config streams)

/-! ## Numbers -/

/-- Devices have their places as numbers, and the graph has a node for each. -/
structure Numbered (net : Network) : Prop where
  nodes : net.graph.numNodes = net.devices.size
  hosts : ∀ {id card}, net.ground.card id = some card → card.id = id

/-- A device that is added gets the next number, and the graph a node. -/
theorem Numbered.build (numbered : net.Numbered) (move : net.Build after) : after.Numbered := by
  cases move with
  | addSwitch name identity numLower numUpper =>
    refine ⟨?_, ?_⟩
    · exact (congrArg (· + 1) numbered.nodes).trans (Array.size_push _).symm
    · rw [card_addSwitch]
      exact numbered.hosts
  | addHost name amac ip =>
    refine ⟨(congrArg (· + 1) numbered.nodes).trans (Array.size_push _).symm, fun {id card} found => ?_⟩
    rw [card_addHost] at found
    split at found
    · rename_i last
      cases found
      exact last.symm
    · exact numbered.hosts found
  | addLink south north =>
    rcases net.addLink_cases south north with same | ⟨-, -, -, linked⟩
    · rwa [same]
    · rw [linked]
      refine ⟨?_, ?_⟩
      · simp only [Network.linked, setPeer, modifySwitch, Array.size_modify]
        exact numbered.nodes
      · rw [ground_linked]
        exact numbered.hosts
  | attachHost id switch port =>
    rcases net.attachHost_cases id switch port with same | ⟨host, here, -, -, attached⟩
    · rwa [same]
    · rw [attached]
      refine ⟨?_, fun {key card} found => ?_⟩
      · simp only [Network.attached, setHost, setPeer, modifySwitch, Array.size_setIfInBounds,
          Array.size_modify]
        exact numbered.nodes
      · rw [ground_attached here] at found
        have found : (if id = key then some { host.card with uplink := some ⟨switch, .lower port⟩ }
          else net.ground.card key) = some card := found
        split at found
        · rename_i same
          cases found
          exact (numbered.hosts (ground_card here)).trans same
        · exact numbered.hosts found

/-- In every reached network devices have their places as numbers. -/
theorem Reached.numbered (reached : net.Reached) : net.Numbered := by
  obtain ⟨config, streams, leads⟩ := reached
  induction leads with
  | refl => exact ⟨rfl, nofun⟩
  | build _ move ih => exact ih.build move
  | work before move ih =>
    have sturdy := (sturdy_empty config streams).leads before
    refine ⟨?_, ?_⟩
    · rw [(move.graph sturdy).1, (move.graph sturdy).2]
      exact ih.nodes
    · rw [move.ground]
      exact ih.hosts

/-- Every device has its place as its number. -/
theorem Reached.number (reached : net.Reached) {id : DeviceId} {device : Device}
    (found : net.getDevice? id = some device) : device.id = id := by
  cases device with
  | switch switch =>
    exact reached.sturdy.wired.number (ground_outline (switchAt?_of_getDevice? found))
  | host host => exact reached.numbered.hosts (ground_card (hostAt?_of_getDevice? found))

/-- Switches and hosts are the devices. -/
theorem perm_ids (devices : List Device) :
    ((devices.filterMap Device.switch?).map Switch.id ++
      (devices.filterMap Device.host?).map Host.id).Perm (devices.map Device.id) := by
  induction devices with
  | nil => exact .nil
  | cons device rest ih =>
    cases device with
    | switch switch => exact ih.cons switch.id
    | host host => exact List.perm_middle.trans (ih.cons host.id)

/-- Read in order, the numbers of the devices are the first numbers there are. -/
theorem map_id_devices (reached : net.Reached) :
    net.devices.toList.map Device.id = List.range net.devices.size := by
  apply List.ext_getElem?
  intro id
  rw [List.getElem?_map, Array.getElem?_toList]
  cases found : net.devices[id]? with
  | none =>
    rw [List.getElem?_eq_none]
    · rfl
    · rw [List.length_range]
      exact Array.getElem?_eq_none_iff.mp found
  | some device =>
    rw [List.getElem?_range (lt_size_of_getDevice? found), Option.map_some, reached.number found]

/-! ## What callers may rely on -/

/-- The records of a network agree. -/
structure Coherent (net : Network) : Prop where
  /-- Of two link ends, each leads to the other or neither does. -/
  symm : ∀ a b, net.opposite? a = some b ↔ net.opposite? b = some a
  /-- A link end leads to one that exists. -/
  exists_end : ∀ a b, net.opposite? a = some b → net.HasEnd b
  /-- No link end occurs in two elements of the list of links. -/
  apart : net.links.toList.Pairwise fun link other =>
    link.1 ≠ other.1 ∧ link.1 ≠ other.2 ∧ link.2 ≠ other.1 ∧ link.2 ≠ other.2
  /-- The links are the connected pairs, upper port first. -/
  listed : ∀ south north, (south, north) ∈ net.links ↔
    net.opposite? south = some north ∧ south.port.isUpper = true
  /-- A link leaves an upper port, or a host, for a lower port of a switch elsewhere. -/
  shape : ∀ south north, (south, north) ∈ net.links →
    south.port.isUpper = true ∧ north.port.isUpper = false ∧ south.device ≠ north.device ∧
      net.HasEnd south ∧ ∃ switch, net.getSwitch north.device = .ok switch
  /-- The graph has one edge for each link, between the same devices. -/
  edges : List.Forall₂ Spans net.edges net.links.toList
  nodes : net.graph.numNodes = net.devices.size
  /-- Switches and hosts share the numbers below the number of devices. -/
  numbers : (net.switches.map Switch.id ++ net.hosts.map Host.id).Perm
    (List.range net.devices.size)
  /-- The fabric manager knows the switches, each with its own identity. -/
  registry : ∀ id identity, net.manager.switchIdentity? id = some identity ↔
    ∃ switch, net.getSwitch id = .ok switch ∧ switch.identity = identity

/-- **The fabric manager knows exactly the switches**, each under its number with its identity. -/
theorem Reached.registry (reached : net.Reached) (id : DeviceId) (identity : SwitchIdentity) :
    net.manager.switchIdentity? id = some identity ↔
      ∃ switch, net.getSwitch id = .ok switch ∧ switch.identity = identity := by
  have wired := reached.sturdy.wired
  constructor
  · intro known
    obtain ⟨outline, found⟩ := wired.enrolled known
    obtain ⟨switch, here, rfl⟩ := Option.map_eq_some_iff.mp found
    refine ⟨switch, getSwitch_eq_ok_iff.mpr here, ?_⟩
    exact Option.some.inj ((wired.registered found).symm.trans known)
  · rintro ⟨switch, found, rfl⟩
    exact wired.registered (ground_outline (getSwitch_eq_ok_iff.mp found))

/-- A lower port belongs to a switch. -/
theorem exists_switch_of_lower {key : Endpoint} (has : net.HasEnd key)
    (lower : key.port.isUpper = false) : ∃ switch, net.getSwitch key.device = .ok switch := by
  unfold HasEnd at has
  split at has
  · rename_i switch found
    exact ⟨switch, getSwitch_eq_ok_iff.mpr (switchAt?_of_getDevice? found)⟩
  · rw [has] at lower
    cases lower
  · cases has

/-- **Ports, uplinks, links, graph and registry agree in every network that users can bring
about**, whatever they build, link twice or get refused. -/
theorem topology_coherent (reached : net.Reached) : net.Coherent := by
  have matched := reached.matched
  refine
    { symm := fun a b => ⟨matched.symm, matched.symm⟩
      exists_end := fun a b leads => hasEnd_of_opposite? (matched.symm leads)
      apart := matched.apart
      listed := fun south north => matched.listed
      shape := fun south north mem => ?_
      edges := matched.edges
      nodes := reached.numbered.nodes
      numbers := ?_
      registry := reached.registry }
  · obtain ⟨up, down, apart⟩ := isLink_iff.mp (matched.shape _ mem)
    obtain ⟨leads, back⟩ := matched.ends mem
    exact ⟨up, down, apart, hasEnd_of_opposite? leads,
      exists_switch_of_lower (hasEnd_of_opposite? back) down⟩
  · rw [switches_eq, hosts_eq, ← map_id_devices reached]
    exact perm_ids net.devices.toList

end Build

/-- An edge switch with a host, below an aggregation switch. -/
def cottage : Network :=
  let net := ((Network.empty {} fun _ _ => 0).addSwitch "edge" ⟨.edge, 0, 0⟩ 2 2).2
  let net := (net.addHost "host" ⟨2, 0, 0, 0, 0, 1⟩ ⟨10, 0, 0, 2⟩).2
  let net := (net.addSwitch "aggregation" ⟨.aggregation, 0, 0⟩ 2 2).2
  let net := (net.attachHost 1 0 0).2
  (net.addLink ⟨0, .upper 1⟩ ⟨2, .lower 0⟩).2

/-- The cottage after three refused operations: a port linked again, a host attached again, and a
link to a port that does not exist. -/
def stubborn : Network :=
  let net := (cottage.addLink ⟨0, .upper 1⟩ ⟨2, .lower 1⟩).2
  let net := (net.attachHost 1 0 1).2
  (net.addLink ⟨0, .upper 0⟩ ⟨2, .lower 7⟩).2

/-- Refused operations are operations, too. -/
theorem reached_stubborn : stubborn.Reached :=
  ⟨_, _, ((((((((Leads.refl.build (.addSwitch ..)).build (.addHost ..)).build
    (.addSwitch ..)).build (.attachHost ..)).build (.addLink ..)).build (.addLink ..)).build
    (.attachHost ..)).build (.addLink ..))⟩

/-- Refused operations leave two links, which all records show. -/
theorem stubborn_coherent :
    stubborn.links = #[(⟨1, .upper 0⟩, ⟨0, .lower 0⟩), (⟨0, .upper 1⟩, ⟨2, .lower 0⟩)] ∧
      stubborn.Coherent :=
  ⟨by decide +kernel, topology_coherent reached_stubborn⟩

end Network

end PmacFabric
