import PmacFabric.FatTree.Build
import PmacFabric.Proofs.Network.Ground

/-!
# What the building operations change

Links and hosts change the ground of a network in one way: a port that was free gets a peer
(`Ground.connect`). `addLink_of_free` and `attachHost_of_free` say that the operations succeed on
free ports and do exactly this; `addLinks_of_free` does the same for a list of links that share no
end. All other parts of a network, the tables and the waiting events among them, stay.
-/

namespace PmacFabric

namespace Switch.Outline

def hasPort (outline : Outline) : Port → Prop
  | .lower i => i < outline.lower.length
  | .upper i => i < outline.upper.length

/-- Gives a port a peer. -/
def connect (outline : Outline) (port : Port) (peer : Endpoint) : Outline :=
  match port with
  | .lower i => { outline with lower := outline.lower.set i (some peer) }
  | .upper i => { outline with upper := outline.upper.set i (some peer) }

/-- A port that is connected has its new peer, and every other port the peer it had. -/
theorem peer?_connect {outline : Outline} {port : Port} (has : outline.hasPort port)
    (peer : Endpoint) (key : Port) :
    (outline.connect port peer).peer? key = if port = key then some peer else outline.peer? key := by
  cases port with
  | lower i =>
    have has : i < outline.lower.length := has
    cases key with
    | lower j =>
      simp only [connect, peer?, List.getElem?_set, has, if_true, Port.lower.injEq]
      split <;> rfl
    | upper j => rfl
  | upper i =>
    have has : i < outline.upper.length := has
    cases key with
    | lower j => rfl
    | upper j =>
      simp only [connect, peer?, List.getElem?_set, has, if_true, Port.upper.injEq]
      split <;> rfl

/-- What connecting a port keeps. -/
theorem connect_keeps (outline : Outline) (port : Port) (peer : Endpoint) :
    (outline.connect port peer).name = outline.name ∧
      (outline.connect port peer).id = outline.id ∧
      (outline.connect port peer).identity = outline.identity ∧
      (outline.connect port peer).lower.length = outline.lower.length ∧
      (outline.connect port peer).upper.length = outline.upper.length := by
  cases port with
  | lower i => exact ⟨rfl, rfl, rfl, List.length_set, rfl⟩
  | upper i => exact ⟨rfl, rfl, rfl, rfl, List.length_set⟩

end Switch.Outline

namespace Switch

/-- Setting a peer in place changes one of the peers. -/
theorem peers_modify_peer (ports : Array PortState) (i : Nat) (peer : Endpoint) :
    (ports.modify i fun state => { state with peer := some peer }).toList.map PortState.peer =
      (ports.toList.map PortState.peer).set i (some peer) := by
  apply List.ext_getElem?
  intro j
  simp only [List.getElem?_map, Array.getElem?_toList, Array.getElem?_modify, List.getElem?_set,
    List.length_map, Array.length_toList]
  by_cases same : i = j
  · subst same
    by_cases within : i < ports.size
    · simp only [if_true, Array.getElem?_eq_getElem within, Option.map_some, within]
    · simp only [if_true, Array.getElem?_eq_none (Nat.not_lt.mp within), Option.map_none, within,
        if_false]
  · simp only [same, if_false]

/-- Setting a peer of a switch connects the port in its outline. -/
theorem outline_setPeer (switch : Switch) (port : Port) (peer : Endpoint) :
    (switch.setPeer port peer).outline = switch.outline.connect port peer := by
  cases port <;> simp only [setPeer, modifyPort, outline, peers_modify_peer, Outline.connect]

theorem table_setPeer (switch : Switch) (port : Port) (peer : Endpoint) :
    (switch.setPeer port peer).table = switch.table :=
  table_modifyPort switch port _

theorem inbox_setPeer (switch : Switch) (port : Port) (peer : Endpoint) :
    (switch.setPeer port peer).inbox = switch.inbox :=
  inbox_modifyPort switch port _

/-- An outline has the ports of its switch. -/
theorem hasPort_outline (switch : Switch) (port : Port) :
    switch.outline.hasPort port ↔ (switch.port? port).isSome := by
  cases port with
  | lower i => rw [isSome_port?_lower, ← outline_numLower]; rfl
  | upper i => rw [isSome_port?_upper, ← outline_numUpper]; rfl

end Switch

namespace Network

namespace Ground

/-- The link end that a link end is connected to. -/
def peer? (ground : Ground) (target : Endpoint) : Option Endpoint :=
  (ground.outline target.device).bind fun outline => outline.peer? target.port

/-- Whether a link end is a port of a switch. -/
def HasPort (ground : Ground) (target : Endpoint) : Prop :=
  ∃ outline, ground.outline target.device = some outline ∧ outline.hasPort target.port

/-- Gives a link end a peer. -/
def connect (ground : Ground) (target peer : Endpoint) : Ground :=
  { ground with
    outline := fun id =>
      if target.device = id then (ground.outline id).map fun o => o.connect target.port peer
      else ground.outline id }

/-- A link end that is connected leads to its new peer, and all others where they led. -/
theorem peer?_connect {ground : Ground} {target : Endpoint} (has : ground.HasPort target)
    (peer key : Endpoint) :
    (ground.connect target peer).peer? key = if target = key then some peer else ground.peer? key := by
  obtain ⟨outline, found, has⟩ := has
  obtain ⟨device, port⟩ := target
  obtain ⟨device', port'⟩ := key
  by_cases same : device = device'
  · subst same
    have found : ground.outline device = some outline := found
    simp only [connect, peer?, if_true, found, Option.map_some, Option.bind_some,
      Switch.Outline.peer?_connect has, Endpoint.mk.injEq, true_and]
  · simp only [connect, peer?, same, if_false, Endpoint.mk.injEq, false_and]

/-- Connecting takes no port away. -/
theorem hasPort_connect {ground : Ground} (target peer : Endpoint) {key : Endpoint}
    (has : ground.HasPort key) : (ground.connect target peer).HasPort key := by
  obtain ⟨outline, found, has⟩ := has
  by_cases same : target.device = key.device
  · refine ⟨outline.connect target.port peer, ?_, ?_⟩
    · simp only [connect, if_pos same, found, Option.map_some]
    · obtain ⟨-, -, -, lower, upper⟩ := outline.connect_keeps target.port peer
      cases hport : key.port with
      | lower i => rw [hport] at has; exact Nat.lt_of_lt_of_eq has lower.symm
      | upper i => rw [hport] at has; exact Nat.lt_of_lt_of_eq has upper.symm
  · exact ⟨outline, by simp only [connect, if_neg same, found], has⟩

end Ground

/-- Where the peer of a port is read off the ground. -/
theorem peer?_of_switchAt? {net : Network} {id : DeviceId} {switch : Switch}
    (here : net.switchAt? id = some switch) (port : Port) :
    net.ground.peer? ⟨id, port⟩ = switch.peer? port := by
  rw [Ground.peer?, ground_outline here, Option.bind_some, Switch.outline_peer?]

/-- The events of copies of frames, through the ground. -/
theorem sent?_of_peer? {net : Network} {id : DeviceId} {switch : Switch} {port : Port}
    {peer : Endpoint} (here : net.switchAt? id = some switch)
    (linked : net.ground.peer? ⟨id, port⟩ = some peer) (frame : Frame) :
    switch.sent? (port, frame) = some (.frame peer frame) := by
  rw [Switch.sent?, ← peer?_of_switchAt? here, linked, Option.map_some]

/-! ## Connecting a port -/

/-- Changes the switch with a number, if there is one. -/
def modifySwitch (net : Network) (id : DeviceId) (f : Switch → Switch) : Network :=
  { net with
    devices := net.devices.modify id fun
      | .switch switch => .switch (f switch)
      | .host host => .host host }

/-- Gives a port a peer, whatever it had before. -/
def setPeer (net : Network) (target peer : Endpoint) : Network :=
  net.modifySwitch target.device fun switch => switch.setPeer target.port peer

/-- To replace a switch is to modify it, if it is there. -/
theorem setSwitch_eq_modifySwitch {net : Network} {id : DeviceId} {switch : Switch}
    (here : net.switchAt? id = some switch) (f : Switch → Switch) :
    net.setSwitch id (f switch) = net.modifySwitch id f := by
  have found : net.devices[id]? = some (.switch switch) := getDevice?_of_switchAt? here
  have devices : (net.setSwitch id (f switch)).devices = (net.modifySwitch id f).devices := by
    apply Array.ext_getElem?
    intro key
    simp only [setSwitch, modifySwitch, Array.getElem?_setIfInBounds, Array.getElem?_modify]
    split
    · rename_i same
      subst same
      rw [if_pos (lt_size_of_getDevice? found), found, Option.map_some]
    · rfl
  exact congrArg (fun devices => { net with devices }) devices

/-- Modifying a switch changes no other switch. -/
theorem switchAt?_modifySwitch (net : Network) (id : DeviceId) (f : Switch → Switch)
    (key : DeviceId) :
    (net.modifySwitch id f).switchAt? key =
      if id = key then (net.switchAt? key).map f else net.switchAt? key := by
  simp only [switchAt?, modifySwitch, Array.getElem?_modify]
  by_cases same : id = key
  · subst same
    simp only [if_true]
    cases net.devices[id]? with
    | none => rfl
    | some device => cases device <;> rfl
  · simp only [same, if_false]

/-- Modifying a switch changes no host. -/
theorem hostAt?_modifySwitch (net : Network) (id : DeviceId) (f : Switch → Switch)
    (key : DeviceId) : (net.modifySwitch id f).hostAt? key = net.hostAt? key := by
  simp only [hostAt?, modifySwitch, Array.getElem?_modify]
  by_cases same : id = key
  · subst same
    simp only [if_true]
    cases net.devices[id]? with
    | none => rfl
    | some device => cases device <;> rfl
  · simp only [same, if_false]

/-- Setting a peer connects the link end in the ground. -/
theorem ground_setPeer (net : Network) (target peer : Endpoint) :
    (net.setPeer target peer).ground = net.ground.connect target peer := by
  have outlines : (net.setPeer target peer).ground.outline =
      (net.ground.connect target peer).outline := by
    funext key
    show ((net.modifySwitch target.device _).switchAt? key).map Switch.outline = _
    rw [switchAt?_modifySwitch]
    simp only [Ground.connect, ground]
    split
    · cases net.switchAt? key with
      | none => rfl
      | some switch => exact congrArg some (switch.outline_setPeer target.port peer)
    · rfl
  have cards : (net.setPeer target peer).ground.card = net.ground.card := by
    funext key
    exact congrArg (Option.map Host.card) (hostAt?_modifySwitch net _ _ key)
  show Ground.mk _ _ _ = Ground.mk _ _ _
  exact congr (congr (congrArg Ground.mk outlines) cards) rfl

/-- A free port of a switch, seen from its switch. -/
theorem checkFree_of_hasPort {net : Network} {target : Endpoint} (has : net.ground.HasPort target)
    (free : net.ground.peer? target = none) :
    ∃ switch, net.switchAt? target.device = some switch ∧ switch.checkFree target.port = .ok () := by
  obtain ⟨outline, found, hport⟩ := has
  obtain ⟨switch, here, rfl⟩ := Option.map_eq_some_iff.mp found
  have noPeer : switch.peer? target.port = none := by
    rw [← Switch.outline_peer?]
    simpa only [Ground.peer?, found, Option.bind_some] using free
  obtain ⟨state, hstate⟩ := Option.isSome_iff_exists.mp ((switch.hasPort_outline _).mp hport)
  have : state.peer = none := by
    simpa only [Switch.peer?, hstate, Option.bind_some] using noPeer
  refine ⟨switch, here, ?_⟩
  simp only [Switch.checkFree, hstate, this, Option.isSome_none, Bool.false_eq_true, if_false]

/-- A free port of a switch passes the check. -/
theorem checkFree_of_free {net : Network} {target : Endpoint} (has : net.ground.HasPort target)
    (free : net.ground.peer? target = none) : net.checkFree target = .ok () := by
  obtain ⟨switch, here, passed⟩ := checkFree_of_hasPort has free
  simp only [checkFree, getSwitch_eq_ok_iff.mpr here, passed]
  rfl

/-- A free port of a switch is connected. -/
theorem connect_of_free {net : Network} {target : Endpoint} (has : net.ground.HasPort target)
    (free : net.ground.peer? target = none) (peer : Endpoint) :
    net.connect target peer = .ok (net.setPeer target peer) := by
  obtain ⟨switch, here, passed⟩ := checkFree_of_hasPort has free
  have done : switch.connect target.port peer = .ok (switch.setPeer target.port peer) := by
    rw [Switch.connect, passed]
    rfl
  simp only [connect, getSwitch_eq_ok_iff.mpr here, done]
  exact congrArg Except.ok
    (setSwitch_eq_modifySwitch here fun switch => switch.setPeer target.port peer)

/-- A loose host is attached. -/
theorem attach_of_loose {net : Network} {id : DeviceId} {host : Host}
    (here : net.hostAt? id = some host) (loose : host.uplink = none) (uplink : Endpoint) :
    net.attach id uplink = .ok (net.setHost id { host with uplink := some uplink }) := by
  simp only [attach, getHost_eq_ok_iff.mpr here, Host.attach, loose, Option.isSome_none,
    Bool.false_eq_true, if_false]

/-- A port that is free stays free when another one is connected. -/
theorem Ground.free_connect {ground : Ground} {target key : Endpoint} (peer : Endpoint)
    (has : ground.HasPort target) (other : target ≠ key)
    (free : ground.HasPort key ∧ ground.peer? key = none) :
    (ground.connect target peer).HasPort key ∧ (ground.connect target peer).peer? key = none := by
  refine ⟨hasPort_connect target peer free.1, ?_⟩
  rw [peer?_connect has, if_neg other]
  exact free.2

/-! ## Linking switches -/

/-- What building keeps: everything but the ground, the links and the registry. -/
structure SameTraffic (net net' : Network) : Prop where
  config : net'.config = net.config
  streams : net'.streams = net.streams
  queue : net'.queue = net.queue
  handled : net'.handled = net.handled
  trace : net'.trace = net.trace
  directory : net'.manager.directory = net.manager.directory

theorem SameTraffic.trans {a b c : Network} (h : SameTraffic a b) (h' : SameTraffic b c) :
    SameTraffic a c :=
  ⟨h'.config.trans h.config, h'.streams.trans h.streams, h'.queue.trans h.queue,
    h'.handled.trans h.handled, h'.trace.trans h.trace, h'.directory.trans h.directory⟩

/-- Switches forget nothing when a link is made. -/
theorem memoryAt?_setPeer (net : Network) (target peer : Endpoint) (key : DeviceId) :
    (net.setPeer target peer).memoryAt? key = net.memoryAt? key := by
  show ((net.modifySwitch target.device _).switchAt? key).map Switch.memory = _
  rw [switchAt?_modifySwitch]
  split
  · unfold memoryAt?
    cases net.switchAt? key with
    | none => rfl
    | some switch =>
      simp only [Option.map_some, Switch.memory, Switch.table_setPeer, Switch.inbox_setPeer]
  · rfl

/-- A network of switches that have seen no frame. -/
def Pristine (net : Network) : Prop :=
  (∀ id, net.hostAt? id = none) ∧
    ∀ id memory, net.memoryAt? id = some memory → memory = ⟨.empty, #[]⟩

/-- A network in which no frame was seen can be linked and stays so. -/
theorem Pristine.setPeer {net : Network} (pristine : net.Pristine) (target peer : Endpoint) :
    (net.setPeer target peer).Pristine :=
  ⟨fun id => (hostAt?_modifySwitch net _ _ id).trans (pristine.1 id), fun id memory found =>
    pristine.2 id memory ((memoryAt?_setPeer net target peer id).symm.trans found)⟩

/-- Gives both ends of a link their peers. -/
def Ground.link (ground : Ground) (link : Endpoint × Endpoint) : Ground :=
  (ground.connect link.1 link.2).connect link.2 link.1

/-- The network after a link between free ports. -/
def linked (net : Network) (south north : Endpoint) : Network :=
  { (net.setPeer south north).setPeer north south with
    graph := net.graph.addEdge south.device north.device
    links := net.links.push (south, north) }

/-- A link goes from an upper port to a lower port of another device. -/
theorem isLink_iff {south north : Endpoint} :
    isLink south north ↔
      south.port.isUpper = true ∧ north.port.isUpper = false ∧ south.device ≠ north.device := by
  simp only [isLink, Bool.and_eq_true, Bool.not_eq_true', bne_iff_ne, and_assoc]

/-- The ends of links of one list differ also crosswise, because one is upper and one lower. -/
theorem isLink_ne {s n s' n' : Endpoint} (h : isLink s n) (h' : isLink s' n') : s ≠ n' := by
  rintro rfl
  cases (isLink_iff.mp h).1.symm.trans (isLink_iff.mp h').2.1

/-- **A link between free ports is made**: no error occurs behind the checks. -/
theorem addLink_of_free {net : Network} {south north : Endpoint} (shape : isLink south north)
    (hasSouth : net.ground.HasPort south) (hasNorth : net.ground.HasPort north)
    (freeSouth : net.ground.peer? south = none) (freeNorth : net.ground.peer? north = none) :
    net.addLink south north = (.ok (), net.linked south north) := by
  have begun : (net.setPeer south north).ground.HasPort north ∧
      (net.setPeer south north).ground.peer? north = none := by
    rw [ground_setPeer]
    exact Ground.free_connect north hasSouth (isLink_ne shape shape) ⟨hasNorth, freeNorth⟩
  simp only [addLink, shape, Bool.not_true, Bool.false_eq_true, if_false,
    checkFree_of_free hasSouth freeSouth, checkFree_of_free hasNorth freeNorth,
    connect_of_free hasSouth freeSouth, connect_of_free begun.1 begun.2]
  rfl

/-- Linking two ports is one link of the ground. -/
theorem ground_linked (net : Network) (south north : Endpoint) :
    (net.linked south north).ground = net.ground.link (south, north) := by
  show ((net.setPeer south north).setPeer north south).ground = _
  rw [ground_setPeer, ground_setPeer]
  rfl

/-- Links that share no end and meet free ports. -/
structure Ground.Linkable (ground : Ground) (links : List (Endpoint × Endpoint)) : Prop where
  shape : ∀ link ∈ links, isLink link.1 link.2
  apart : links.Pairwise fun l m => l.1 ≠ m.1 ∧ l.2 ≠ m.2
  south : ∀ link ∈ links, ground.HasPort link.1 ∧ ground.peer? link.1 = none
  north : ∀ link ∈ links, ground.HasPort link.2 ∧ ground.peer? link.2 = none

/-- After the first of several links, the others can still be made. -/
theorem Ground.Linkable.rest {ground : Ground} {link : Endpoint × Endpoint}
    {links : List (Endpoint × Endpoint)} (h : ground.Linkable (link :: links)) :
    (ground.link link).Linkable links := by
  obtain ⟨apart, later⟩ := List.pairwise_cons.mp h.apart
  have own := h.shape link List.mem_cons_self
  have south := h.south link List.mem_cons_self
  have north := h.north link List.mem_cons_self
  have still : ∀ key, link.1 ≠ key → link.2 ≠ key → (ground.link link).peer? key = ground.peer? key := by
    intro key hs hn
    rw [Ground.link, Ground.peer?_connect (Ground.hasPort_connect _ _ north.1), if_neg hn,
      Ground.peer?_connect south.1, if_neg hs]
  have has : ∀ key, ground.HasPort key → (ground.link link).HasPort key := fun key hk =>
    Ground.hasPort_connect _ _ (Ground.hasPort_connect _ _ hk)
  refine ⟨fun m hm => h.shape m (List.mem_cons_of_mem _ hm), later, ?_, ?_⟩
  · intro m hm
    obtain ⟨port, free⟩ := h.south m (List.mem_cons_of_mem _ hm)
    have shape := h.shape m (List.mem_cons_of_mem _ hm)
    exact ⟨has _ port, (still _ (apart m hm).1 (isLink_ne shape own).symm).trans free⟩
  · intro m hm
    obtain ⟨port, free⟩ := h.north m (List.mem_cons_of_mem _ hm)
    have shape := h.shape m (List.mem_cons_of_mem _ hm)
    exact ⟨has _ port, (still _ (isLink_ne own shape) (apart m hm).2).trans free⟩

/-- The ground after a list of links. -/
def Ground.linkAll (ground : Ground) (links : List (Endpoint × Endpoint)) : Ground :=
  links.foldl Ground.link ground

/-- Links leave an end alone that none of them has. -/
theorem Ground.peer?_linkAll_of_apart {ground : Ground} {links : List (Endpoint × Endpoint)}
    (h : ground.Linkable links) {key : Endpoint}
    (apart : ∀ link ∈ links, link.1 ≠ key ∧ link.2 ≠ key) :
    (ground.linkAll links).peer? key = ground.peer? key := by
  induction links generalizing ground with
  | nil => rfl
  | cons link rest ih =>
    obtain ⟨hs, hn⟩ := apart link List.mem_cons_self
    have south := h.south link List.mem_cons_self
    have north := h.north link List.mem_cons_self
    show ((ground.link link).linkAll rest).peer? key = _
    rw [ih h.rest fun m hm => apart m (List.mem_cons_of_mem _ hm), Ground.link,
      peer?_connect (hasPort_connect _ _ north.1), if_neg hn, peer?_connect south.1, if_neg hs]

/-- After linking, the ends of every link are each other's peers. -/
theorem Ground.peer?_linkAll {ground : Ground} {links : List (Endpoint × Endpoint)}
    (h : ground.Linkable links) {link : Endpoint × Endpoint} (mem : link ∈ links) :
    (ground.linkAll links).peer? link.1 = some link.2 ∧
      (ground.linkAll links).peer? link.2 = some link.1 := by
  induction links generalizing ground with
  | nil => cases mem
  | cons first rest ih =>
    show ((ground.link first).linkAll rest).peer? _ = _ ∧ ((ground.link first).linkAll rest).peer? _ = _
    rcases List.mem_cons.mp mem with rfl | later
    · obtain ⟨apart, -⟩ := List.pairwise_cons.mp h.apart
      have own := h.shape link List.mem_cons_self
      have south := h.south link List.mem_cons_self
      have north := h.north link List.mem_cons_self
      have shape : ∀ m ∈ rest, isLink m.1 m.2 := fun m hm => h.shape m (List.mem_cons_of_mem _ hm)
      have northOf : (ground.connect link.1 link.2).HasPort link.2 := hasPort_connect _ _ north.1
      constructor
      · rw [peer?_linkAll_of_apart h.rest fun m hm =>
          ⟨(apart m hm).1.symm, (isLink_ne own (shape m hm)).symm⟩, Ground.link,
          peer?_connect northOf, if_neg (isLink_ne own own).symm, peer?_connect south.1, if_pos rfl]
      · rw [peer?_linkAll_of_apart h.rest fun m hm =>
          ⟨isLink_ne (shape m hm) own, (apart m hm).2.symm⟩, Ground.link,
          peer?_connect northOf, if_pos rfl]
    · exact ih h.rest later

/-- **Links between free ports that share no end are all made.** -/
theorem addLinks_of_free (links : List (Endpoint × Endpoint)) (net : Network)
    (h : net.ground.Linkable links) :
    ∃ net', net.addLinks links = (.ok (), net') ∧ net'.ground = net.ground.linkAll links ∧
      SameTraffic net net' ∧ net'.devices.size = net.devices.size ∧
      (net.Pristine → net'.Pristine) := by
  induction links generalizing net with
  | nil => exact ⟨net, rfl, rfl, ⟨rfl, rfl, rfl, rfl, rfl, rfl⟩, rfl, id⟩
  | cons link rest ih =>
    obtain ⟨south, north⟩ := link
    have hs := h.south _ List.mem_cons_self
    have hn := h.north _ List.mem_cons_self
    have done := addLink_of_free (h.shape _ List.mem_cons_self) hs.1 hn.1 hs.2 hn.2
    have later : (net.linked south north).ground.Linkable rest := by
      rw [ground_linked]
      exact h.rest
    obtain ⟨net', added, ground, same, size, pristine⟩ := ih (net.linked south north) later
    refine ⟨net', ?_, ?_, ?_, ?_, fun fresh => pristine ?_⟩
    · rw [addLinks, done]
      exact added
    · rw [ground, ground_linked]
      rfl
    · exact SameTraffic.trans (b := net.linked south north) ⟨rfl, rfl, rfl, rfl, rfl, rfl⟩ same
    · rw [size]
      simp only [linked, setPeer, modifySwitch, Array.size_modify]
    · exact (fresh.setPeer south north).setPeer north south

/-! ## Adding a host -/

/-- Adding a host changes no switch. -/
theorem switchAt?_addHost (net : Network) (name : String) (amac : MacAddress) (ip : Ipv4Address)
    (key : DeviceId) : (net.addHost name amac ip).2.switchAt? key = net.switchAt? key := by
  show (Array.push _ _)[key]?.bind Device.switch? = net.devices[key]?.bind Device.switch?
  rw [Array.getElem?_push]
  split
  · rename_i last
    rw [last, Array.getElem?_eq_none (Nat.le_refl _)]
    rfl
  · rfl

/-- A host that is added is known by the next free number. -/
theorem hostAt?_addHost (net : Network) (name : String) (amac : MacAddress) (ip : Ipv4Address)
    (key : DeviceId) :
    (net.addHost name amac ip).2.hostAt? key =
      if key = net.devices.size then some (.new name net.devices.size amac ip)
      else net.hostAt? key := by
  show (Array.push _ _)[key]?.bind Device.host? = _
  rw [Array.getElem?_push]
  split <;> rfl

/-- The number of the next device belongs to none yet. -/
theorem hostAt?_size (net : Network) : net.hostAt? net.devices.size = none := by
  simp only [hostAt?, Array.getElem?_eq_none (Nat.le_refl _), Option.bind_none]

/-- The network after a host has been attached to a free port. -/
def attached (net : Network) (id switch : DeviceId) (port : Nat) (host : Host) : Network :=
  { (net.setPeer ⟨switch, .lower port⟩ ⟨id, .upper 0⟩).setHost id
      { host with uplink := some ⟨switch, .lower port⟩ } with
    graph := net.graph.addEdge switch id
    links := net.links.push (⟨id, .upper 0⟩, ⟨switch, .lower port⟩) }

/-- A host without a link can be attached to any free lower port. -/
theorem attachHost_of_free {net : Network} {id switch : DeviceId} {port : Nat} {host : Host}
    (here : net.hostAt? id = some host) (loose : host.uplink = none)
    (has : net.ground.HasPort ⟨switch, .lower port⟩)
    (free : net.ground.peer? ⟨switch, .lower port⟩ = none) :
    net.attachHost id switch port = (.ok (), net.attached id switch port host) := by
  have still : (net.setPeer ⟨switch, .lower port⟩ ⟨id, .upper 0⟩).hostAt? id = some host :=
    (hostAt?_modifySwitch net _ _ id).trans here
  simp only [attachHost, getHost_eq_ok_iff.mpr here, loose, Option.isSome_none,
    Bool.false_eq_true, if_false, checkFree_of_free has free, connect_of_free has free,
    attach_of_loose still loose]
  rfl

/-- A host that has been attached and has done nothing yet. -/
def newcomer (name : String) (id : DeviceId) (amac : MacAddress) (ip : Ipv4Address)
    (uplink : Endpoint) : Host :=
  { Host.new name id amac ip with uplink := some uplink }

/-- How a network changes when a new host is attached to a free port. -/
structure Joined (net net' : Network) (host : Host) (uplink : Endpoint) : Prop where
  result : net' = (net.addHost host.name host.amac host.ip).2.attached host.id uplink.device
    uplink.port.index (.new host.name host.id host.amac host.ip)
  traffic : SameTraffic net net'
  memory : ∀ key, net'.memoryAt? key = net.memoryAt? key
  hosts : ∀ key, net'.hostAt? key = if key = host.id then some host else net.hostAt? key
  outline : net'.ground.outline = (net.ground.connect uplink ⟨host.id, .upper 0⟩).outline
  registry : net'.ground.registry = net.ground.registry
  size : net'.devices.size = net.devices.size + 1

/-- **A new host joins at a free port.** -/
theorem attachHost_addHost {net : Network} {switch : DeviceId} {port : Nat} (name : String)
    (amac : MacAddress) (ip : Ipv4Address) (has : net.ground.HasPort ⟨switch, .lower port⟩)
    (free : net.ground.peer? ⟨switch, .lower port⟩ = none) :
    ∃ net', (net.addHost name amac ip).2.attachHost net.devices.size switch port = (.ok (), net') ∧
      Joined net net' (newcomer name net.devices.size amac ip ⟨switch, .lower port⟩)
        ⟨switch, .lower port⟩ := by
  have here : (net.addHost name amac ip).2.hostAt? net.devices.size =
      some (.new name net.devices.size amac ip) := by
    rw [hostAt?_addHost, if_pos rfl]
  have outlines : (net.addHost name amac ip).2.ground.outline = net.ground.outline := by
    funext key
    exact congrArg (Option.map Switch.outline) (switchAt?_addHost net name amac ip key)
  have has' : (net.addHost name amac ip).2.ground.HasPort ⟨switch, .lower port⟩ := by
    unfold Ground.HasPort
    rw [outlines]
    exact has
  have free' : (net.addHost name amac ip).2.ground.peer? ⟨switch, .lower port⟩ = none := by
    unfold Ground.peer?
    rw [outlines]
    exact free
  -- Connecting the port does not touch the host, which is then overwritten.
  have still : ((net.addHost name amac ip).2.setPeer ⟨switch, .lower port⟩
      ⟨net.devices.size, .upper 0⟩).hostAt? net.devices.size =
        some (.new name net.devices.size amac ip) :=
    (hostAt?_modifySwitch _ _ _ _).trans here
  refine ⟨_, attachHost_of_free here rfl has' free', rfl, ⟨rfl, rfl, rfl, rfl, rfl, rfl⟩,
    ?_, ?_, ?_, rfl, ?_⟩
  · intro key
    refine (memoryAt?_setHost still _ key).trans ?_
    rw [memoryAt?_setPeer]
    exact congrArg (Option.map Switch.memory) (switchAt?_addHost net name amac ip key)
  · intro key
    refine (hostAt?_setHost still _ key).trans ?_
    show _ = if key = net.devices.size then _ else _
    by_cases last : key = net.devices.size
    · rw [if_pos last.symm, if_pos last]
      rfl
    · have untouched := hostAt?_modifySwitch (net.addHost name amac ip).2 switch
        (fun s => s.setPeer (.lower port) ⟨net.devices.size, .upper 0⟩) key
      rw [if_neg (Ne.symm last), if_neg last]
      exact untouched.trans ((hostAt?_addHost net name amac ip key).trans (if_neg last))
  · funext key
    have connected := ground_setPeer (net.addHost name amac ip).2 ⟨switch, .lower port⟩
      ⟨net.devices.size, .upper 0⟩
    refine (congrArg (Option.map Switch.outline) (switchAt?_setHost still _ key)).trans
      ((congrArg (fun ground : Ground => ground.outline key) connected).trans ?_)
    unfold Ground.connect
    dsimp only
    rw [outlines]
    rfl
  · simp only [attached, setHost, setPeer, modifySwitch, addHost, Array.size_setIfInBounds,
      Array.size_modify, Array.size_push]

/-! ## What building does not read -/

section Redressed

/-- The same network with other parameters, other streams and another trace. -/
def redressed (net : Network) (config : FabricConfig → FabricConfig)
    (streams : (DeviceId → Choice.Stream) → DeviceId → Choice.Stream)
    (trace : Option (Array String) → Option (Array String)) : Network :=
  { net with
    config := config net.config
    streams := streams net.streams
    trace := trace net.trace }

variable (net : Network) {config : FabricConfig → FabricConfig}
  {streams : (DeviceId → Choice.Stream) → DeviceId → Choice.Stream}
  {trace : Option (Array String) → Option (Array String)}

/-- Connecting a port does not depend on parameters, streams or trace. -/
theorem connect_redressed (target peer : Endpoint) :
    (net.redressed config streams trace).connect target peer =
      (net.connect target peer).map fun connected => connected.redressed config streams trace := by
  have found : (net.redressed config streams trace).getSwitch target.device =
      net.getSwitch target.device := rfl
  unfold connect
  rw [found]
  cases net.getSwitch target.device with
  | error e => rfl
  | ok switch =>
    dsimp only
    cases switch.connect target.port peer <;> rfl

/-- Giving a host its uplink does not depend on parameters, streams or trace. -/
theorem attach_redressed (id : DeviceId) (uplink : Endpoint) :
    (net.redressed config streams trace).attach id uplink =
      (net.attach id uplink).map fun attached => attached.redressed config streams trace := by
  have found : (net.redressed config streams trace).getHost id = net.getHost id := rfl
  unfold attach
  rw [found]
  cases net.getHost id with
  | error e => rfl
  | ok host =>
    dsimp only
    cases host.attach uplink <;> rfl

/-- Adding a link does not depend on parameters, streams or trace. -/
theorem addLink_redressed (south north : Endpoint) :
    (net.redressed config streams trace).addLink south north =
      ((net.addLink south north).1,
        (net.addLink south north).2.redressed config streams trace) := by
  have free : ∀ target, (net.redressed config streams trace).checkFree target =
      net.checkFree target := fun _ => rfl
  unfold addLink
  rw [free, free, connect_redressed]
  split
  · rfl
  · cases net.checkFree south with
    | error e => rfl
    | ok _ =>
      cases net.checkFree north with
      | error e => rfl
      | ok _ =>
        cases net.connect south north with
        | error e => rfl
        | ok begun =>
          simp only [Except.map, connect_redressed]
          cases begun.connect north south <;> rfl

/-- Attaching a host does not depend on parameters, streams or trace. -/
theorem attachHost_redressed (id switch : DeviceId) (port : Nat) :
    (net.redressed config streams trace).attachHost id switch port =
      ((net.attachHost id switch port).1,
        (net.attachHost id switch port).2.redressed config streams trace) := by
  have found : (net.redressed config streams trace).getHost id = net.getHost id := rfl
  have free : ∀ target, (net.redressed config streams trace).checkFree target =
      net.checkFree target := fun _ => rfl
  unfold attachHost
  dsimp only
  rw [found, free, connect_redressed]
  cases net.getHost id with
  | error e => rfl
  | ok host =>
    dsimp only
    split
    · rfl
    · cases net.checkFree ⟨switch, .lower port⟩ with
      | error e => rfl
      | ok _ =>
        cases net.connect ⟨switch, .lower port⟩ ⟨id, .upper 0⟩ with
        | error e => rfl
        | ok begun =>
          simp only [Except.map, attach_redressed]
          cases begun.attach id ⟨switch, .lower port⟩ <;> rfl

end Redressed

end Network

end PmacFabric
