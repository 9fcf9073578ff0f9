import PmacFabric.Proofs.Network.Moves

/-!
# Links and ports agree

Two laws about all networks that users can bring about. The ground only **grows**: a switch keeps
its build, a port its peer, an attached host its card and the fabric manager its registry
(`Leads.grows`). And it is **wired**: the list of links, the peers of the ports and the uplinks of
the hosts tell the same, and every switch is registered under its number (`Build.wired`).

It follows that a port with a link leads to somebody who takes what arrives there (`peer_takes`).
-/

namespace PmacFabric

/-- Outlines of one switch, before and after some of its ports were connected. -/
structure Switch.Outline.SameBuild (outline later : Switch.Outline) : Prop where
  name : later.name = outline.name
  id : later.id = outline.id
  identity : later.identity = outline.identity
  lower : later.lower.length = outline.lower.length
  upper : later.upper.length = outline.upper.length

theorem Switch.Outline.SameBuild.refl (outline : Switch.Outline) : outline.SameBuild outline :=
  ⟨rfl, rfl, rfl, rfl, rfl⟩

theorem Switch.Outline.SameBuild.trans {a b c : Switch.Outline} (h : a.SameBuild b)
    (h' : b.SameBuild c) : a.SameBuild c :=
  ⟨h'.name.trans h.name, h'.id.trans h.id, h'.identity.trans h.identity, h'.lower.trans h.lower,
    h'.upper.trans h.upper⟩

/-- Connecting a port does not rebuild the switch. -/
theorem Switch.Outline.sameBuild_connect (outline : Switch.Outline) (port : Port)
    (peer : Endpoint) : outline.SameBuild (outline.connect port peer) := by
  obtain ⟨name, id, identity, lower, upper⟩ := outline.connect_keeps port peer
  exact ⟨name, id, identity, lower, upper⟩

namespace Network

/-! ## Growth -/

/-- What building keeps of a ground. -/
structure Ground.Grows (ground later : Ground) : Prop where
  outline : ∀ {id outline}, ground.outline id = some outline →
    ∃ outline', later.outline id = some outline' ∧ outline.SameBuild outline'
  peer : ∀ {target peer}, ground.peer? target = some peer → later.peer? target = some peer
  card : ∀ {id card}, ground.card id = some card → card.uplink.isSome → later.card id = some card
  registry : ∀ {id : DeviceId} {identity}, ground.registry[id]? = some identity →
    later.registry[id]? = some identity

theorem Ground.Grows.refl (ground : Ground) : ground.Grows ground :=
  ⟨fun found => ⟨_, found, .refl _⟩, id, fun found _ => found, id⟩

theorem Ground.Grows.trans {a b c : Ground} (h : a.Grows b) (h' : b.Grows c) : a.Grows c := by
  refine ⟨fun found => ?_, fun found => h'.peer (h.peer found),
    fun found up => h'.card (h.card found up) up, fun found => h'.registry (h.registry found)⟩
  obtain ⟨outline', found', same⟩ := h.outline found
  obtain ⟨outline'', found'', same'⟩ := h'.outline found'
  exact ⟨outline'', found'', same.trans same'⟩

/-- Connecting a free port takes nothing away. -/
theorem Ground.grows_connect {ground : Ground} {target : Endpoint} (has : ground.HasPort target)
    (free : ground.peer? target = none) (peer : Endpoint) :
    ground.Grows (ground.connect target peer) := by
  refine ⟨fun {id outline} found => ?_, fun {key old} found => ?_, fun found _ => found, id⟩
  · simp only [connect]
    split
    · exact ⟨_, by rw [found, Option.map_some], outline.sameBuild_connect target.port peer⟩
    · exact ⟨outline, found, .refl outline⟩
  · rw [peer?_connect has]
    split
    · rename_i same
      rw [← same, free] at found
      cases found
    · exact found

/-- The next free number is not that of a switch. -/
theorem switchAt?_size (net : Network) : net.switchAt? net.devices.size = none := by
  simp only [switchAt?, Array.getElem?_eq_none (Nat.le_refl _), Option.bind_none]

/-- A new switch has the next free number, and the others stay. -/
theorem switchAt?_addSwitch (net : Network) (name : String) (identity : SwitchIdentity)
    (numLower numUpper : Nat) (key : DeviceId) :
    (net.addSwitch name identity numLower numUpper).2.switchAt? key =
      if key = net.devices.size then some (.new name net.devices.size identity numLower numUpper)
      else net.switchAt? key := by
  show (Array.push _ _)[key]?.bind Device.switch? = _
  rw [Array.getElem?_push]
  split <;> rfl

/-- A new switch changes no host. -/
theorem hostAt?_addSwitch (net : Network) (name : String) (identity : SwitchIdentity)
    (numLower numUpper : Nat) (key : DeviceId) :
    (net.addSwitch name identity numLower numUpper).2.hostAt? key = net.hostAt? key := by
  show (Array.push _ _)[key]?.bind Device.host? = net.devices[key]?.bind Device.host?
  rw [Array.getElem?_push]
  split
  · rename_i last
    rw [last, Array.getElem?_eq_none (Nat.le_refl _)]
    rfl
  · rfl

section AddSwitch

variable (net : Network) (name : String) (identity : SwitchIdentity) (numLower numUpper : Nat)

/-- The outline of a new switch is on the ground. -/
theorem outline_addSwitch (key : DeviceId) :
    (net.addSwitch name identity numLower numUpper).2.ground.outline key =
      if key = net.devices.size then
        some (Switch.new name net.devices.size identity numLower numUpper).outline
      else net.ground.outline key := by
  show (Network.switchAt? _ key).map Switch.outline = _
  rw [switchAt?_addSwitch]
  split <;> rfl

/-- No port of a new switch leads anywhere. -/
theorem peer?_addSwitch (target : Endpoint) :
    (net.addSwitch name identity numLower numUpper).2.ground.peer? target =
      net.ground.peer? target := by
  rw [Ground.peer?, outline_addSwitch]
  split
  · rename_i last
    have absent : net.ground.outline target.device = none := by
      simp only [ground, last, switchAt?_size, Option.map_none]
    rw [Option.bind_some, Switch.outline_peer?, Switch.peer?_new, Ground.peer?, absent,
      Option.bind_none]
  · rfl

/-- A new switch changes no card of a host. -/
theorem card_addSwitch :
    (net.addSwitch name identity numLower numUpper).2.ground.card = net.ground.card :=
  funext fun key =>
    congrArg (Option.map Host.card) (hostAt?_addSwitch net name identity numLower numUpper key)

/-- The ground grows by a new switch. -/
theorem grows_addSwitch :
    net.ground.Grows (net.addSwitch name identity numLower numUpper).2.ground := by
  refine ⟨fun {id outline} found => ⟨outline, ?_, .refl outline⟩, fun {target peer} found => ?_,
    fun {id card} found _ => ?_, fun {id identity'} found => ?_⟩
  · rw [outline_addSwitch, if_neg, found]
    rintro rfl
    simp only [ground, switchAt?_size, Option.map_none] at found
    cases found
  · rw [peer?_addSwitch, found]
  · rw [card_addSwitch, found]
  · show (net.manager.switches.insertIfNew net.devices.size identity)[id]? = _
    have found : net.manager.switches[id]? = some identity' := found
    rw [Std.TreeMap.getElem?_insertIfNew, if_neg, found]
    rintro ⟨same, fresh⟩
    rw [Std.compare_eq_iff_eq] at same
    subst same
    rw [← Std.TreeMap.isSome_getElem?_iff_mem, found] at fresh
    exact fresh rfl

end AddSwitch

/-- A new host leaves all outlines alone. -/
theorem outline_addHost (net : Network) (name : String) (amac : MacAddress) (ip : Ipv4Address) :
    (net.addHost name amac ip).2.ground.outline = net.ground.outline :=
  funext fun key => congrArg (Option.map Switch.outline) (switchAt?_addHost net name amac ip key)

/-- A new host has its card under the next free number. -/
theorem card_addHost (net : Network) (name : String) (amac : MacAddress) (ip : Ipv4Address)
    (key : DeviceId) :
    (net.addHost name amac ip).2.ground.card key =
      if key = net.devices.size then some (Host.new name net.devices.size amac ip).card
      else net.ground.card key := by
  show (Network.hostAt? _ key).map Host.card = _
  rw [hostAt?_addHost]
  split <;> rfl

/-- A new host changes no peer. -/
theorem peer?_addHost (net : Network) (name : String) (amac : MacAddress) (ip : Ipv4Address)
    (target : Endpoint) :
    (net.addHost name amac ip).2.ground.peer? target = net.ground.peer? target := by
  rw [Ground.peer?, outline_addHost, Ground.peer?]

/-- The ground grows by a new host. -/
theorem grows_addHost (net : Network) (name : String) (amac : MacAddress) (ip : Ipv4Address) :
    net.ground.Grows (net.addHost name amac ip).2.ground := by
  refine ⟨fun {id outline} found => ⟨outline, ?_, .refl outline⟩, fun {target peer} found => ?_,
    fun {id card} found _ => ?_, id⟩
  · rw [outline_addHost, found]
  · rw [peer?_addHost, found]
  · rw [card_addHost, if_neg, found]
    rintro rfl
    simp only [ground, hostAt?_size, Option.map_none] at found
    cases found

/-- What attaching a host does to the ground. -/
theorem ground_attached {net : Network} {id : DeviceId} {host : Host}
    (here : net.hostAt? id = some host) (switch : DeviceId) (port : Nat) :
    (net.attached id switch port host).ground =
      { net.ground.connect ⟨switch, .lower port⟩ ⟨id, .upper 0⟩ with
        card := fun key =>
          if id = key then some { host.card with uplink := some ⟨switch, .lower port⟩ }
          else net.ground.card key } := by
  have still : (net.setPeer ⟨switch, .lower port⟩ ⟨id, .upper 0⟩).hostAt? id = some host :=
    (hostAt?_modifySwitch net _ _ id).trans here
  have connected := ground_setPeer net ⟨switch, .lower port⟩ ⟨id, .upper 0⟩
  have outlines : (net.attached id switch port host).ground.outline =
      (net.ground.connect ⟨switch, .lower port⟩ ⟨id, .upper 0⟩).outline := by
    funext key
    show ((Network.setHost _ _ _).switchAt? key).map Switch.outline = _
    rw [switchAt?_setHost still, ← connected]
    rfl
  have cards : (net.attached id switch port host).ground.card = fun key =>
      if id = key then some { host.card with uplink := some ⟨switch, .lower port⟩ }
      else net.ground.card key := by
    funext key
    show ((Network.setHost _ _ _).hostAt? key).map Host.card = _
    rw [hostAt?_setHost still]
    split
    · rfl
    · exact congrArg (Option.map Host.card) (hostAt?_modifySwitch net _ _ key)
  show Ground.mk _ _ _ = Ground.mk _ _ _
  exact congr (congr (congrArg Ground.mk outlines) cards) rfl

/-- Building takes nothing away. -/
theorem Build.grows {net after : Network} (move : net.Build after) :
    net.ground.Grows after.ground := by
  cases move with
  | addSwitch name identity numLower numUpper => exact grows_addSwitch ..
  | addHost name amac ip => exact grows_addHost ..
  | addLink south north =>
    rcases net.addLink_cases south north with same | ⟨shape, freeSouth, freeNorth, linked⟩
    · rw [same]
      exact .refl _
    · have free := Ground.free_connect north freeSouth.1 (isLink_ne shape shape) freeNorth
      rw [linked, ground_linked]
      exact (Ground.grows_connect freeSouth.1 freeSouth.2 north).trans
        (Ground.grows_connect free.1 free.2 south)
  | attachHost id switch port =>
    rcases net.attachHost_cases id switch port with same | ⟨host, here, loose, free, attached⟩
    · rw [same]
      exact .refl _
    · have connected := Ground.grows_connect free.1 free.2 ⟨id, .upper 0⟩
      rw [attached, ground_attached here]
      refine ⟨connected.outline, connected.peer, fun {key card} found up => ?_, fun found => found⟩
      show (if id = key then _ else _) = _
      rw [if_neg]
      · exact found
      · rintro rfl
        rw [ground_card here] at found
        cases found
        rw [Host.card, loose] at up
        cases up

/-- **Whatever happens, the ground only grows.** -/
theorem Leads.grows {net later : Network} (leads : net.Leads later) :
    net.ground.Grows later.ground := by
  induction leads with
  | refl => exact .refl _
  | build _ move ih => exact ih.trans move.grows
  | work _ move ih => exact move.ground ▸ ih

/-! ## The switches of a network that is built on -/

section Remembered

variable {net after : Network}

/-- A switch one of whose ports was given a peer is of the same build as before, and remembers the
same. -/
theorem switchAt?_of_setPeer {target peer : Endpoint} {id : DeviceId} {switch' : Switch}
    (found : (net.setPeer target peer).switchAt? id = some switch') :
    ∃ switch, net.switchAt? id = some switch ∧ switch.outline.SameBuild switch'.outline ∧
      switch'.memory = switch.memory := by
  rw [setPeer, switchAt?_modifySwitch] at found
  split at found
  · obtain ⟨switch, here, rfl⟩ := Option.map_eq_some_iff.mp found
    refine ⟨switch, here, ?_, ?_⟩
    · rw [Switch.outline_setPeer]
      exact switch.outline.sameBuild_connect target.port peer
    · rw [Switch.memory, Switch.table_setPeer, Switch.inbox_setPeer, Switch.memory]
  · exact ⟨switch', found, .refl _, rfl⟩

/-- A switch of a network that has been built on is new, or it has been there and remembers what it
did. -/
theorem Build.switchAt? (move : net.Build after) {id : DeviceId} {switch' : Switch}
    (found : after.switchAt? id = some switch') :
    switch'.memory = ⟨.empty, #[]⟩ ∨ ∃ switch, net.switchAt? id = some switch ∧
      switch.outline.SameBuild switch'.outline ∧ switch'.memory = switch.memory := by
  have unchanged (here : net.switchAt? id = some switch') : switch'.memory = ⟨.empty, #[]⟩ ∨
      ∃ switch, net.switchAt? id = some switch ∧ switch.outline.SameBuild switch'.outline ∧
        switch'.memory = switch.memory := .inr ⟨switch', here, .refl _, rfl⟩
  cases move with
  | addSwitch =>
    rw [switchAt?_addSwitch] at found
    split at found
    · cases found
      exact .inl rfl
    · exact unchanged found
  | addHost =>
    rw [switchAt?_addHost] at found
    exact unchanged found
  | addLink south north =>
    rcases net.addLink_cases south north with same | ⟨-, -, -, linked⟩
    · rw [same] at found
      exact unchanged found
    · rw [linked] at found
      obtain ⟨mid, here, same, memory⟩ := switchAt?_of_setPeer found
      obtain ⟨switch, here', same', memory'⟩ := switchAt?_of_setPeer here
      exact .inr ⟨switch, here', same'.trans same, memory.trans memory'⟩
  | attachHost host switch port =>
    rcases net.attachHost_cases host switch port with same | ⟨old, here, -, -, attached⟩
    · rw [same] at found
      exact unchanged found
    · rw [attached] at found
      have still : (net.setPeer ⟨switch, .lower port⟩ ⟨host, .upper 0⟩).hostAt? host = some old :=
        (hostAt?_modifySwitch net _ _ host).trans here
      exact .inr (switchAt?_of_setPeer ((switchAt?_setHost still _ id).symm.trans found))

end Remembered

/-! ## Wiring -/

/-- Whether frames can arrive at a link end: it belongs to a switch or to an attached host. -/
def Ground.Takes (ground : Ground) (target : Endpoint) : Prop :=
  (∃ outline, ground.outline target.device = some outline) ∨
    ∃ card, ground.card target.device = some card ∧ card.uplink.isSome ∧ target.port = .upper 0

/-- Frames still arrive at a link end after more has been built. -/
theorem Ground.Takes.mono {ground later : Ground} (grows : ground.Grows later) {target : Endpoint}
    (takes : ground.Takes target) : later.Takes target := by
  rcases takes with ⟨outline, found⟩ | ⟨card, found, up, port⟩
  · obtain ⟨outline', found', -⟩ := grows.outline found
    exact .inl ⟨outline', found'⟩
  · exact .inr ⟨card, grows.card found up, up, port⟩

/-- A link goes from an upper port of a switch or an attached host to a lower port of a switch. -/
structure Ground.Joins (ground : Ground) (link : Endpoint × Endpoint) : Prop where
  south : ground.Takes link.1
  up : ∃ j, link.1.port = .upper j
  north : ∃ outline, ground.outline link.2.device = some outline
  down : ∃ i, link.2.port = .lower i

/-- A link still joins its ends after more has been built. -/
theorem Ground.Joins.mono {ground later : Ground} (grows : ground.Grows later)
    {link : Endpoint × Endpoint} (joins : ground.Joins link) : later.Joins link := by
  obtain ⟨outline, found⟩ := joins.north
  obtain ⟨outline', found', -⟩ := grows.outline found
  exact ⟨joins.south.mono grows, joins.up, ⟨outline', found'⟩, joins.down⟩

/-- Ports, uplinks and links tell the same, and switches are registered under their numbers. -/
structure Ground.Wired (ground : Ground) (links : Array (Endpoint × Endpoint)) : Prop where
  number : ∀ {id outline}, ground.outline id = some outline → outline.id = id
  registered : ∀ {id outline}, ground.outline id = some outline →
    ground.registry[id]? = some outline.identity
  enrolled : ∀ {id : DeviceId} {identity}, ground.registry[id]? = some identity →
    ∃ outline, ground.outline id = some outline
  upper : ∀ {id j peer}, ground.peer? ⟨id, .upper j⟩ = some peer → (⟨id, .upper j⟩, peer) ∈ links
  lower : ∀ {id i peer}, ground.peer? ⟨id, .lower i⟩ = some peer → (peer, ⟨id, .lower i⟩) ∈ links
  uplink : ∀ {id card peer}, ground.card id = some card → card.uplink = some peer →
    (⟨id, .upper 0⟩, peer) ∈ links
  joins : ∀ {link}, link ∈ links → ground.Joins link

/-- A port leads from one end of a link to the other. -/
theorem Ground.Wired.peer_takes {ground : Ground} {links : Array (Endpoint × Endpoint)}
    (wired : ground.Wired links) {target peer : Endpoint} (leads : ground.peer? target = some peer) :
    ground.Takes peer := by
  obtain ⟨id, port⟩ := target
  cases port with
  | lower i => exact (wired.joins (wired.lower leads)).south
  | upper j => exact .inl (wired.joins (wired.upper leads)).north

/-- The link ends of other ports, and the switches, are those from before. -/
theorem Ground.outline_of_connect {ground : Ground} {target peer : Endpoint} {id : DeviceId}
    {outline : Switch.Outline} (found : (ground.connect target peer).outline id = some outline) :
    ∃ old, ground.outline id = some old ∧ old.SameBuild outline := by
  simp only [connect] at found
  split at found
  · obtain ⟨old, here, rfl⟩ := Option.map_eq_some_iff.mp found
    exact ⟨old, here, old.sameBuild_connect target.port peer⟩
  · exact ⟨outline, found, .refl outline⟩

/-- Old switches keep their numbers and their registration. -/
theorem Ground.Wired.outline {ground later : Ground} {links : Array (Endpoint × Endpoint)}
    (wired : ground.Wired links)
    (old : ∀ {id outline}, later.outline id = some outline →
      ∃ before, ground.outline id = some before ∧ before.SameBuild outline)
    (registry : later.registry = ground.registry) {id : DeviceId} {outline : Switch.Outline}
    (found : later.outline id = some outline) :
    outline.id = id ∧ later.registry[id]? = some outline.identity := by
  obtain ⟨before, here, same⟩ := old found
  rw [same.id, same.identity, registry]
  exact ⟨wired.number here, wired.registered here⟩

/-- A network is wired before anything is added. -/
theorem wired_empty (config : FabricConfig) (streams : DeviceId → Choice.Stream) :
    (Network.empty config streams).ground.Wired #[] := by
  have bare : ∀ id, (Network.empty config streams).ground.outline id = none := fun _ => rfl
  have alone : ∀ target, (Network.empty config streams).ground.peer? target = none := fun _ => rfl
  refine ⟨?_, ?_, ?_, ?_, ?_, ?_, ?_⟩
  · intro id outline found
    cases (bare id).symm.trans found
  · intro id outline found
    cases (bare id).symm.trans found
  · intro id identity found
    cases Std.TreeMap.getElem?_emptyc.symm.trans found
  · intro id j peer found
    cases (alone _).symm.trans found
  · intro id i peer found
    cases (alone _).symm.trans found
  · intro id card peer found
    cases found
  · intro link mem
    cases Array.not_mem_empty link mem

section Build

variable {net : Network}

/-- A new switch is registered under its number, and has no link to be recorded. -/
theorem wired_addSwitch (wired : net.ground.Wired net.links) (name : String)
    (identity : SwitchIdentity) (numLower numUpper : Nat) :
    (net.addSwitch name identity numLower numUpper).2.ground.Wired net.links := by
  have grows := grows_addSwitch net name identity numLower numUpper
  have unlisted : net.devices.size ∉ net.manager.switches := by
    intro listed
    obtain ⟨known, listed⟩ := Option.isSome_iff_exists.mp
      (Std.TreeMap.isSome_getElem?_iff_mem.mpr listed)
    obtain ⟨outline, found⟩ := wired.enrolled listed
    simp only [ground, switchAt?_size, Option.map_none] at found
    cases found
  have listed : ∀ key : DeviceId,
      (net.addSwitch name identity numLower numUpper).2.ground.registry[key]? =
        if key = net.devices.size then some identity else net.ground.registry[key]? := by
    intro key
    show (net.manager.switches.insertIfNew net.devices.size identity)[key]? = _
    rw [Std.TreeMap.getElem?_insertIfNew]
    by_cases last : key = net.devices.size
    · rw [if_pos last, if_pos ⟨Std.compare_eq_iff_eq.mpr last.symm, unlisted⟩]
    · rw [if_neg last, if_neg fun both => last (Std.compare_eq_iff_eq.mp both.1).symm]
      rfl
  refine ⟨?_, ?_, ?_, ?_, ?_, ?_, fun mem => (wired.joins mem).mono grows⟩
  · intro id outline found
    rw [outline_addSwitch] at found
    split at found
    · rename_i last
      cases found
      exact last.symm
    · exact wired.number found
  · intro id outline found
    rw [outline_addSwitch] at found
    rw [listed]
    split at found
    · rename_i last
      cases found
      exact if_pos last
    · rename_i last
      rw [if_neg last]
      exact wired.registered found
  · intro id known found
    rw [listed] at found
    rw [outline_addSwitch]
    split at found
    · rename_i last
      exact ⟨_, if_pos last⟩
    · rename_i last
      rw [if_neg last]
      exact wired.enrolled found
  · intro id j peer found
    rw [peer?_addSwitch] at found
    exact wired.upper found
  · intro id i peer found
    rw [peer?_addSwitch] at found
    exact wired.lower found
  · intro id card peer found up
    rw [card_addSwitch] at found
    exact wired.uplink found up

/-- A new host is not registered, and has no link to be recorded. -/
theorem wired_addHost (wired : net.ground.Wired net.links) (name : String) (amac : MacAddress)
    (ip : Ipv4Address) : (net.addHost name amac ip).2.ground.Wired net.links := by
  have grows := grows_addHost net name amac ip
  refine ⟨?_, ?_, ?_, ?_, ?_, ?_, fun mem => (wired.joins mem).mono grows⟩
  · rw [outline_addHost]
    exact wired.number
  · rw [outline_addHost]
    exact wired.registered
  · rw [outline_addHost]
    exact wired.enrolled
  · intro id j peer found
    rw [peer?_addHost] at found
    exact wired.upper found
  · intro id i peer found
    rw [peer?_addHost] at found
    exact wired.lower found
  · intro id card peer found up
    rw [card_addHost] at found
    split at found
    · cases found
      cases up
    · exact wired.uplink found up

/-- A link between two free ports is recorded at both ends and in the list of links, and leaves all
other records right. -/
theorem wired_linked (wired : net.ground.Wired net.links) {south north : Endpoint}
    (shape : isLink south north = true)
    (freeSouth : net.ground.HasPort south ∧ net.ground.peer? south = none)
    (freeNorth : net.ground.HasPort north ∧ net.ground.peer? north = none) :
    (net.linked south north).ground.Wired (net.linked south north).links := by
  have free := Ground.free_connect north freeSouth.1 (isLink_ne shape shape) freeNorth
  have grows := (Ground.grows_connect freeSouth.1 freeSouth.2 north).trans
    (Ground.grows_connect free.1 free.2 south)
  have peers : ∀ key, (net.ground.link (south, north)).peer? key =
      if north = key then some south else if south = key then some north
      else net.ground.peer? key := by
    intro key
    rw [Ground.link, Ground.peer?_connect free.1, Ground.peer?_connect freeSouth.1]
  have old : ∀ {id outline}, (net.ground.link (south, north)).outline id = some outline →
      ∃ before, net.ground.outline id = some before ∧ before.SameBuild outline := by
    intro id outline found
    obtain ⟨mid, found, same⟩ := Ground.outline_of_connect found
    obtain ⟨before, found, same'⟩ := Ground.outline_of_connect found
    exact ⟨before, found, same'.trans same⟩
  obtain ⟨up, down, -⟩ := isLink_iff.mp shape
  have pushed : ∀ {link}, link ∈ net.links → link ∈ net.links.push (south, north) :=
    fun mem => Array.mem_push.mpr (.inl mem)
  have new : (south, north) ∈ net.links.push (south, north) := Array.mem_push.mpr (.inr rfl)
  rw [ground_linked]
  refine ⟨fun found => (wired.outline old rfl found).1, fun found => (wired.outline old rfl found).2,
    ?_, ?_, ?_, fun found up => pushed (wired.uplink found up), ?_⟩
  · intro id identity found
    obtain ⟨outline, here⟩ := wired.enrolled found
    obtain ⟨outline', here', -⟩ := grows.outline here
    exact ⟨outline', here'⟩
  · intro id j peer found
    rw [peers] at found
    split at found
    · rename_i same
      rw [same] at down
      cases down
    · split at found
      · rename_i same
        cases found
        exact same ▸ new
      · exact pushed (wired.upper found)
  · intro id i peer found
    rw [peers] at found
    split at found
    · rename_i same
      cases found
      exact same ▸ new
    · split at found
      · rename_i same
        rw [same] at up
        cases up
      · exact pushed (wired.lower found)
  · intro link mem
    rcases Array.mem_push.mp mem with before | rfl
    · exact (wired.joins before).mono grows
    · obtain ⟨⟨outline, here, -⟩, -⟩ := freeSouth
      obtain ⟨⟨outline', here', -⟩, -⟩ := freeNorth
      obtain ⟨after, there, -⟩ := grows.outline here
      obtain ⟨after', there', -⟩ := grows.outline here'
      refine ⟨.inl ⟨after, there⟩, ?_, ⟨after', there'⟩, ?_⟩
      · cases port : south.port with
        | lower i => rw [port] at up; cases up
        | upper j => exact ⟨j, rfl⟩
      · cases port : north.port with
        | lower i => exact ⟨i, rfl⟩
        | upper j => rw [port] at down; cases down

/-- A host that is attached to a free port is recorded at both ends and in the list of links, as a
link is. -/
theorem wired_attached (wired : net.ground.Wired net.links) {id switch : DeviceId} {port : Nat}
    {host : Host} (here : net.hostAt? id = some host)
    (free : net.ground.HasPort ⟨switch, .lower port⟩ ∧
      net.ground.peer? ⟨switch, .lower port⟩ = none)
    (grows : net.ground.Grows (net.attached id switch port host).ground) :
    (net.attached id switch port host).ground.Wired (net.attached id switch port host).links := by
  have peers := Ground.peer?_connect free.1 ⟨id, .upper 0⟩
  have pushed : ∀ {link}, link ∈ net.links →
      link ∈ net.links.push (⟨id, .upper 0⟩, ⟨switch, .lower port⟩) :=
    fun mem => Array.mem_push.mpr (.inl mem)
  have new : ((⟨id, .upper 0⟩, ⟨switch, .lower port⟩) : Endpoint × Endpoint) ∈
      net.links.push (⟨id, .upper 0⟩, ⟨switch, .lower port⟩) := Array.mem_push.mpr (.inr rfl)
  obtain ⟨⟨outline, there, -⟩, -⟩ := free
  rw [ground_attached here] at grows ⊢
  refine ⟨fun found => (wired.outline Ground.outline_of_connect rfl found).1,
    fun found => (wired.outline Ground.outline_of_connect rfl found).2, ?_, ?_, ?_, ?_, ?_⟩
  · intro key identity found
    obtain ⟨before, found⟩ := wired.enrolled found
    obtain ⟨after, found', -⟩ := grows.outline found
    exact ⟨after, found'⟩
  · intro key j peer found
    have found := (peers ⟨key, .upper j⟩).symm.trans found
    rw [if_neg nofun] at found
    exact pushed (wired.upper found)
  · intro key i peer found
    have found := (peers ⟨key, .lower i⟩).symm.trans found
    split at found
    · rename_i same
      cases found
      exact same ▸ new
    · exact pushed (wired.lower found)
  · intro key card peer found up
    have found : (if id = key then some { host.card with uplink := some ⟨switch, .lower port⟩ }
      else net.ground.card key) = some card := found
    split at found
    · rename_i same
      cases found
      cases up
      exact same ▸ new
    · exact pushed (wired.uplink found up)
  · intro link mem
    rcases Array.mem_push.mp mem with before | rfl
    · exact (wired.joins before).mono grows
    · obtain ⟨after, there, -⟩ := grows.outline there
      exact ⟨.inr ⟨_, if_pos rfl, rfl, rfl⟩, ⟨0, rfl⟩, ⟨after, there⟩, ⟨port, rfl⟩⟩

/-- **A network stays wired while devices and links are added.** -/
theorem Build.wired {after : Network} (move : net.Build after)
    (wired : net.ground.Wired net.links) : after.ground.Wired after.links := by
  have grows := move.grows
  cases move with
  | addSwitch name identity numLower numUpper => exact wired_addSwitch wired ..
  | addHost name amac ip => exact wired_addHost wired ..
  | addLink south north =>
    rcases net.addLink_cases south north with same | ⟨shape, freeSouth, freeNorth, linked⟩
    · rwa [same]
    · rw [linked]
      exact wired_linked wired shape freeSouth freeNorth
  | attachHost id switch port =>
    rcases net.attachHost_cases id switch port with same | ⟨host, here, -, free, attached⟩
    · rwa [same]
    · rw [attached] at grows ⊢
      exact wired_attached wired here free grows

end Build

end Network

end PmacFabric
