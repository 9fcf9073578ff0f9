import PmacFabric.Proofs.Forwarding.Table
import PmacFabric.Proofs.Network.Sturdy

/-!
# What no frame can do to addresses

Frames with any addresses may arrive at any port of any switch, and switches and links may be added
at any time. Still, an address is only ever given out by an edge switch for one of its own lower ports
(`Switch.Outline.Assigns`), whatever is in a table is also in the directory (`PmacTable.Owned`), and
the directory only grows. A network of which all this holds is **guarded**.

`Ruling.learned` shows that no decision about a frame breaks the guard, and
**`addresses_guarded`** reads off what it means for all networks that users can bring about.
-/

namespace PmacFabric

/-! ## Addresses that switches give out -/

/-- An edge switch gives out one PMAC for each of its lower ports whose number fits into an octet. -/
structure Switch.Outline.Assigns (outline : Outline) (port : Nat) (pmac : Pmac) : Prop where
  edge : outline.identity.tier = .edge
  within : port < outline.lower.length
  octet : port < 256
  pmac : pmac = .encode outline.identity.pod outline.identity.position (UInt8.ofNat port)

/-- A switch gives out the same PMACs after it has been linked. -/
theorem Switch.Outline.Assigns.mono {outline later : Outline} {port : Nat} {pmac : Pmac}
    (assigns : outline.Assigns port pmac) (same : outline.SameBuild later) :
    later.Assigns port pmac := by
  refine ⟨?_, ?_, assigns.octet, ?_⟩
  · rw [same.identity]
    exact assigns.edge
  · rw [same.lower]
    exact assigns.within
  · rw [same.identity]
    exact assigns.pmac

/-- The port can be read from the PMAC that is given out for it. -/
theorem Switch.Outline.Assigns.port_eq {outline : Outline} {port : Nat} {pmac : Pmac}
    (assigns : outline.Assigns port pmac) : pmac.port.toNat = port := by
  rw [assigns.pmac]
  exact UInt8.toNat_ofNat_of_lt' assigns.octet

/-- The broadcast address is not given out. -/
theorem Switch.Outline.Assigns.ne_broadcast {outline : Outline} {port : Nat} {pmac : Pmac}
    (assigns : outline.Assigns port pmac) : pmac ≠ .broadcast := by
  rw [assigns.pmac]
  exact fun same => Pmac.mac_encode_ne_broadcast _ _ _ (congrArg Pmac.mac same)

/-- A table of entries for ports of its own switch, all of them registered. -/
structure PmacTable.Owned (outline : Switch.Outline) (manager : FabricManager)
    (table : PmacTable) : Prop where
  indexed : table.Indexed
  assigns : ∀ {pmac entry}, table.lookup? pmac = some entry → outline.Assigns entry.port pmac
  registered : ∀ {pmac entry}, table.lookup? pmac = some entry →
    manager.isRegistered entry.ip = true

/-- The empty table is owned by any switch. -/
theorem PmacTable.owned_empty (outline : Switch.Outline) (manager : FabricManager) :
    PmacTable.empty.Owned outline manager := by
  refine ⟨indexed_empty, ?_, ?_⟩ <;>
    (intro pmac entry found
     cases (lookup?_empty pmac).symm.trans found)

/-- A table stays owned while its switch is linked and more addresses are registered. -/
theorem PmacTable.Owned.mono {outline later : Switch.Outline} {manager manager' : FabricManager}
    {table : PmacTable} (owned : table.Owned outline manager) (same : outline.SameBuild later)
    (grown : ∀ ip, manager.isRegistered ip = true → manager'.isRegistered ip = true) :
    table.Owned later manager' :=
  ⟨owned.indexed, fun found => (owned.assigns found).mono same,
    fun found => grown _ (owned.registered found)⟩

/-- Entering a host of an own port keeps a table owned. -/
theorem PmacTable.Owned.add {outline : Switch.Outline} {manager manager' : FabricManager}
    {table : PmacTable} (owned : table.Owned outline manager)
    (grown : ∀ ip, manager.isRegistered ip = true → manager'.isRegistered ip = true)
    {entry : PmacEntry} (assigns : outline.Assigns entry.port entry.pmac)
    (registered : manager'.isRegistered entry.ip = true) :
    (table.add entry).Owned outline manager' := by
  -- An entry of the new table is the new one, or it was there before.
  have origin : ∀ {pmac found}, (table.add entry).lookup? pmac = some found →
      found = entry ∧ pmac = entry.pmac ∨ table.lookup? pmac = some found := by
    intro pmac found here
    rw [owned.indexed.lookup?_add] at here
    split at here
    · rename_i same
      exact .inl ⟨(Option.some.inj here).symm, same.symm⟩
    · exact .inr (Option.filter_eq_some_iff.mp here).1
  refine ⟨owned.indexed.add entry, fun here => ?_, fun here => ?_⟩
  · rcases origin here with ⟨rfl, rfl⟩ | before
    · exact assigns
    · exact owned.assigns before
  · rcases origin here with ⟨rfl, -⟩ | before
    · exact registered
    · exact grown _ (owned.registered before)

/-- An address that the table knows is registered. -/
theorem PmacTable.Owned.known {outline : Switch.Outline} {manager : FabricManager}
    {table : PmacTable} (owned : table.Owned outline manager) {ip : Ipv4Address} {pmac : Pmac}
    (found : table.pmacOfIp? ip = some pmac) : manager.isRegistered ip = true := by
  obtain ⟨entry, here, rfl⟩ := (owned.indexed.byIp _ _).mp found
  exact owned.registered here

/-! ## What a decision learns -/

/-- Registering an address keeps all others. -/
theorem FabricManager.isRegistered_insert {manager manager' : FabricManager} {ip : Ipv4Address}
    {pmac : Pmac} (inserted : manager'.directory = manager.directory.insert ip pmac)
    (other : Ipv4Address) :
    manager'.isRegistered other = true ↔ other = ip ∨ manager.isRegistered other = true := by
  simp only [isRegistered, inserted, Std.TreeMap.contains_insert, Bool.or_eq_true, beq_iff_eq,
    Std.compare_eq_iff_eq, eq_comm (a := ip)]

/-- Where the same hosts are known, the same addresses are registered. -/
theorem ForwardState.SameHosts.isRegistered {state state' : ForwardState}
    (same : state.SameHosts state') (ip : Ipv4Address) :
    state'.manager.isRegistered ip = state.manager.isRegistered ip := by
  rw [FabricManager.isRegistered, same.directory, FabricManager.isRegistered]

/-- **No decision forgets an address.** -/
theorem Ruling.grown {site : Site} {state state' : ForwardState} {port : Port} {frame : Frame}
    {verdict : Verdict} (ruling : Ruling site state port frame verdict state') (ip : Ipv4Address)
    (before : state.manager.isRegistered ip = true) : state'.manager.isRegistered ip = true := by
  have admitted : ∀ {i amac src}, Admitted site i amac src state state' →
      state'.manager.isRegistered ip = true := by
    intro i amac src admitted
    cases admitted with
    | known _ same => rwa [same.isRegistered]
    | entered _ _ _ inserted _ _ =>
      exact (FabricManager.isRegistered_insert inserted ip).mpr (.inr before)
  cases ruling with
  | plain same => rwa [same.isRegistered]
  | admits _ _ _ known => exact admitted known
  | asks _ _ _ known => exact admitted known

/-- No ruling changes which switches there are. -/
theorem Ruling.registry {site : Site} {state state' : ForwardState} {port : Port} {frame : Frame}
    {verdict : Verdict} (ruling : Ruling site state port frame verdict state') :
    state'.manager.switches = state.manager.switches := by
  cases ruling with
  | plain same => exact same.registry
  | admits _ _ _ admitted => exact admitted.registry
  | asks _ _ _ admitted => exact admitted.registry

/-- What holds of the table and the manager after a decision of a guarded switch. -/
structure Learned (outline : Switch.Outline) (manager : FabricManager) (state : ForwardState) :
    Prop where
  owned : state.table.Owned outline state.manager
  located : ∀ {ip : Ipv4Address} {pmac}, state.manager.directory[ip]? = some pmac →
    manager.directory[ip]? = some pmac ∨ ∃ port, outline.Assigns port pmac
  rejected : state.manager.counters.rejected = manager.counters.rejected

section Learned

variable {switch : Switch} {stream : Choice.Stream} {manager : FabricManager}
  {state : ForwardState}

/-- A switch that makes no host known has learned nothing wrong. -/
theorem ForwardState.SameHosts.learned (owned : switch.table.Owned switch.outline manager)
    (same : (switch.forwardState manager).SameHosts state) :
    Learned switch.outline manager state := by
  refine ⟨?_, fun found => .inl ?_, same.rejected⟩
  · rw [same.table]
    exact owned.mono (.refl _) fun ip before => by rwa [same.isRegistered]
  · rwa [same.directory] at found

/-- A sender that becomes known is registered, with an address of its port. -/
theorem Admitted.learned (owned : switch.table.Owned switch.outline manager)
    (edge : switch.identity.tier = .edge) {i : Nat} (within : i < switch.numLower)
    {amac : MacAddress} {src : Ipv4Address}
    (admitted : Admitted (switch.site stream) i amac src (switch.forwardState manager) state) :
    Learned switch.outline manager state ∧ state.manager.isRegistered src = true := by
  cases admitted with
  | known found same =>
    refine ⟨same.learned owned, ?_⟩
    rw [same.isRegistered]
    exact owned.known found
  | entered _ octet table inserted _ rejected =>
    have assigns : switch.outline.Assigns i ((switch.site stream).entry i amac src).pmac := by
      refine ⟨edge, ?_, octet, rfl⟩
      rw [switch.outline_numLower]
      exact within
    have registered := FabricManager.isRegistered_insert inserted
    refine ⟨⟨?_, fun {ip pmac} found => ?_, rejected⟩, (registered src).mpr (.inl rfl)⟩
    · rw [table]
      exact owned.add (fun ip before => (registered ip).mpr (.inr before)) assigns
        ((registered src).mpr (.inl rfl))
    · rw [inserted, Std.TreeMap.getElem?_insert] at found
      split at found
      · cases found
        exact .inr ⟨i, assigns⟩
      · exact .inl found

/-- **No decision breaks the guard**, and floods are only raised on behalf of registered senders. -/
theorem Ruling.learned (owned : switch.table.Owned switch.outline manager) {port : Port}
    {frame : Frame} {verdict : Verdict}
    (ruling : Ruling (switch.site stream) (switch.forwardState manager) port frame verdict state) :
    Learned switch.outline manager state ∧
      ∀ {id dst src srcPmac}, .control id (.arpFlood dst src srcPmac) ∈ state.raised →
        state.manager.isRegistered src = true := by
  cases ruling with
  | plain same quiet =>
    refine ⟨same.learned owned, fun mem => ?_⟩
    rw [quiet] at mem
    cases mem
  | admits edge within _ admitted quiet =>
    refine ⟨(admitted.learned owned edge within).1, fun mem => ?_⟩
    rw [quiet] at mem
    cases mem
  | asks edge within _ admitted _ asked =>
    obtain ⟨learned, registered⟩ := admitted.learned owned edge within
    refine ⟨learned, fun mem => ?_⟩
    rw [asked] at mem
    obtain ⟨_, _, same, _⟩ := Network.registered_of_mem_floods mem
    cases same
    exact registered

end Learned

namespace Network

/-! ## Guarded networks -/

structure Guarded (net : Network) : Prop where
  tables : ∀ {id switch}, net.switchAt? id = some switch →
    switch.table.Owned switch.outline net.manager
  located : ∀ {ip : Ipv4Address} {pmac}, net.manager.directory[ip]? = some pmac →
    ∃ id outline port, net.ground.outline id = some outline ∧ outline.Assigns port pmac
  asked : ∀ {id dst src srcPmac}, .control id (.arpFlood dst src srcPmac) ∈ net.queue.toList →
    net.manager.isRegistered src = true
  accepted : net.manager.counters.rejected = 0

/-- A network is guarded before anything is added. -/
theorem guarded_empty (config : FabricConfig) (streams : DeviceId → Choice.Stream) :
    (Network.empty config streams).Guarded := by
  refine ⟨?_, ?_, nofun, rfl⟩
  · intro id switch found
    cases found
  · intro ip pmac found
    cases Std.TreeMap.getElem?_emptyc.symm.trans found

section Guarded

variable {net after : Network}

/-- What a switch has learned keeps the network guarded. -/
theorem Guarded.applySwitch (guarded : net.Guarded) {id : DeviceId} {switch : Switch}
    (here : net.switchAt? id = some switch) {state : ForwardState} {verdict : Verdict}
    {outcome : Switch.Outcome} (carried : switch.Carried verdict state outcome)
    (registry : state.manager.switches = net.manager.switches)
    (grown : ∀ ip, net.manager.isRegistered ip = true → state.manager.isRegistered ip = true)
    (learned : Learned switch.outline net.manager state)
    (asked : ∀ {id dst src srcPmac}, .control id (.arpFlood dst src srcPmac) ∈ state.raised →
      state.manager.isRegistered src = true) : (net.applySwitch id outcome).Guarded := by
  have manager : (net.applySwitch id outcome).manager = state.manager := carried.manager
  have ground := ground_applySwitch here carried.outline
    ((congrArg FabricManager.switches carried.manager).trans registry)
  refine ⟨fun {key after} found => ?_, fun {ip pmac} found => ?_,
    fun {key dst src srcPmac} mem => ?_, ?_⟩
  · have found := (switchAt?_setSwitch here outcome.switch key).symm.trans found
    rw [manager]
    split at found
    · cases found
      rw [carried.table, carried.outline]
      exact learned.owned
    · exact (guarded.tables found).mono (.refl _) grown
  · rw [manager] at found
    rw [ground]
    rcases learned.located found with before | ⟨port, assigns⟩
    · exact guarded.located before
    · exact ⟨id, switch.outline, port, ground_outline here, assigns⟩
  · have mem : _ ∈ (net.queue.pushAll outcome.events).toList := mem
    rw [EventQueue.toList_pushAll, carried.events] at mem
    rw [manager]
    rcases List.mem_append.mp mem with before | new
    · exact grown src (guarded.asked before)
    · rcases List.mem_append.mp new with told | sent
      · exact asked told
      · obtain ⟨_, _, _, _, -, -, -, same⟩ := mem_verdictEvents sent
        cases same
  · rw [manager, learned.rejected, guarded.accepted]

/-! ## Building keeps the guard -/

/-- Building changes nothing that the manager knows of hosts. -/
theorem Build.manager (move : net.Build after) :
    after.manager.directory = net.manager.directory ∧
      after.manager.counters = net.manager.counters := by
  cases move with
  | addSwitch => exact ⟨rfl, rfl⟩
  | addHost => exact ⟨rfl, rfl⟩
  | addLink south north =>
    rcases net.addLink_cases south north with same | ⟨-, -, -, linked⟩
    · rw [same]
      exact ⟨rfl, rfl⟩
    · rw [linked]
      exact ⟨rfl, rfl⟩
  | attachHost host switch port =>
    rcases net.attachHost_cases host switch port with same | ⟨old, -, -, -, attached⟩
    · rw [same]
      exact ⟨rfl, rfl⟩
    · rw [attached]
      exact ⟨rfl, rfl⟩

/-- Building registers no address. -/
theorem Build.isRegistered (move : net.Build after) (ip : Ipv4Address) :
    after.manager.isRegistered ip = net.manager.isRegistered ip := by
  rw [FabricManager.isRegistered, move.manager.1, FabricManager.isRegistered]

/-- A network stays guarded while devices and links are added. -/
theorem Guarded.build (guarded : net.Guarded) (move : net.Build after) : after.Guarded := by
  have grown : ∀ ip, net.manager.isRegistered ip = true → after.manager.isRegistered ip = true :=
    fun ip before => (move.isRegistered ip).trans before
  refine ⟨fun {id switch'} found => ?_, fun {ip pmac} found => ?_,
    fun {id dst src srcPmac} mem => ?_, ?_⟩
  · rcases move.switchAt? found with fresh | ⟨switch, here, same, memory⟩
    · have table : switch'.table = .empty := congrArg Switch.Memory.table fresh
      rw [table]
      exact PmacTable.owned_empty _ _
    · have table : switch'.table = switch.table := congrArg Switch.Memory.table memory
      rw [table]
      exact (guarded.tables here).mono same grown
  · rw [move.manager.1] at found
    obtain ⟨id, outline, port, there, assigns⟩ := guarded.located found
    obtain ⟨later, there', same⟩ := move.grows.outline there
    exact ⟨id, later, port, there', assigns.mono same⟩
  · rw [move.queue] at mem
    exact grown src (guarded.asked mem)
  · rw [move.manager.2]
    exact guarded.accepted

/-! ## Work keeps the guard -/

/-- Adding events that ask for nothing keeps the guard, whatever happens at a host. -/
theorem Guarded.post (guarded : net.Guarded) {id : DeviceId} {host later : Host} {uplink : Endpoint}
    {events : List Event} (here : net.hostAt? id = some host) (card : later.card = host.card)
    (sent : Host.AllAt uplink events) : ((net.setHost id later).enqueue events).Guarded := by
  refine ⟨fun {key switch} found => ?_, fun found => ?_, fun {key dst src srcPmac} mem => ?_,
    guarded.accepted⟩
  · exact guarded.tables ((switchAt?_setHost here later key).symm.trans found)
  · rw [ground_setHost here card]
    exact guarded.located found
  · rw [enqueue, EventQueue.toList_pushAll] at mem
    rcases List.mem_append.mp mem with before | new
    · exact guarded.asked before
    · obtain ⟨_, same⟩ := sent _ new
      cases same

/-- **No event breaks the guard.** -/
theorem Guarded.reacts (guarded : net.Guarded) {event : Event} {raised : List Event}
    (reacts : net.Reacts event raised after) : after.Guarded := by
  cases reacts with
  | rules here ruling carried =>
    obtain ⟨learned, asked⟩ := ruling.learned (guarded.tables here)
    exact guarded.applySwitch here carried ruling.registry ruling.grown learned asked
  | obeys here _ carried =>
    have learned := (ForwardState.SameHosts.refl _).learned (guarded.tables here)
    exact guarded.applySwitch here carried rfl (fun _ before => before) learned nofun
  | host here attached =>
    exact guarded.post here (Host.card_receive _ _) (Host.allAt_receive attached _)

/-- A network stays guarded while events are processed. -/
theorem Guarded.work (guarded : net.Guarded) (sturdy : net.Sturdy) (move : net.Work after) :
    after.Guarded := by
  cases move with
  | send here posted =>
    obtain ⟨uplink, -, sent⟩ := Host.allAt_send posted
    exact guarded.post here (Host.card_send posted) sent
  | retransmit here posted =>
    obtain ⟨uplink, -, sent⟩ := Host.allAt_retransmit posted
    exact guarded.post here (Host.card_retransmit posted) sent
  | inject port frame here =>
    refine ⟨guarded.tables, guarded.located, fun {id dst src srcPmac} mem => ?_, guarded.accepted⟩
    rw [enqueue, EventQueue.toList_pushAll] at mem
    rcases List.mem_append.mp mem with before | new
    · exact guarded.asked before
    · cases List.mem_singleton.mp new
  | setStopAfter =>
    exact ⟨guarded.tables, guarded.located, guarded.asked, guarded.accepted⟩
  | watch => exact ⟨guarded.tables, guarded.located, guarded.asked, guarded.accepted⟩
  | event stepped =>
    obtain ⟨event, queue, trace, raised, -, taken, reacts, -⟩ := sturdy.step stepped
    have rest : Guarded { net with queue, trace, handled := net.handled + 1 } :=
      ⟨guarded.tables, guarded.located,
        fun mem => guarded.asked (taken ▸ List.mem_cons_of_mem event mem), guarded.accepted⟩
    exact rest.reacts reacts

/-- Registered addresses stay registered through a reaction. -/
theorem Reacts.grown {event : Event} {raised : List Event} (reacts : net.Reacts event raised after)
    (ip : Ipv4Address) (before : net.manager.isRegistered ip = true) :
    after.manager.isRegistered ip = true := by
  cases reacts with
  | rules here ruling carried =>
    show FabricManager.isRegistered (Switch.Outcome.manager _) ip = true
    rw [carried.manager]
    exact ruling.grown ip before
  | obeys here _ carried =>
    show FabricManager.isRegistered (Switch.Outcome.manager _) ip = true
    rw [carried.manager]
    exact before
  | host => exact before

/-- An address that is registered stays so. -/
theorem Work.grown (sturdy : net.Sturdy) (move : net.Work after) (ip : Ipv4Address)
    (before : net.manager.isRegistered ip = true) : after.manager.isRegistered ip = true := by
  cases move with
  | event stepped =>
    obtain ⟨event, queue, trace, raised, -, -, reacts, -⟩ := sturdy.step stepped
    exact reacts.grown ip before
  | _ => exact before

end Guarded

section Reached

variable {net later : Network}

/-- No sequence of moves leads out of the guarded networks. -/
theorem Leads.guarded (leads : net.Leads later) (sturdy : net.Sturdy) (guarded : net.Guarded) :
    later.Guarded := by
  induction leads with
  | refl => exact guarded
  | build _ move ih => exact ih.build move
  | work before move ih => exact ih.work (sturdy.leads before) move

/-- **An address that is registered once is registered for ever.** -/
theorem Leads.registered (leads : net.Leads later) (sturdy : net.Sturdy) (ip : Ipv4Address)
    (before : net.manager.isRegistered ip = true) : later.manager.isRegistered ip = true := by
  induction leads with
  | refl => exact before
  | build _ move ih => rwa [move.isRegistered]
  | work earlier move ih => exact move.grown (sturdy.leads earlier) ip ih

/-- **All networks that users can bring about are guarded.** -/
theorem Reached.guarded (reached : net.Reached) : net.Guarded := by
  obtain ⟨config, streams, leads⟩ := reached
  exact leads.guarded (sturdy_empty config streams) (guarded_empty config streams)

/-- **Whatever is built, sent and injected, addresses are safe.** Table entries belong to edge
switches, one for a lower port at most, and are registered; the directory has addresses of lower ports
of edge switches only, keeps every IP address it has, and floods are on behalf of registered
addresses; and the manager never refuses a message. -/
theorem addresses_guarded (reached : net.Reached) :
    (∀ id switch, net.getSwitch id = .ok switch → ∀ entry ∈ switch.table.toList,
      switch.tier = .edge ∧ entry.port < switch.numLower ∧ entry.port ≤ 255 ∧
        entry.pmac =
          .encode switch.identity.pod switch.identity.position (UInt8.ofNat entry.port) ∧
        entry.pmac.port.toNat = entry.port ∧ net.manager.isRegistered entry.ip = true ∧
        ∀ other ∈ switch.table.toList, other.port = entry.port → other = entry) ∧
    (∀ (ip : Ipv4Address) pmac, net.manager.directory[ip]? = some pmac → pmac ≠ .broadcast ∧
      ∃ id switch port, net.getSwitch id = .ok switch ∧ switch.tier = .edge ∧
        port < switch.numLower ∧ port ≤ 255 ∧
        pmac = .encode switch.identity.pod switch.identity.position (UInt8.ofNat port)) ∧
    (∀ later, net.Leads later → ∀ ip, net.manager.isRegistered ip = true →
      later.manager.isRegistered ip = true) ∧
    (∀ id dst src srcPmac, .control id (.arpFlood dst src srcPmac) ∈ net.queue.toList →
      net.manager.isRegistered src = true) ∧
    net.manager.counters.rejected = 0 := by
  have guarded := reached.guarded
  refine ⟨?_, ?_, fun later leads => leads.registered reached.sturdy,
    fun id dst src srcPmac => guarded.asked, guarded.accepted⟩
  · intro id switch found entry mem
    have owned := guarded.tables (getSwitch_eq_ok_iff.mp found)
    have here := owned.indexed.mem_toList_iff.mp mem
    have assigns := owned.assigns here
    refine ⟨assigns.edge, ?_, Nat.le_of_lt_succ assigns.octet, assigns.pmac, assigns.port_eq,
      owned.registered here, fun other mem' same => ?_⟩
    · rw [← switch.outline_numLower]
      exact assigns.within
    · have here' := owned.indexed.mem_toList_iff.mp mem'
      have pmac : other.pmac = entry.pmac := by
        rw [(owned.assigns here').pmac, assigns.pmac, same]
      rw [pmac, here] at here'
      exact (Option.some.inj here').symm
  · intro ip pmac listed
    obtain ⟨id, outline, port, there, assigns⟩ := guarded.located listed
    obtain ⟨switch, here, rfl⟩ := Option.map_eq_some_iff.mp there
    refine ⟨assigns.ne_broadcast, id, switch, port, getSwitch_eq_ok_iff.mpr here, assigns.edge, ?_,
      Nat.le_of_lt_succ assigns.octet, assigns.pmac⟩
    rw [← switch.outline_numLower]
    exact assigns.within

end Reached

/-- An edge switch with two lower ports and nothing else. -/
def lonely : Network :=
  ((Network.empty {} fun _ _ => 0).addSwitch "edge" ⟨.edge, 0, 0⟩ 2 0).2

/-- A frame under the address of the switch's own pod, from an IP address that nobody has. -/
def spoof : Frame :=
  ⟨.broadcast, (Pmac.encode 0 0 0).mac, .ipv4 ⟨⟨10, 9, 9, 9⟩, ⟨10, 9, 9, 8⟩, []⟩⟩

/-- Users can inject the spoofed frame. -/
theorem reached_spoofed : (lonely.inject 0 (.lower 1) spoof).2.Reached := by
  have built : lonely.Reached := ⟨_, _, Leads.refl.build (.addSwitch ..)⟩
  exact built.leads (leads_inject lonely 0 (.lower 1) spoof)

/-- A spoofed sender is registered, with the address of the port that it used. -/
theorem spoof_guarded :
    (lonely.inject 0 (.lower 1) spoof).2.manager.directory[(⟨10, 9, 9, 9⟩ : Ipv4Address)]? =
        some (.encode 0 0 1) ∧
      Pmac.encode 0 0 1 ≠ .broadcast ∧
      ∃ id switch port, (lonely.inject 0 (.lower 1) spoof).2.getSwitch id = .ok switch ∧
        switch.tier = .edge ∧ port < switch.numLower ∧ port ≤ 255 ∧
        Pmac.encode 0 0 1 =
          .encode switch.identity.pod switch.identity.position (UInt8.ofNat port) := by
  have listed : (lonely.inject 0 (.lower 1) spoof).2.manager.directory[
      (⟨10, 9, 9, 9⟩ : Ipv4Address)]? = some (.encode 0 0 1) := by decide +kernel
  exact ⟨listed, (addresses_guarded reached_spoofed).2.1 _ _ listed⟩

end Network

end PmacFabric
