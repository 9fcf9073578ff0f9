import PmacFabric.Proofs.FatTree.Agreement
import PmacFabric.Proofs.FatTree.Populated
import PmacFabric.Proofs.Forwarding.Billing
import PmacFabric.Proofs.Network.Conservation
import PmacFabric.Proofs.Network.Losses
import PmacFabric.Proofs.Network.Tally

/-!
# Keeping the books

What devices have counted, as long as only the hosts of a fat-tree send. A `Bill` is all that an event
at a switch can have the switch and the fabric manager count: a registration that enlarges the
directory, a query with its answer, and with a query that fails one drop at an edge switch. `Books` is
the balance of all bills so far, and **`Books.step`** says that every event keeps it.

`Attended` says which ports of edge switches have received anything: those of the registered seats.
Ports lose frames only below edge switches, and only while no host is there (`Moves.losses`); this
needs no assumption about what was sent.
-/

namespace PmacFabric.FatTree

open Network (Ground)

/-! ## Frames lost -/

section Losses

variable {k : Nat}

/-- **All ports but those below edge switches have links.** -/
theorem Fabric.linked {net : Network} (fabric : Fabric k net.ground) {id : DeviceId}
    {switch : Switch} (here : net.switchAt? id = some switch) {port : Port}
    (present : (switch.port? port).isSome = true) :
    (switch.tier = .edge ∧ ∃ i, port = .lower i) ∨ (switch.peer? port).isSome = true := by
  have leads : ∀ {peer}, net.ground.peer? ⟨id, port⟩ = some peer → (switch.peer? port).isSome = true := by
    intro peer found
    rw [← Network.peer?_of_switchAt? here, found]
    rfl
  rcases fabric.planned here with
    ⟨pod, e, hp, he, rfl, follows⟩ | ⟨pod, a, hp, ha, rfl, follows⟩ | ⟨c, hc, rfl, follows⟩
  · cases port with
    | lower i => exact .inl ⟨follows.tier, i, rfl⟩
    | upper j =>
      have hj := follows.upper ▸ (switch.isSome_port?_upper j).mp present
      exact .inr (leads (fabric.edge_up hp he hj))
  · cases port with
    | lower e =>
      have he := follows.lower ▸ (switch.isSome_port?_lower e).mp present
      exact .inr (leads (fabric.aggregation_down hp ha he))
    | upper i =>
      have hi := follows.upper ▸ (switch.isSome_port?_upper i).mp present
      exact .inr (leads (fabric.aggregation_up hp ha hi))
  · obtain ⟨a, i, ha, hi, rfl⟩ := Fabric.exists_coreIndex hc
    cases port with
    | lower pod =>
      have hp := follows.lower ▸ (switch.isSome_port?_lower pod).mp present
      exact .inr (leads (fabric.core_down hp ha hi))
    | upper i =>
      have none := follows.upper ▸ (switch.isSome_port?_upper i).mp present
      exact absurd none (Nat.not_lt_zero i)

/-- **A port loses frames only below an edge switch, while no host is there.** -/
theorem Moves.losses {tree after : FatTree} (populated : tree.Populated) (move : tree.Moves after)
    {key : Endpoint} (more : after.net.lost key ≠ tree.net.lost key) :
    ∃ switch, tree.net.switchAt? key.device = some switch ∧ switch.tier = .edge ∧
      (∃ i, key.port = .lower i) ∧ switch.peer? key.port = none := by
  cases move with
  | addHost place amac ip =>
    have same : (tree.addHost place amac ip).2.net.lost key = tree.net.lost key :=
      addHost_keeps (P := fun net => net.lost key = tree.net.lost key)
        (fun same move => (move.lost key).trans same) rfl place amac ip
    exact absurd same more
  | work move =>
    obtain ⟨switch, here, present, free⟩ := move.losses populated.sturdy more
    rcases populated.fabric.linked here present with ⟨edge, below⟩ | linked
    · exact ⟨switch, here, edge, below, free⟩
    · rw [free] at linked
      cases linked

/-- Frames have been lost below edge switches only. -/
theorem Populated.losses {tree : FatTree} (populated : tree.Populated) {key : Endpoint}
    (some_lost : tree.net.lost key ≠ 0) :
    ∃ pod e i, pod < tree.k ∧ e < tree.k / 2 ∧ key = ⟨edgeId tree.k pod e, .lower i⟩ := by
  induction populated with
  | new made =>
    refine absurd ?_ some_lost
    exact new_keeps (P := fun net => net.lost key = 0)
      (fun none move => (move.lost key).trans none) rfl made
  | @move tree after populated move ih =>
    rw [(move.fabric populated.fabric).1]
    by_cases same : after.net.lost key = tree.net.lost key
    · exact ih (same ▸ some_lost)
    · obtain ⟨switch, here, edge, ⟨i, below⟩, -⟩ := move.losses populated same
      obtain ⟨pod, e, hp, he, number⟩ := populated.fabric.edge_of_tier here edge
      refine ⟨pod, e, i, hp, he, ?_⟩
      rw [← number, ← below]

end Losses

/-! ## Frames from below -/

section Below

variable {k : Nat} {net : Network} {event : Event} {who : Option Seat}
  {hosts : DeviceId → Option Host} {events : List Event}

/-- Whoever registers has sent a letter to the switch that it is attached to. -/
theorem Reaction.who_below (reaction : Reaction k net event who hosts events) {seat : Seat}
    (registers : who = some seat) :
    ∃ letter dst, event = .frame (seat.uplink k) (Letter.frame letter seat.amac seat.ip dst) := by
  cases reaction with
  | enter =>
    cases registers
    exact ⟨_, _, rfl⟩
  | miss =>
    cases registers
    exact ⟨_, _, rfl⟩
  | _ => cases registers

/-- **A frame from below an edge switch is a letter of the host there**, which registers; and it leads
to something. -/
theorem Reaction.below (reaction : Reaction k net event who hosts events) (two : 2 ≤ k)
    {pod e i : Nat} (hp : pod < k) (he : e < k / 2) {frame : Frame}
    (here : event = .frame ⟨edgeId k pod e, .lower i⟩ frame) :
    ∃ seat letter dst, Sits k net.ground seat ∧ who = some seat ∧
      seat.uplink k = ⟨edgeId k pod e, .lower i⟩ ∧
      frame = Letter.frame letter seat.amac seat.ip dst ∧ events ≠ [] := by
  have half : 0 < k / 2 * (k / 2) := Nat.mul_pos (by omega) (by omega)
  cases reaction with
  | enter hs =>
    obtain ⟨target, same⟩ := Event.frame.injEq .. ▸ here
    exact ⟨_, _, _, hs, rfl, target, same.symm, List.cons_ne_nil _ _⟩
  | miss hs =>
    obtain ⟨target, same⟩ := Event.frame.injEq .. ▸ here
    refine ⟨_, _, _, hs, rfl, target, same.symm, fun none => ?_⟩
    rw [List.map_eq_nil_iff, List.range_eq_nil] at none
    omega
  | hop _ _ _ _ _ way =>
    obtain ⟨target, -⟩ := Event.frame.injEq .. ▸ here
    exact absurd target (way.ne_below hp he)
  | order => cases here
  | _ =>
    -- All others wait at upper ports.
    obtain ⟨target, -⟩ := Event.frame.injEq .. ▸ here
    cases congrArg Endpoint.port target

/-- At a switch, only a flood that meets no host leads to nothing. -/
theorem Reaction.silent (reaction : Reaction k net event who hosts events) (two : 2 ≤ k)
    (inner : ∀ target frame, event = .frame target frame → net.hostAt? target.device = none)
    (silent : events = []) :
    ∃ seat asked pod e j, pod < k ∧ e < k / 2 ∧ j < k / 2 ∧
      event = .frame ⟨edgeId k pod e, .upper j⟩ (flooded seat asked) := by
  have half : 0 < k / 2 := by omega
  have square : 0 < k / 2 * (k / 2) := Nat.mul_pos half half
  cases reaction with
  | enter => cases silent
  | miss =>
    rw [List.map_eq_nil_iff, List.range_eq_nil] at silent
    omega
  | hop => cases silent
  | order =>
    rw [List.map_eq_nil_iff, List.range_eq_nil] at silent
    omega
  | fan =>
    rw [List.map_eq_nil_iff, List.range_eq_nil] at silent
    omega
  | offer _ _ hp he hj => exact ⟨_, _, _, _, _, hp, he, hj, rfl⟩
  | data _ _ _ _ there => cases (inner _ _ rfl).symm.trans there
  | answered _ _ _ _ there => cases (inner _ _ rfl).symm.trans there
  | asked _ _ _ _ there => cases (inner _ _ rfl).symm.trans there
  | ignored _ _ _ _ there => cases (inner _ _ rfl).symm.trans there

end Below

/-! ## Bills -/

/-- How the counters of the fabric manager add up, when the directory has so many entries. -/
structure Sums (k : Nat) (counters : ManagerCounters) (entries : Nat) : Prop where
  floods : counters.floods = k / 2 * (k / 2) * counters.misses
  queries : counters.queries = counters.hits + counters.misses
  rejected : counters.rejected = 0
  registrations : counters.registrations = entries

section Sums

variable {k : Nat} {counters : ManagerCounters} {entries : Nat}

/-- A registration adds an entry. -/
theorem Sums.registered (sums : Sums k counters entries) :
    Sums k counters.registered (entries + 1) :=
  ⟨sums.floods, sums.queries, sums.rejected, congrArg (· + 1) sums.registrations⟩

/-- A query that is answered is a hit. -/
theorem Sums.hit (sums : Sums k counters entries) : Sums k counters.hit entries where
  floods := sums.floods
  queries := (congrArg (· + 1) sums.queries).trans (Nat.add_right_comm _ _ _)
  rejected := sums.rejected
  registrations := sums.registrations

/-- A query that is not answered floods to all core switches. -/
theorem Sums.missed (sums : Sums k counters entries) :
    Sums k (counters.missed (k / 2 * (k / 2))) entries where
  floods := congrArg (· + k / 2 * (k / 2)) sums.floods
  queries := congrArg (· + 1) sums.queries
  rejected := sums.rejected
  registrations := sums.registrations

end Sums

/-- The counters of the manager when a sender is known: each registration enlarges the directory. -/
inductive Enrolls (manager : FabricManager) (directory : Directory) : ManagerCounters → Prop
  | known : directory = manager.directory → Enrolls manager directory manager.counters
  | fresh : directory.size = manager.directory.size + 1 →
      Enrolls manager directory manager.counters.registered

/-- What an event has a switch and the fabric manager count. -/
inductive Bill (k : Nat) (switch : Switch) (manager later : FabricManager) (drops : DropCounts) :
    Prop
  /-- Nothing is dropped. -/
  | served {counters : ManagerCounters} : Enrolls manager later.directory counters →
      (later.counters = counters ∨ later.counters = counters.hit) → drops = switch.drops →
      Bill k switch manager later drops
  /-- A query fails, and its frame is dropped. -/
  | missed {counters : ManagerCounters} : Enrolls manager later.directory counters →
      switch.tier = .edge → later.counters = counters.missed (k / 2 * (k / 2)) →
      drops = switch.drops.record .unresolved → Bill k switch manager later drops

/-- Whoever registers keeps the sums. -/
theorem Enrolls.sums {k : Nat} {manager : FabricManager} {directory : Directory}
    {counters : ManagerCounters} (enrolls : Enrolls manager directory counters)
    (sums : Sums k manager.counters manager.directory.size) : Sums k counters directory.size := by
  cases enrolls with
  | known same => rwa [same]
  | fresh grown =>
    rw [grown]
    exact sums.registered

/-- Every bill keeps the sums. -/
theorem Bill.sums {k : Nat} {switch : Switch} {manager later : FabricManager} {drops : DropCounts}
    (bill : Bill k switch manager later drops)
    (sums : Sums k manager.counters manager.directory.size) :
    Sums k later.counters later.directory.size := by
  cases bill with
  | served enrolls counted _ =>
    rcases counted with counted | counted
    · rw [counted]
      exact enrolls.sums sums
    · rw [counted]
      exact (enrolls.sums sums).hit
  | missed enrolls _ counted _ =>
    rw [counted]
    exact (enrolls.sums sums).missed

/-- **The balance of all bills**: the only frames dropped are those of failed queries. -/
structure Books (k : Nat) (net : Network) : Prop where
  reasons : ∀ {id switch reason}, net.switchAt? id = some switch →
    switch.drops.count reason ≠ 0 → reason = .unresolved ∧ switch.tier = .edge
  misses : net.tally (fun _ _ => true) (.dropped .unresolved) = net.manager.counters.misses
  sums : Sums k net.manager.counters net.manager.directory.size

section Books

variable {k : Nat} {net : Network}

/-- The drops after a bill. -/
theorem Bill.drops {switch : Switch} {manager later : FabricManager} {drops : DropCounts}
    (bill : Bill k switch manager later drops) :
    ∃ missed, later.counters.misses = manager.counters.misses + missed ∧
      drops.count .unresolved = switch.drops.count .unresolved + missed ∧
      ∀ reason, drops.count reason ≠ 0 →
        switch.drops.count reason ≠ 0 ∨ reason = .unresolved ∧ switch.tier = .edge := by
  have enrolled : ∀ {directory counters}, Enrolls manager directory counters →
      counters.misses = manager.counters.misses := by
    intro directory counters enrolls
    cases enrolls <;> rfl
  cases bill with
  | served enrolls counted same =>
    rw [same]
    refine ⟨0, ?_, rfl, fun reason dropped => .inl dropped⟩
    have same := enrolled enrolls
    rcases counted with counted | counted <;> rw [counted] <;> exact same
  | missed enrolls edge counted one =>
    rw [one]
    refine ⟨1, ?_, rfl, fun reason dropped => ?_⟩
    · rw [counted]
      exact congrArg (· + 1) (enrolled enrolls)
    · cases reason with
      | unresolved => exact .inr ⟨rfl, edge⟩
      | _ => exact .inl dropped

/-- **The books of a network after a switch has been billed.** -/
theorem Books.applySwitch (books : Books k net) {id : DeviceId} {switch : Switch}
    {outcome : Switch.Outcome} (here : net.switchAt? id = some switch)
    (outline : outcome.switch.outline = switch.outline)
    (bill : Bill k switch net.manager outcome.manager outcome.switch.drops) :
    Books k (net.applySwitch id outcome) := by
  obtain ⟨missed, counted, dropped, reasons⟩ := bill.drops
  refine ⟨fun {key after reason} found some_dropped => ?_, ?_, bill.sums books.sums⟩
  · have found := (Network.switchAt?_setSwitch here outcome.switch key).symm.trans found
    split at found
    · cases found
      have tier : outcome.switch.tier = switch.tier :=
        congrArg (fun outline => outline.identity.tier) outline
      rw [tier]
      rcases reasons reason some_dropped with before | now
      · exact books.reasons here before
      · exact now
    · exact books.reasons found some_dropped
  · have grows := @Network.tally_setSwitch net (fun _ _ => true) (.dropped .unresolved) id switch
      outcome.switch missed here outline dropped
    refine grows.trans ?_
    rw [if_pos rfl, books.misses]
    exact counted.symm

end Books

/-! ## One event -/

section Step

variable {k : Nat} {net net' : Network} {id : DeviceId} {switch : Switch}

/-- A sender is entered when its address is new, so the directory grows. -/
theorem Sane.enrolls (sane : Sane k net) {seat : Seat} (hs : Sits k net.ground seat)
    (here : net.switchAt? (seat.edge k) = some switch) {site : Site} {inPort : Nat}
    {amac : MacAddress} {state : ForwardState} {pmac : Pmac} {counters : ManagerCounters}
    (enlisted : Enlisted site inPort amac seat.ip (switch.forwardState net.manager) state pmac
      counters) : Enrolls net.manager state.manager.directory counters := by
  cases enlisted with
  | known _ _ listed => exact .known listed
  | entered fresh _ _ listed =>
    have unlisted : net.manager.directory.contains seat.ip = false := by
      rw [Std.TreeMap.contains_eq_isSome_getElem?]
      cases found : net.manager.directory[seat.ip]? with
      | none => rfl
      | some pmac =>
        obtain ⟨other, ho, own, rfl⟩ := sane.directory found
        cases sane.housed.eq_of_ip ho hs own
        have known := (sane.rolled here).pmacOfIp? hs found rfl
        cases fresh.symm.trans known
    have grown : (net.manager.directory.insert seat.ip pmac).size =
        net.manager.directory.size + 1 := by
      rw [Std.TreeMap.size_insert, unlisted]
      rfl
    exact .fresh ((congrArg Std.TreeMap.size listed).trans grown)

/-- A switch that offers a question to its hosts drops nothing. -/
theorem drops_offer (fabric : Fabric k net.ground) {pod e j : Nat} (hp : pod < k) (he : e < k / 2)
    (hj : j < k / 2) (here : net.switchAt? (edgeId k pod e) = some switch) (seat : Seat)
    (asked : Ipv4Address) (stream : Choice.Stream) (manager : FabricManager) :
    (switch.receive stream manager (.upper j) (flooded seat asked)).switch.drops =
      switch.drops := by
  obtain ⟨other, there, follows⟩ := fabric.edge hp he
  cases here.symm.trans there
  have verdict := follows.judge_edge_above stream manager (flooded seat asked) j
  rw [Edge.fromAbove, if_pos (isBroadcast_flooded seat asked)] at verdict
  rw [Switch.receive_eq_conclude (follows.upperPort hj) (broadcast_ne_address switch), verdict,
    Switch.drops_conclude]
  exact switch.drops_countReceived _ _

/-- **The bill of a frame.** -/
theorem bill_of_frame (sane : Sane k net) (member : net.manager.switches.contains switch.id = true)
    (here : net.switchAt? id = some switch) {port : Port} {frame : Frame} {who : Option Seat}
    {hosts : DeviceId → Option Host} {events : List Event}
    (reaction : Reaction k net (.frame ⟨id, port⟩ frame) who hosts events)
    (raised : (switch.receive (net.streams id) net.manager port frame).events = events) :
    Bill k switch net.manager (switch.receive (net.streams id) net.manager port frame).manager
      (switch.receive (net.streams id) net.manager port frame).switch.drops := by
  have two := two_le_of_accepts sane.fabric.accepted
  obtain ⟨verdict, state, billed, carried, drops⟩ :=
    switch.receive_billed (net.streams id) member port frame
  rw [carried.events] at raised
  rw [carried.manager]
  cases billed with
  | aside told _ quiet =>
    refine .served (.known (by rw [told]; rfl)) (.inl (by rw [told]; rfl)) ?_
    cases verdict with
    | ok frames => exact drops
    | error reason =>
      have inner : ∀ target other, Event.frame ⟨id, port⟩ frame = .frame target other →
          net.hostAt? target.device = none := by
        rintro target other same
        cases same
        exact Network.hostAt?_of_switchAt? here
      have silent : events = [] := by
        rw [← raised, quiet]
        rfl
      obtain ⟨seat, asked, pod, e, j, hp, he, hj, same⟩ := reaction.silent two inner silent
      cases same
      exact drops_offer sane.fabric hp he hj here seat asked _ _
  | served edge ips enlisted quiet counted =>
    obtain ⟨pod, e, hp, he, rfl⟩ := sane.fabric.edge_of_tier here edge
    obtain ⟨seat, letter, dst, hs, -, uplink, rfl, busy⟩ := reaction.below two hp he rfl
    cases ips.symm.trans (letter.ips_frame seat.amac seat.ip dst)
    have own : seat.edge k = edgeId k pod e := congrArg Endpoint.device uplink
    refine .served (sane.enrolls hs (own ▸ here) enlisted) counted ?_
    cases verdict with
    | ok frames => exact drops
    | error reason =>
      refine absurd ?_ busy
      rw [← raised, quiet]
      rfl
  | missed edge ips enlisted _ asked counted =>
    obtain ⟨pod, e, hp, he, rfl⟩ := sane.fabric.edge_of_tier here edge
    obtain ⟨seat, letter, dst, hs, -, uplink, rfl, -⟩ := reaction.below two hp he rfl
    cases ips.symm.trans (letter.ips_frame seat.amac seat.ip dst)
    have own : seat.edge k = edgeId k pod e := congrArg Endpoint.device uplink
    refine .missed (sane.enrolls hs (own ▸ here) enlisted) edge ?_ drops
    have number : switch.id = edgeId k pod e := by
      obtain ⟨other, there, follows⟩ := sane.fabric.edge hp he
      cases here.symm.trans there
      exact follows.number
    have registry : net.manager.switches = net.ground.registry := rfl
    have recipients : (net.manager.floodRecipients switch.id).length = k / 2 * (k / 2) := by
      rw [number, sane.fabric.floodRecipients registry hp he, List.length_map, List.length_range]
    rw [counted, ForwardState.floods, List.length_map]
    exact congrArg (ManagerCounters.missed _) recipients

/-- The books do not see a host change. -/
theorem Books.setHost (books : Books k net) {old : Host} (here : net.hostAt? id = some old)
    (host : Host) (events : List Event) : Books k ((net.setHost id host).enqueue events) where
  reasons found := books.reasons ((Network.switchAt?_setHost here host _).symm.trans found)
  misses := (Network.tally_setHost here host).trans books.misses
  sums := books.sums

/-- **Every event keeps the books.** -/
theorem Books.step (books : Books k net) (legit : Legit k net) (sturdy : net.Sturdy)
    {event : Event} {rest : EventQueue} {who : Option Seat} {hosts : DeviceId → Option Host}
    {events : List Event} (steps : Steps k net net' event rest who hosts events) :
    Books k net' := by
  have sane : Sane k (took net rest) := legit.toSane.took rest
  have books : Books k (took net rest) := ⟨books.reasons, books.misses, books.sums⟩
  have wired : (took net rest).ground.Wired net.links := sturdy.wired
  have reaches : (took net rest).ground.Reaches event :=
    sturdy.posted event (steps.queue ▸ List.mem_cons_self)
  have delivered := steps.delivered
  have queued := steps.changed.queue
  cases event with
  | control id message =>
    obtain ⟨outline, found⟩ := reaches
    obtain ⟨switch, here, rfl⟩ := Option.map_eq_some_iff.mp found
    rw [Network.deliver_control here] at delivered
    cases delivered
    have handled := switch.receiveMessage_handled ((took net rest).streams id)
      (took net rest).manager message
    refine books.applySwitch here handled.outline (.served (.known ?_) (.inl ?_) ?_)
    · rw [handled.manager]
    · rw [handled.manager]
    · rw [Switch.drops_receiveMessage]
      cases steps.sound with
      | ordered _ _ hc =>
        obtain ⟨other, there, follows⟩ := sane.fabric.core hc
        cases here.symm.trans there
        rw [follows.tier]
        rfl
  | frame target frame =>
    obtain ⟨id, port⟩ := target
    rcases reaches with ⟨outline, found⟩ | ⟨card, found, -⟩
    · obtain ⟨switch, here, rfl⟩ := Option.map_eq_some_iff.mp found
      rw [Network.deliver_to_switch here] at delivered
      cases delivered
      have raised := List.append_cancel_left ((EventQueue.toList_pushAll _ _).symm.trans queued)
      have outline := switch.outline_receive ((took net rest).streams id) (took net rest).manager
        port frame
      exact books.applySwitch here outline (bill_of_frame sane
        (Network.member_of_wired wired here) here steps.reaction raised)
    · obtain ⟨host, here, rfl⟩ := Option.map_eq_some_iff.mp found
      rw [Network.deliver_to_host here] at delivered
      obtain ⟨-, rfl⟩ := Prod.mk.injEq .. ▸ delivered
      exact books.setHost here _ _

end Step

/-! ## Ports that have received anything -/

/-- The switch end of the link of a place. -/
def Place.socket (k : Nat) (place : Place) : Endpoint :=
  ⟨edgeId k place.pod place.edge, .lower place.port⟩

/-- No two places share a port. -/
theorem Place.socket_inj {k : Nat} {place other : Place} (within : place.Within k)
    (within' : other.Within k) (same : place.socket k = other.socket k) : place = other := by
  obtain ⟨device, port⟩ := Endpoint.mk.injEq .. ▸ same
  obtain ⟨pod, edge⟩ := edgeId_inj within.2.1 within'.2.1 device
  obtain ⟨_, _, _⟩ := place
  obtain ⟨_, _, _⟩ := other
  rw [Place.mk.injEq]
  exact ⟨pod, edge, Port.lower.inj port⟩

/-- Below edge switches, the ports that have received a frame are those of registered seats. -/
def Attended (k : Nat) (net : Network) : Prop :=
  ∀ place : Place, place.Within k → (0 < net.counted .received .packets (place.socket k) ↔
    ∃ seat : Seat, Sits k net.ground seat ∧ Registered net.manager.directory seat ∧
      seat.place = place)

section Attended

variable {k : Nat} {net net' : Network}

/-- Who is attended depends on the wiring, the directory and the counters of ports only. -/
theorem Attended.congr (attended : Attended k net) (ground : net'.ground = net.ground)
    (directory : net'.manager.directory = net.manager.directory)
    (counted : ∀ {place : Place}, place.Within k →
      net'.counted .received .packets (place.socket k) =
        net.counted .received .packets (place.socket k)) : Attended k net' := by
  intro place within
  rw [counted within, ground, directory]
  exact attended place within

/-- What an event adds to the frames received below an edge switch. -/
theorem Steps.counted {event : Event} {rest : EventQueue} {who : Option Seat}
    {hosts : DeviceId → Option Host} {events : List Event}
    (steps : Steps k net net' event rest who hosts events) (sturdy : net.Sturdy)
    (matched : net.Matched) (fabric : Fabric k net.ground) {place : Place}
    (within : place.Within k) :
    net'.counted .received .packets (place.socket k) =
      net.counted .received .packets (place.socket k) +
        Measure.packets.dueAt (place.socket k) [event] := by
  have reaches : (took net rest).ground.Reaches event :=
    sturdy.posted event (steps.queue ▸ List.mem_cons_self)
  have matched : (took net rest).Matched :=
    ⟨matched.symm, matched.listed, matched.shape, matched.apart, matched.edges⟩
  obtain ⟨raised, acts, -⟩ := Network.deliver_acts (took net rest) sturdy.wired matched reaches
  rw [steps.delivered] at acts
  refine acts.received ⟨fun {outline} found => ?_, fun _ => rfl, fun _ _ => rfl⟩
  obtain ⟨other, there, has⟩ := @hasPort_uplink k net ⟨place, 0, default, default⟩ fabric within
  cases found.symm.trans there
  exact has

/-- **Every event keeps the ports attended.** -/
theorem Attended.step (attended : Attended k net) (legit : Legit k net) (sturdy : net.Sturdy)
    (matched : net.Matched) {event : Event} {rest : EventQueue} {who : Option Seat}
    {hosts : DeviceId → Option Host} {events : List Event}
    (steps : Steps k net net' event rest who hosts events) : Attended k net' := by
  intro place within
  have changed := steps.changed
  have two := two_le_of_accepts legit.fabric.accepted
  have ground : net'.ground = net.ground := changed.ground
  have directory : net'.manager.directory = enrolled? net.manager.directory who := changed.directory
  rw [steps.counted sturdy matched legit.fabric within, ground, directory]
  by_cases here : ∃ frame, event = .frame (place.socket k) frame
  · obtain ⟨frame, rfl⟩ := here
    obtain ⟨seat, letter, dst, hs, rfl, uplink, -⟩ :=
      steps.reaction.below two within.1 within.2.1 rfl
    have one : Measure.packets.dueAt (place.socket k) [.frame (place.socket k) frame] = 1 := by
      rw [Measure.dueAt_singleton, if_pos rfl]
      rfl
    rw [one]
    refine ⟨fun _ => ⟨seat, hs, registered_enrolled _ _, ?_⟩, fun _ => Nat.succ_pos _⟩
    exact Place.socket_inj hs.within within uplink
  · have none : Measure.packets.dueAt (place.socket k) [event] = 0 := by
      cases event with
      | control id message => rfl
      | frame target frame =>
        rw [Measure.dueAt_singleton, if_neg]
        rintro rfl
        exact here ⟨frame, rfl⟩
    rw [none, Nat.add_zero, attended place within]
    cases registers : who with
    | none => rfl
    | some newcomer =>
      obtain ⟨letter, dst, sent⟩ := steps.reaction.who_below registers
      have hn : Sits k net.ground newcomer := steps.reaction.sits_who registers
      have apart : newcomer.place ≠ place := by
        rintro rfl
        exact here ⟨_, sent⟩
      refine exists_congr fun seat => and_congr_right fun hs => ?_
      refine and_congr_left fun own => ?_
      have others := @registered_enrolled_iff k net.ground net.manager.directory newcomer
        legit.housed seat hn hs
      refine Iff.trans ?_ others.symm
      have differs : seat ≠ newcomer := by
        rintro rfl
        exact apart own
      simp only [differs, false_or]

end Attended

end PmacFabric.FatTree
