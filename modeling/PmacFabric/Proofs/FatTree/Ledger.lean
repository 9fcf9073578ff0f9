import PmacFabric.Proofs.FatTree.Books

/-!
# The ledger of legitimate traffic

As long as only the hosts of a fat-tree send, the counters of all devices and the sizes of all tables
belong together. The books are kept in every state of a run (`Reached.books`), and so are the ports of
edge switches attended. The addresses in the directory are those of the hosts that have been heard, and
those in all tables together; so all three are equally many.

**`legitimate_traffic_balances`** puts it together: a frame is only ever dropped at the edge, for a
destination that the directory does not have, and every host is registered once, when it is first
heard.
-/

namespace PmacFabric

namespace Network

/-- Whether the switch of a host has received a frame at its port. -/
def heard (net : Network) (host : Host) : Bool :=
  host.uplink.any fun uplink => 0 < net.counted .received .packets uplink

/-- What no switch shows adds up to nothing. -/
theorem totalOf_shown {net : Network} {f : Switch → Nat} (none : ∀ id, net.shown f id = 0) :
    totalOf f net.switches = 0 := by
  refine totalOf_eq_zero fun switch mem => ?_
  obtain ⟨id, here⟩ := mem_switches_iff.mp mem
  have shown := none id
  rwa [Network.shown, here] at shown

/-- The sum over all switches. -/
theorem tally_all (net : Network) (gauge : Switch.Gauge) :
    net.tally (fun _ _ => true) gauge = totalOf (fun switch => switch.reading gauge) net.switches := by
  rw [tally, List.filter_true]

end Network

namespace FatTree

open Network (Ground)

/-! ## The books of a run -/

section Runs

variable {k : Nat} {log : List Ipv4Packet} {tree : FatTree}

/-- A new fat-tree has counted nothing. -/
theorem books_new {config : FabricConfig} {streams : DeviceId → Choice.Stream}
    (made : FatTree.new k config streams = .ok tree) :
    Books k tree.net ∧ Attended k tree.net := by
  have shown : ∀ reason id, tree.net.shown (fun switch => switch.drops.count reason) id = 0 := by
    intro reason id
    exact new_keeps (P := fun net => net.shown (fun switch => switch.drops.count reason) id = 0)
      (fun none move => (move.shown (Switch.counts_dropped reason) id).trans none) rfl made
  have silent : ∀ key, tree.net.counted .received .packets key = 0 := by
    intro key
    exact new_keeps (P := fun net => net.counted .received .packets key = 0)
      (fun none move => (move.counted .received .packets key).trans none) rfl made
  obtain ⟨directory, counters⟩ : tree.net.manager.directory = {} ∧ tree.net.manager.counters = {} :=
    new_keeps (P := fun net => net.manager.directory = {} ∧ net.manager.counters = {})
      (fun none move => ⟨move.manager.1.trans none.1, move.manager.2.trans none.2⟩) ⟨rfl, rfl⟩ made
  refine ⟨⟨fun {id switch reason} here dropped => ?_, ?_, ?_⟩, fun place within => ?_⟩
  · have none := shown reason id
    rw [Network.shown, here] at none
    exact absurd none dropped
  · rw [Network.tally_all, counters]
    exact Network.totalOf_shown (shown .unresolved)
  · rw [counters, directory]
    exact ⟨(Nat.mul_zero _).symm, rfl, rfl, Std.TreeMap.size_emptyc.symm⟩
  · rw [silent, directory]
    refine ⟨fun some => absurd some (Nat.lt_irrefl 0), ?_⟩
    rintro ⟨seat, -, known, -⟩
    cases Std.TreeMap.getElem?_emptyc.symm.trans known

/-- A host that joins changes no counter. -/
theorem Books.join {net net' : Network} {seat : Seat} (books : Books k net)
    (joins : Joins k net net' seat) : Books k net' := by
  have manager := joins.joined.manager
  refine ⟨fun {id switch' reason} here' dropped => ?_, ?_, ?_⟩
  · obtain ⟨switch, here, identity, -, readings⟩ := joins.joined.switchAt? joins.number here'
    have same : switch'.drops.count reason = switch.drops.count reason :=
      readings (.dropped reason)
    rw [Switch.tier, identity]
    exact books.reasons here (same ▸ dropped)
  · rw [joins.joined.tally joins.number, manager]
    exact books.misses
  · rw [manager]
    exact books.sums

/-- A host that joins has not been heard. -/
theorem Attended.join {net net' : Network} {seat : Seat} (attended : Attended k net)
    (legit : Legit k net) (joins : Joins k net net' seat) (distinct : net'.DistinctHosts)
    (counted : ∀ key, net'.counted .received .packets key = net.counted .received .packets key) :
    Attended k net' := by
  intro place within
  rw [counted, joins.joined.manager, attended place within]
  constructor
  · rintro ⟨other, ho, known, own⟩
    exact ⟨other, ho.join legit.fabric joins, known, own⟩
  · rintro ⟨other, ho, known, own⟩
    rcases legit.housed.sits_join legit.fabric joins ho with rfl | old
    · obtain ⟨before, hb, same, -⟩ := legit.directory known
      exact absurd same.symm (joins.apart legit.fabric distinct hb).1
    · exact ⟨other, old, known, own⟩

/-- **The books are kept in every state of a run**, and the ports attended. -/
theorem Reached.books (reached : Reached k log tree) : Books k tree.net ∧ Attended k tree.net := by
  induction reached with
  | new made => exact books_new made
  | @addHost log tree place amac ip reached distinct ih =>
    obtain ⟨rfl, legit, slotted⟩ := reached.legit
    obtain ⟨books, attended⟩ := ih
    have counted : ∀ key, (tree.addHost place amac ip).2.net.counted .received .packets key =
        tree.net.counted .received .packets key := fun key =>
      addHost_keeps (P := fun net => net.counted .received .packets key =
        tree.net.counted .received .packets key)
        (fun same move => (move.counted .received .packets key).trans same) rfl place amac ip
    rcases addHost_cases legit.fabric legit.housed slotted place amac ip with
      ⟨e, same⟩ | ⟨net, slot, -, done, joins⟩
    · rw [same]
      exact ⟨books, attended⟩
    · rw [done] at distinct counted ⊢
      exact ⟨books.join joins, attended.join legit joins distinct counted⟩
  | setStopAfter stopAfter _ ih =>
    exact ⟨⟨ih.1.reasons, ih.1.misses, ih.1.sums⟩, ih.2⟩
  | post reached posted ih =>
    obtain ⟨rfl, legit, -⟩ := reached.legit
    obtain ⟨seat, host, events, posts, rfl⟩ := post_cases legit.toSane posted
    obtain ⟨old, here, -⟩ := posts.card
    refine ⟨ih.1.setHost here host events, ih.2.congr posts.changed.ground rfl ?_⟩
    intro place within
    obtain ⟨switch, there, -⟩ := legit.fabric.edge within.1 within.2.1
    refine (Network.counted_setHost here host (place.socket _)).trans (if_neg ?_)
    rintro own
    rw [own] at here
    cases (Network.switchAt?_of_hostAt? here).symm.trans there
  | @event _ tree _ _ reached stepped ih =>
    obtain ⟨rfl, legit, -⟩ := reached.legit
    have laid := reached.populated.grown.laid
    rcases legit.step with ⟨-, stuck⟩ | ⟨net, event, rest, who, hosts, events, done, steps, -⟩
    · cases stuck.symm.trans stepped
    · cases done.symm.trans stepped
      exact ⟨ih.1.step legit laid.1.sturdy steps,
        ih.2.step legit laid.1.sturdy laid.1.matched steps⟩

end Runs

/-! ## Counting addresses -/

section Counting

variable {k : Nat} {net : Network}

/-- The addresses in the directory are those of registered seats. -/
theorem Sane.mem_keys (sane : Sane k net) {ip : Ipv4Address} :
    ip ∈ net.manager.directory.keys ↔
      ∃ seat : Seat, Sits k net.ground seat ∧ Registered net.manager.directory seat ∧
        seat.ip = ip := by
  rw [Std.TreeMap.mem_keys, Std.TreeMap.mem_iff_isSome_getElem?]
  constructor
  · intro listed
    obtain ⟨pmac, found⟩ := Option.isSome_iff_exists.mp listed
    obtain ⟨seat, hs, rfl, rfl⟩ := sane.directory found
    exact ⟨seat, hs, found, rfl⟩
  · rintro ⟨seat, -, known, rfl⟩
    exact Option.isSome_iff_exists.mpr ⟨_, known⟩

/-- No two hosts of a sane network share an address. -/
theorem Sane.distinctHosts (sane : Sane k net) : net.DistinctHosts := by
  refine Network.distinctHosts_of_unique fun {id id' host host'} here here' shared => ?_
  obtain ⟨seat, hs, rfl, card⟩ := sane.housed.seated (Network.ground_card here)
  obtain ⟨other, ho, rfl, card'⟩ := sane.housed.seated (Network.ground_card here')
  have ip : host.ip = seat.ip := congrArg Host.Card.ip card
  have ip' : host'.ip = other.ip := congrArg Host.Card.ip card'
  have amac : host.amac = seat.amac := congrArg Host.Card.amac card
  have amac' : host'.amac = other.amac := congrArg Host.Card.amac card'
  rw [ip, ip', amac, amac'] at shared
  exact congrArg Seat.id (sane.housed.distinct hs ho shared)

/-- A host has been heard exactly if it is registered. -/
theorem Attended.heard_iff (attended : Attended k net) {seat : Seat} (hs : Sits k net.ground seat)
    {host : Host} (here : net.hostAt? seat.id = some host) :
    net.heard host = true ↔ Registered net.manager.directory seat := by
  obtain ⟨other, there, card⟩ := hs.host
  cases here.symm.trans there
  have uplink : host.uplink = some (seat.place.socket k) := congrArg Host.Card.uplink card
  rw [Network.heard, uplink, Option.any_some, decide_eq_true_iff, attended seat.place hs.within]
  constructor
  · rintro ⟨other, ho, known, place⟩
    rwa [hs.eq_of_place ho place.symm]
  · intro known
    exact ⟨seat, hs, known, rfl⟩

/-- **The directory lists the hosts that have been heard.** -/
theorem Sane.keys_perm_heard (sane : Sane k net) (attended : Attended k net) :
    net.manager.directory.keys.Perm ((net.hosts.filter net.heard).map Host.ip) := by
  have apart : ((net.hosts.filter net.heard).map Host.ip).Nodup := by
    rw [List.Nodup, List.pairwise_map]
    exact (sane.distinctHosts.filter _).imp fun distinct => distinct.1
  refine (List.perm_ext_iff_of_nodup Std.TreeMap.nodup_keys apart).mpr fun ip => ?_
  rw [sane.mem_keys, List.mem_map]
  constructor
  · rintro ⟨seat, hs, known, rfl⟩
    obtain ⟨host, here, card⟩ := hs.host
    refine ⟨host, List.mem_filter.mpr ⟨Network.mem_hosts_iff.mpr ⟨_, here⟩, ?_⟩, ?_⟩
    · exact (attended.heard_iff hs here).mpr known
    · exact congrArg Host.Card.ip card
  · rintro ⟨host, mem, rfl⟩
    obtain ⟨listed, heard⟩ := List.mem_filter.mp mem
    obtain ⟨id, here⟩ := Network.mem_hosts_iff.mp listed
    obtain ⟨seat, hs, rfl, card⟩ := sane.housed.seated (Network.ground_card here)
    exact ⟨seat, hs, (attended.heard_iff hs here).mp heard, (congrArg Host.Card.ip card).symm⟩

/-- An entry of a table is that of a registered seat of the switch. -/
theorem Sane.mem_table (sane : Sane k net) {id : DeviceId} {switch : Switch}
    (here : net.switchAt? id = some switch) {entry : PmacEntry} :
    entry ∈ switch.table.toList ↔
      ∃ seat : Seat, Sits k net.ground seat ∧ Registered net.manager.directory seat ∧
        seat.edge k = id ∧ entry = seat.entry := by
  have rolled := sane.rolled here
  rw [rolled.indexed.mem_toList_iff, rolled.entries]
  constructor
  · rintro ⟨seat, hs, known, own, -, same⟩
    exact ⟨seat, hs, known, own, same⟩
  · rintro ⟨seat, hs, known, own, rfl⟩
    exact ⟨seat, hs, known, own, rfl, rfl⟩

/-- **All tables together list what the directory lists.** -/
theorem Sane.keys_perm_tables (sane : Sane k net) :
    net.manager.directory.keys.Perm
      (net.switches.flatMap fun switch => switch.table.toList.map PmacEntry.ip) := by
  have apart : (net.switches.flatMap fun switch => switch.table.toList.map PmacEntry.ip).Nodup := by
    refine List.pairwise_flatMap.mpr ⟨fun switch mem => ?_, ?_⟩
    · obtain ⟨id, here⟩ := Network.mem_switches_iff.mp mem
      rw [List.pairwise_map]
      refine (sane.rolled here).indexed.nodup_toList.imp_of_mem fun {entry other} hm hm' ne same => ?_
      obtain ⟨seat, hs, -, -, rfl⟩ := (sane.mem_table here).mp hm
      obtain ⟨seat', hs', -, -, rfl⟩ := (sane.mem_table here).mp hm'
      exact ne (congrArg Seat.entry (sane.housed.eq_of_ip hs hs' same))
    · refine Network.pairwise_switches fun {id id' switch switch'} differ here here' => ?_
      intro ip mem ip' mem' same
      obtain ⟨entry, hm, rfl⟩ := List.mem_map.mp mem
      obtain ⟨entry', hm', rfl⟩ := List.mem_map.mp mem'
      obtain ⟨seat, hs, -, own, rfl⟩ := (sane.mem_table here).mp hm
      obtain ⟨seat', hs', -, own', rfl⟩ := (sane.mem_table here').mp hm'
      have one := sane.housed.eq_of_ip hs hs' same
      exact differ (own.symm.trans ((congrArg (Seat.edge k) one).trans own'))
  refine (List.perm_ext_iff_of_nodup Std.TreeMap.nodup_keys apart).mpr fun ip => ?_
  rw [sane.mem_keys, List.mem_flatMap]
  constructor
  · rintro ⟨seat, hs, known, rfl⟩
    obtain ⟨switch, here, -⟩ := sane.fabric.edge hs.within.1 hs.within.2.1
    refine ⟨switch, Network.mem_switches_iff.mpr ⟨_, here⟩, List.mem_map.mpr ⟨seat.entry, ?_, rfl⟩⟩
    exact (sane.mem_table here).mpr ⟨seat, hs, known, rfl, rfl⟩
  · rintro ⟨switch, mem, listed⟩
    obtain ⟨id, here⟩ := Network.mem_switches_iff.mp mem
    obtain ⟨entry, hm, rfl⟩ := List.mem_map.mp listed
    obtain ⟨seat, hs, known, -, rfl⟩ := (sane.mem_table here).mp hm
    exact ⟨seat, hs, known, rfl⟩

/-- The sizes of all tables add up to the size of the directory. -/
theorem Sane.sizes (sane : Sane k net) :
    totalOf (fun switch => switch.table.size) net.switches = net.manager.directory.size := by
  have lengths := sane.keys_perm_tables.length_eq
  rw [Std.TreeMap.length_keys, length_flatMap] at lengths
  rw [lengths]
  refine totalOf_congr fun switch _ => ?_
  rw [List.length_map, PmacTable.length_toList]

end Counting

/-! ## The ledger -/

/-- **How all counters and sizes belong together**, as long as only hosts send. -/
structure Ledger (k : Nat) (net : Network) : Prop where
  /-- Frames are dropped at the edge only, and only for a destination that could not be resolved. -/
  reasons : ∀ switch ∈ net.switches, ∀ reason, switch.drops.count reason ≠ 0 →
    reason = .unresolved ∧ switch.tier = .edge
  unresolved : totalOf (fun switch => switch.drops.count .unresolved) net.switches =
    net.manager.counters.misses
  floods : net.manager.counters.floods = k / 2 * (k / 2) * net.manager.counters.misses
  queries : net.manager.counters.queries = net.manager.counters.hits + net.manager.counters.misses
  rejected : net.manager.counters.rejected = 0
  registrations : net.manager.counters.registrations = net.manager.directory.size
  tables : totalOf (fun switch => switch.table.size) net.switches = net.manager.directory.size
  heard : (net.hosts.filter net.heard).length = net.manager.directory.size
  inboxes : ∀ switch ∈ net.switches, switch.inbox = #[]
  /-- Frames are lost below edge switches only. -/
  losses : ∀ switch ∈ net.switches, ∀ port, switch.lost port ≠ 0 →
    switch.tier = .edge ∧ ∃ i, port = .lower i

/-- **The ledger balances in every state of a run**, and at every move a port loses frames only if it
is below an edge switch and no host is there at the time. -/
theorem legitimate_traffic_balances {k : Nat} {log : List Ipv4Packet} {tree : FatTree}
    (reached : Reached k log tree) :
    Ledger k tree.net ∧
      ∀ {after : FatTree}, tree.Moves after → ∀ {id switch later port},
        tree.net.switchAt? id = some switch → after.net.switchAt? id = some later →
        later.lost port ≠ switch.lost port →
          switch.tier = .edge ∧ (∃ i, port = .lower i) ∧ switch.peer? port = none := by
  obtain ⟨rfl, legit, -⟩ := reached.legit
  obtain ⟨books, attended⟩ := reached.books
  have populated := reached.populated
  refine ⟨?_, ?_⟩
  · exact
      { reasons := fun switch mem reason dropped => by
          obtain ⟨id, here⟩ := Network.mem_switches_iff.mp mem
          exact books.reasons here dropped
        unresolved := (tree.net.tally_all (.dropped .unresolved)).symm.trans books.misses
        floods := books.sums.floods
        queries := books.sums.queries
        rejected := books.sums.rejected
        registrations := books.sums.registrations
        tables := legit.toSane.sizes
        heard := by
          have lengths := (legit.toSane.keys_perm_heard attended).length_eq
          rw [Std.TreeMap.length_keys, List.length_map] at lengths
          exact lengths.symm
        inboxes := fun switch mem => by
          obtain ⟨id, here⟩ := Network.mem_switches_iff.mp mem
          have remembered : tree.net.memoryAt? id = some switch.memory :=
            congrArg (Option.map Switch.memory) here
          exact (legit.tables remembered).2
        losses := fun switch mem port some_lost => by
          obtain ⟨id, here⟩ := Network.mem_switches_iff.mp mem
          have lost : tree.net.lost ⟨id, port⟩ = switch.lost port := Network.lost_of_switchAt? here
          obtain ⟨pod, e, i, hp, he, same⟩ := populated.losses (lost ▸ some_lost)
          obtain ⟨number, below⟩ := Endpoint.mk.injEq .. ▸ same
          obtain ⟨other, there, follows⟩ := legit.fabric.edge hp he
          rw [number] at here
          cases here.symm.trans there
          exact ⟨follows.tier, i, below⟩ }
  · intro after move id switch later port here there more
    have before : tree.net.lost ⟨id, port⟩ = switch.lost port := Network.lost_of_switchAt? here
    have now : after.net.lost ⟨id, port⟩ = later.lost port := Network.lost_of_switchAt? there
    obtain ⟨other, here', edge, below, free⟩ :=
      @Moves.losses tree after populated move ⟨id, port⟩ (by rwa [before, now])
    cases here.symm.trans here'
    exact ⟨edge, below, free⟩

/-- A host asks for one that is not there, and its question is about to reach the other edge switch. -/
def calling : List Operation :=
  [.addHost ⟨0, 0, 0⟩ ⟨2, 0, 0, 0, 0, 1⟩ ⟨10, 0, 0, 1⟩, .setStopAfter (some 5),
    .send 5 ⟨10, 0, 0, 2⟩ [7]]

/-- The call has been dropped once, and is then lost at the other edge switch, where nobody is. -/
theorem call_balances :
    Ledger 2 (smallest.performAll calling).2.net ∧
      (smallest.performAll calling).2.net.manager.counters = ⟨1, 1, 0, 1, 1, 0⟩ ∧
      ∃ switch later, (smallest.performAll calling).2.net.switchAt? 2 = some switch ∧
        (smallest.performAll calling).2.advanced.net.switchAt? 2 = some later ∧
        later.lost (.lower 0) ≠ switch.lost (.lower 0) ∧ switch.peer? (.lower 0) = none := by
  have reached := (Reached.new new_smallest).performAll calling (by decide +kernel)
  obtain ⟨ledger, losses⟩ := legitimate_traffic_balances reached
  refine ⟨ledger, by decide +kernel, ?_⟩
  obtain ⟨result, stepped, same⟩ :=
    @step_advanced (smallest.performAll calling).2 (by decide +kernel)
  have move : (smallest.performAll calling).2.Moves (smallest.performAll calling).2.advanced := by
    rw [same]
    exact .work (.event stepped)
  obtain ⟨switch, here⟩ : ∃ switch, (smallest.performAll calling).2.net.switchAt? 2 = some switch :=
    Option.isSome_iff_exists.mp (by decide +kernel)
  obtain ⟨later, there⟩ :
      ∃ later, (smallest.performAll calling).2.advanced.net.switchAt? 2 = some later :=
    Option.isSome_iff_exists.mp (by decide +kernel)
  have before : (smallest.performAll calling).2.net.lost ⟨2, .lower 0⟩ = 0 := by decide +kernel
  have after : (smallest.performAll calling).2.advanced.net.lost ⟨2, .lower 0⟩ = 1 := by
    decide +kernel
  have more : later.lost (.lower 0) ≠ switch.lost (.lower 0) := by
    have some_lost : later.lost (.lower 0) = 1 := (Network.lost_of_switchAt? there).symm.trans after
    have none_lost : switch.lost (.lower 0) = 0 := (Network.lost_of_switchAt? here).symm.trans before
    rw [some_lost, none_lost]
    exact Nat.one_ne_zero
  exact ⟨switch, later, here, there, more, (losses move here there more).2.2⟩

end FatTree

end PmacFabric
