import PmacFabric.Proofs.Network.Moves
import PmacFabric.Proofs.FatTree.Runs

/-!
# All states of a run are legitimate

`Legit.join` carries a legitimate state over to a network with one more host. With it,
**`Reached.legit`** says that every state of a run is legitimate, and that the fat-tree knows the
places of its hosts.
-/

namespace PmacFabric

instance (net : Network) : Decidable net.DistinctHosts :=
  inferInstanceAs (Decidable (net.hosts.Pairwise fun host other =>
    host.ip ≠ other.ip ∧ host.amac ≠ other.amac))

/-- A host with an address is the only one with it. -/
theorem Network.DistinctHosts.eq_of_shared {net : Network} (distinct : net.DistinctHosts)
    {id id' : DeviceId} {host host' : Host} (here : net.hostAt? id = some host)
    (here' : net.hostAt? id' = some host')
    (shared : host.ip = host'.ip ∨ host.amac = host'.amac) : id = id' := by
  rw [Network.DistinctHosts, Network.hosts_eq, Network.pairwise_kind_iff] at distinct
  rcases Nat.lt_trichotomy id id' with before | same | after
  · have apart := distinct before here here'
    exact absurd shared fun either => either.elim apart.1 apart.2
  · exact same
  · have apart := distinct after here' here
    exact absurd shared fun either => either.elim (apart.1 ·.symm) (apart.2 ·.symm)

/-- Hosts are distinct if no two of them share an address. -/
theorem Network.distinctHosts_of_unique {net : Network}
    (unique : ∀ {id id' host host'}, net.hostAt? id = some host → net.hostAt? id' = some host' →
      host.ip = host'.ip ∨ host.amac = host'.amac → id = id') : net.DistinctHosts :=
  Network.pairwise_hosts fun differ here here' =>
    ⟨fun same => differ (unique here here' (.inl same)),
      fun same => differ (unique here here' (.inr same))⟩

/-- A network whose hosts all exist in another one, with the same addresses. -/
def Network.HostsWithin (net net' : Network) : Prop :=
  ∀ id host, net.hostAt? id = some host →
    ∃ host', net'.hostAt? id = some host' ∧ host'.ip = host.ip ∧ host'.amac = host.amac

/-- Hosts that are kept twice are kept. -/
theorem Network.HostsWithin.trans {a b c : Network} (h : a.HostsWithin b) (h' : b.HostsWithin c) :
    a.HostsWithin c := by
  intro id host here
  obtain ⟨host', here', ip, amac⟩ := h id host here
  obtain ⟨host'', here'', ip', amac'⟩ := h' id host' here'
  exact ⟨host'', here'', ip'.trans ip, amac'.trans amac⟩

/-- The ground decides which hosts there are. -/
theorem Network.HostsWithin.of_ground {net net' : Network} (same : net'.ground = net.ground) :
    net.HostsWithin net' := by
  intro id host here
  have card := Network.ground_card here
  rw [← same] at card
  obtain ⟨host', here', card'⟩ := Option.map_eq_some_iff.mp card
  exact ⟨host', here', congrArg Host.Card.ip card', congrArg Host.Card.amac card'⟩

/-- Fewer hosts are distinct as well. -/
theorem Network.HostsWithin.distinct {net net' : Network} (within : net.HostsWithin net')
    (distinct : net'.DistinctHosts) : net.DistinctHosts := by
  refine Network.distinctHosts_of_unique fun {id id' host host'} here here' shared => ?_
  obtain ⟨later, there, ip, amac⟩ := within id host here
  obtain ⟨later', there', ip', amac'⟩ := within id' host' here'
  exact distinct.eq_of_shared there there' (ip ▸ ip' ▸ amac ▸ amac' ▸ shared)

namespace FatTree

open Network (Ground)

section Join

variable {k : Nat} {net net' : Network} {seat : Seat}

/-- A new seat shares no address with the old ones if no two hosts share one. -/
theorem Joins.apart (joins : Joins k net net' seat) (fabric : Fabric k net.ground)
    (distinct : net'.DistinctHosts) {other : Seat} (ho : Sits k net.ground other) :
    seat.ip ≠ other.ip ∧ seat.amac ≠ other.amac := by
  have hs := joins.sits fabric
  obtain ⟨host, here, card⟩ := hs.host
  obtain ⟨host', here', card'⟩ := (ho.join fabric joins).host
  have apart : ¬ (seat.ip = other.ip ∨ seat.amac = other.amac) := by
    intro shared
    have ip : host.ip = seat.ip := congrArg Host.Card.ip card
    have ip' : host'.ip = other.ip := congrArg Host.Card.ip card'
    have amac : host.amac = seat.amac := congrArg Host.Card.amac card
    have amac' : host'.amac = other.amac := congrArg Host.Card.amac card'
    have number := distinct.eq_of_shared here here' (ip ▸ ip' ▸ amac ▸ amac' ▸ shared)
    obtain ⟨old, there, _⟩ := ho.host
    rw [← number, joins.number, Network.hostAt?_size] at there
    cases there
  exact ⟨fun same => apart (.inl same), fun same => apart (.inr same)⟩

/-- A new host is sane. -/
theorem saneHost_newcomer (ground : Ground) (directory : Directory) (seat : Seat) :
    SaneHost k ground directory (seat.newcomer k) := by
  refine ⟨fun {ip mac} found => ?_, fun {ip items} found => ?_, ?_⟩
  · cases Std.TreeMap.getElem?_emptyc.symm.trans found
  · cases Std.TreeMap.getElem?_emptyc.symm.trans found
  · intro packet mem
    cases mem with
    | mk mem => cases mem

/-- **A new host keeps a state legitimate.** -/
theorem Legit.join (legit : Legit k net) (joins : Joins k net net' seat)
    (distinct : net'.DistinctHosts) : Legit k net' := by
  have fabric := legit.fabric
  have housed := legit.housed
  have apart := fun {other : Seat} (ho : Sits k net.ground other) => joins.apart fabric distinct ho
  have sits := fun {other : Seat} (h : Sits k net.ground other) => h.join fabric joins
  have directory := joins.joined.traffic.directory
  have fresh : ¬ Registered net.manager.directory seat := by
    intro listed
    obtain ⟨old, ho, own, _⟩ := legit.directory listed
    exact (apart ho).1 own.symm
  have ext : Extends k net.ground net.manager.directory net'.ground net'.manager.directory :=
    ⟨sits, fun {other} listed => directory ▸ listed⟩
  refine ⟨⟨fabric.join joins, housed.join fabric joins apart, ?_, ?_, ?_⟩, ?_, ?_⟩
  · intro ip pmac found
    rw [directory] at found
    obtain ⟨old, ho, own, shown⟩ := legit.directory found
    exact ⟨old, sits ho, own, shown⟩
  · intro id memory found
    rw [joins.joined.memory] at found
    obtain ⟨rolled, empty⟩ := legit.tables found
    refine ⟨⟨rolled.indexed, fun pmac entry => (rolled.entries pmac entry).trans ?_⟩, empty⟩
    rw [directory]
    constructor
    · rintro ⟨other, ho, rest⟩
      exact ⟨other, sits ho, rest⟩
    · rintro ⟨other, ho, listed, rest⟩
      rcases housed.sits_join fabric joins ho with rfl | old
      · exact absurd listed fresh
      · exact ⟨other, old, listed, rest⟩
  · intro id host here
    rw [joins.joined.hosts] at here
    split at here
    · cases here
      exact saneHost_newcomer _ _ seat
    · exact (legit.hosts here).extend ext
  · intro event mem
    rw [joins.joined.traffic.queue] at mem
    exact (legit.queued event mem).extend ext
  · exact joins.joined.traffic.trace.trans legit.silent

end Join

/-- A network that has just been built is legitimate. -/
theorem legit_new {k : Nat} {config : FabricConfig} {streams : DeviceId → Choice.Stream}
    {tree : FatTree} (h : new k config streams = .ok tree) :
    tree.k = k ∧ Legit k tree.net ∧ Slotted tree := by
  obtain ⟨net, done, fabric, pristine, free, same, _⟩ := new_ok (accepts_of_new_ok h) config streams
  cases h.symm.trans done
  have homeless : ∀ seat, ¬ Sits k net.ground seat := by
    intro seat sits
    obtain ⟨host, here, _⟩ := sits.host
    rw [pristine.1] at here
    cases here
  have nobody : ∀ {ip : Ipv4Address}, net.manager.directory[ip]? = none := by
    intro ip
    rw [same.directory]
    exact Std.TreeMap.getElem?_emptyc
  have housed : Housed k net.ground := by
    refine ⟨fun {id card} found => ?_, fun {pod e i peer} hp he linked => ?_,
      fun {seat other} hs _ _ => absurd hs (homeless seat)⟩
    · obtain ⟨host, here, _⟩ := Option.map_eq_some_iff.mp found
      rw [pristine.1] at here
      cases here
    · cases (free hp he).symm.trans linked
  refine ⟨rfl, ⟨⟨fabric, housed, ?_, ?_, ?_⟩, ?_, same.trace⟩, ?_⟩
  · intro ip pmac found
    rw [nobody] at found
    cases found
  · intro id memory found
    cases pristine.2 id memory found
    refine ⟨⟨PmacTable.indexed_empty, fun pmac entry => ⟨?_, ?_⟩⟩, rfl⟩
    · intro found
      rw [PmacTable.lookup?_empty] at found
      cases found
    · rintro ⟨seat, sits, _⟩
      exact absurd sits (homeless seat)
  · intro id host here
    rw [pristine.1] at here
    cases here
  · intro event mem
    rw [same.queue] at mem
    cases mem
  · intro place slot _ id
    constructor
    · intro found
      cases Std.TreeMap.getElem?_emptyc.symm.trans found
    · rintro ⟨seat, sits, _⟩
      exact absurd sits (homeless seat)

/-- The places of hosts depend on the ground only. -/
theorem Slotted.congr {tree : FatTree} {net : Network} (slotted : Slotted tree)
    (ground : net.ground = tree.net.ground) : Slotted { tree with net } := by
  intro place slot hslot id
  rw [show ({ tree with net } : FatTree).net.ground = tree.net.ground from ground]
  exact slotted hslot id

/-- **Every state of a run is legitimate.** -/
theorem Reached.legit {k : Nat} {log : List Ipv4Packet} {tree : FatTree}
    (reached : Reached k log tree) : tree.k = k ∧ Legit k tree.net ∧ Slotted tree := by
  induction reached with
  | new made => exact legit_new made
  | addHost place amac ip _ distinct ih =>
    obtain ⟨rfl, legit, slotted⟩ := ih
    rcases addHost_cases legit.fabric legit.housed slotted place amac ip with
      ⟨e, same⟩ | ⟨net, slot, hslot, done, joins⟩
    · rw [same]
      exact ⟨rfl, legit, slotted⟩
    · rw [done] at distinct ⊢
      exact ⟨rfl, legit.join joins distinct, slotted.join legit.fabric legit.housed hslot joins⟩
  | setStopAfter stopAfter _ ih =>
    obtain ⟨rfl, legit, slotted⟩ := ih
    exact ⟨rfl, ⟨⟨legit.fabric, legit.housed, legit.directory, legit.tables, legit.hosts⟩,
      legit.queued, legit.silent⟩, slotted⟩
  | post _ posted ih =>
    obtain ⟨rfl, legit, slotted⟩ := ih
    obtain ⟨ground, after⟩ := legit.post posted
    exact ⟨rfl, after, slotted.congr ground⟩
  | event _ stepped ih =>
    obtain ⟨rfl, legit, slotted⟩ := ih
    rcases legit.step with ⟨_, stuck⟩ | ⟨net', _, _, _, _, _, done, steps, after⟩
    · rw [stuck] at stepped
      cases stepped
    · cases done.symm.trans stepped
      exact ⟨rfl, after, slotted.congr steps.changed.ground⟩

/-! ## Sequences of operations -/

/-- Whatever happens to a host that is added, the others keep their addresses. -/
theorem hostsWithin_addHost (tree : FatTree) (place : Place) (amac : MacAddress)
    (ip : Ipv4Address) : tree.net.HostsWithin (tree.addHost place amac ip).2.net := by
  have added : ∀ {id host}, tree.net.hostAt? id = some host → id ≠ tree.net.devices.size ∧
      (tree.net.addHost place.hostName amac ip).2.hostAt? id = some host := by
    intro id host here
    have old : id ≠ tree.net.devices.size := by
      rintro rfl
      rw [Network.hostAt?_size] at here
      cases here
    exact ⟨old, by rw [Network.hostAt?_addHost, if_neg old, here]⟩
  have attached : ∀ switch port, tree.net.HostsWithin
      ((tree.net.addHost place.hostName amac ip).2.attachHost tree.net.devices.size switch port).2 := by
    intro switch port id host here
    obtain ⟨old, still⟩ := added here
    refine ⟨host, ?_, rfl, rfl⟩
    rcases Network.attachHost_cases (tree.net.addHost place.hostName amac ip).2
      tree.net.devices.size switch port with same | ⟨newcomer, there, -, -, attached⟩
    · rw [same]
      exact still
    · have newest : ((tree.net.addHost place.hostName amac ip).2.setPeer ⟨switch, .lower port⟩
          ⟨tree.net.devices.size, .upper 0⟩).hostAt? tree.net.devices.size = some newcomer :=
        (Network.hostAt?_modifySwitch _ _ _ _).trans there
      have untouched := (Network.hostAt?_modifySwitch _ switch (fun s => s.setPeer (.lower port)
        ⟨tree.net.devices.size, .upper 0⟩) id).trans still
      rw [attached]
      exact (Network.hostAt?_setHost newest _ id).trans ((if_neg old.symm).trans untouched)
  unfold addHost
  split
  · exact .of_ground rfl
  · split
    · exact .of_ground rfl
    · split
      · exact .of_ground rfl
      · rename_i switch _ _ _ _ _
        have result := attached switch place.port
        dsimp only
        split
        · rename_i e net done
          rw [show (tree.net.addHost place.hostName amac ip).1 = tree.net.devices.size from rfl] at done
          rw [done] at result
          exact result
        · rename_i net done
          rw [show (tree.net.addHost place.hostName amac ip).1 = tree.net.devices.size from rfl] at done
          rw [done] at result
          exact result

/-- Posting keeps the card of a host. -/
theorem card_hostPost {host host' : Host} {operation : Operation} {events : List Event}
    (posted : hostPost host operation = some (events, host')) : host'.card = host.card := by
  cases operation with
  | send _ dst bytes =>
    cases sent : host.send dst bytes with
    | error e => simp only [hostPost, sent, Except.toOption, reduceCtorEq] at posted
    | ok result =>
      simp only [hostPost, sent, Except.toOption, Option.some.injEq] at posted
      exact Host.card_send (posted ▸ sent)
  | retransmit _ =>
    cases sent : host.retransmit with
    | error e => simp only [hostPost, sent, Except.toOption, reduceCtorEq] at posted
    | ok result =>
      simp only [hostPost, sent, Except.toOption, Option.some.injEq] at posted
      exact Host.card_retransmit (posted ▸ sent)
  | _ => cases posted

/-- No operation takes a host away. -/
theorem hostsWithin_perform (tree : FatTree) (operation : Operation) :
    tree.net.HostsWithin (tree.perform operation).2.net := by
  cases sends : operation.sender?.isSome with
  | false =>
    cases operation with
    | addHost place amac ip => exact hostsWithin_addHost tree place amac ip
    | setStopAfter stopAfter => exact .of_ground rfl
    | _ => cases sends
  | true =>
    rcases perform_send tree operation sends with ⟨e, refused, done⟩ | ⟨net, answer, posted, done⟩
    · rw [done]
      exact .of_ground rfl
    · rw [done]
      refine .of_ground ?_
      obtain ⟨id, sender, posted⟩ := Option.bind_eq_some_iff.mp posted
      obtain ⟨host, here, posted⟩ := Option.bind_eq_some_iff.mp posted
      obtain ⟨⟨events, host'⟩, shown, rfl⟩ := Option.map_eq_some_iff.mp posted
      exact (Network.ground_run _ _).trans (Network.ground_setHost here (card_hostPost shown) events)

/-- No sequence of operations takes a host away. -/
theorem hostsWithin_performAll (operations : List Operation) (tree : FatTree) :
    tree.net.HostsWithin (tree.performAll operations).2.net := by
  induction operations generalizing tree with
  | nil => exact .of_ground rfl
  | cons operation rest ih =>
    exact (hostsWithin_perform tree operation).trans (ih (tree.perform operation).2)

/-- **The state after a sequence of operations is the state of a run**, if no two hosts share an
address in the end. -/
theorem Reached.performAll {k : Nat} {log : List Ipv4Packet} {tree : FatTree}
    (reached : Reached k log tree) (operations : List Operation)
    (distinct : (tree.performAll operations).2.net.DistinctHosts) :
    Reached k (log ++ handedAll tree operations) (tree.performAll operations).2 := by
  induction operations generalizing log tree with
  | nil =>
    rw [handedAll, List.append_nil]
    exact reached
  | cons operation rest ih =>
    have before := (hostsWithin_performAll rest (tree.perform operation).2).distinct distinct
    rw [handedAll, ← List.append_assoc]
    exact ih (reached.perform operation before) distinct

/-! ## A small run -/

/-- The smallest fat-tree; all its choices of ports are 0. -/
def smallest : FatTree :=
  ((FatTree.new 2 {} fun _ _ => 0).toOption).getD ⟨2, .empty {} fun _ _ => 0, {}⟩

theorem new_smallest : FatTree.new 2 {} (fun _ _ => 0) = .ok smallest := by
  obtain ⟨net, done, _⟩ := new_ok (k := 2) (by decide) {} fun _ _ => 0
  rw [smallest, done]
  rfl

/-- A host in either pod; the first sends to the second. -/
def greeting : List Operation :=
  [.addHost ⟨0, 0, 0⟩ ⟨2, 0, 0, 0, 0, 1⟩ ⟨10, 0, 0, 1⟩,
    .addHost ⟨1, 0, 0⟩ ⟨2, 0, 0, 0, 0, 2⟩ ⟨10, 0, 0, 2⟩,
    .send 5 ⟨10, 0, 0, 2⟩ [7]]

end FatTree

end PmacFabric
