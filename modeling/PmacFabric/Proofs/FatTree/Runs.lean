import PmacFabric.Proofs.FatTree.Invariant

/-!
# Runs of a fat-tree

An `Operation` is what the users of a fat-tree may do, and `perform` does it. An operation that sends
first **posts**: it changes its host and adds events. Then it processes the queue. `Reached` lists
the states of all runs: those after whole operations, and those after any number of events in
between, together with the packets that hosts have been asked to send. It has single events as its
steps; `Reached.perform` says that whole operations are made of them.
-/

namespace PmacFabric

/-- No two hosts share an address. -/
def Network.DistinctHosts (net : Network) : Prop :=
  net.hosts.Pairwise fun host other => host.ip ≠ other.ip ∧ host.amac ≠ other.amac

namespace FatTree

open Network (Ground)

inductive Operation where
  | addHost (place : Place) (amac : MacAddress) (ip : Ipv4Address)
  | send (id : DeviceId) (dst : Ipv4Address) (bytes : Bytes)
  | retransmit (id : DeviceId)
  | setStopAfter (stopAfter : Option Nat)
deriving DecidableEq, Repr

/-- What an operation returns. -/
inductive Answer where
  /-- The number of a new host. -/
  | host (id : DeviceId)
  /-- The number of questions asked. -/
  | asked (questions : Nat)
  | done
deriving DecidableEq, Repr

def perform (tree : FatTree) : Operation → Except TopologyError Answer × FatTree
  | .addHost place amac ip =>
    let (result, tree) := tree.addHost place amac ip
    (result.map .host, tree)
  | .send id dst bytes =>
    let (result, net) := tree.net.send id dst bytes
    ((result.mapError .network).map fun _ => .done, { tree with net })
  | .retransmit id =>
    let (result, net) := tree.net.retransmit id
    ((result.mapError .network).map .asked, { tree with net })
  | .setStopAfter stopAfter => (.ok .done, { tree with net := tree.net.setStopAfter stopAfter })

/-- Performs operations in order, whether they succeed or not. -/
def performAll (tree : FatTree) : List Operation → List (Except TopologyError Answer) × FatTree
  | [] => ([], tree)
  | operation :: rest =>
    let (result, tree) := tree.perform operation
    let (results, tree) := tree.performAll rest
    (result :: results, tree)

/-! ## Posting -/

/-- What a host does for an operation that sends: its events, and the host afterwards. -/
def hostPost (host : Host) : Operation → Option (List Event × Host)
  | .send _ dst bytes => (host.send dst bytes).toOption
  | .retransmit _ => host.retransmit.toOption
  | _ => none

/-- The host that an operation asks to send. -/
def Operation.sender? : Operation → Option DeviceId
  | .send id _ _ => some id
  | .retransmit id => some id
  | _ => none

/-- Whether an operation hands data to a host. -/
def Operation.isSend : Operation → Bool
  | .send _ _ _ => true
  | _ => false

/-- The network in which an operation that sends begins to process the queue; none if it is refused
or sends nothing. -/
def post (net : Network) (operation : Operation) : Option Network :=
  operation.sender?.bind fun id =>
    (net.hostAt? id).bind fun host =>
      (hostPost host operation).map fun (events, host) => (net.setHost id host).enqueue events

/-- The packet that an operation hands to an attached host. -/
def handed (net : Network) : Operation → List Ipv4Packet
  | .send id dst bytes =>
    match net.hostAt? id with
    | some host => if host.uplink.isSome then [⟨host.ip, dst, bytes⟩] else []
    | none => []
  | _ => []

/-- The packets that a sequence of operations hands to attached hosts. -/
def handedAll (tree : FatTree) : List Operation → List Ipv4Packet
  | [] => []
  | operation :: rest => handed tree.net operation ++ handedAll (tree.perform operation).2 rest

/-- The states of all runs from `FatTree.new`, each with the packets handed to attached hosts so far,
in order. Hosts may be added at any time as long as no two share an address. -/
inductive Reached (k : Nat) : List Ipv4Packet → FatTree → Prop where
  | new {config : FabricConfig} {streams : DeviceId → Choice.Stream} {tree : FatTree} :
      FatTree.new k config streams = .ok tree → Reached k [] tree
  | addHost {log : List Ipv4Packet} {tree : FatTree} (place : Place) (amac : MacAddress)
      (ip : Ipv4Address) : Reached k log tree →
      (tree.addHost place amac ip).2.net.DistinctHosts →
      Reached k log (tree.addHost place amac ip).2
  | setStopAfter {log : List Ipv4Packet} {tree : FatTree} (stopAfter : Option Nat) :
      Reached k log tree → Reached k log { tree with net := tree.net.setStopAfter stopAfter }
  /-- An operation begins. -/
  | post {log : List Ipv4Packet} {tree : FatTree} {operation : Operation} {net : Network} :
      Reached k log tree → post tree.net operation = some net →
      Reached k (log ++ handed tree.net operation) { tree with net }
  /-- One event is processed. -/
  | event {log : List Ipv4Packet} {tree : FatTree} {result : Except NetworkError Unit}
      {net : Network} : Reached k log tree → tree.net.step = some (result, net) →
      Reached k log { tree with net }

/-! ## What a posting host does -/

/-- What a seat's host does for an operation that sends. -/
inductive Posts (k : Nat) (net : Network) : Operation → Seat → Host → List Event → Prop where
  /-- Data for a resolved address leaves. -/
  | data {seat dest : Seat} {host : Host} {bytes : Bytes} : Sits k net.ground seat →
      Sits k net.ground dest → Registered net.manager.directory dest →
      net.hostAt? seat.id = some host → host.resolve? dest.ip = some dest.pmac.mac →
      Posts k net (.send seat.id dest.ip bytes) seat (host.countSent 1)
        [.frame (seat.uplink k) ((Letter.data dest.ip bytes).frame seat.amac seat.ip dest.pmac.mac)]
  /-- The first data for an unresolved address waits, and a question is asked. -/
  | first {seat : Seat} {host : Host} {dst : Ipv4Address} {bytes : Bytes} :
      Sits k net.ground seat → net.hostAt? seat.id = some host → host.resolve? dst = none →
      host.pendingFor dst = [] →
      Posts k net (.send seat.id dst bytes) seat
        (Host.countAsked { host with pending := host.pending.insert dst [bytes] } 1)
        [.frame (seat.uplink k) ((Letter.question dst).frame seat.amac seat.ip .broadcast)]
  /-- More data for an unresolved address waits. -/
  | more {seat : Seat} {host : Host} {dst : Ipv4Address} {bytes : Bytes} :
      Sits k net.ground seat → net.hostAt? seat.id = some host → host.resolve? dst = none →
      host.pendingFor dst ≠ [] →
      Posts k net (.send seat.id dst bytes) seat
        { host with pending := host.pending.insert dst (host.pendingFor dst ++ [bytes]) } []
  /-- Questions are asked again. -/
  | again {seat : Seat} {host : Host} : Sits k net.ground seat → net.hostAt? seat.id = some host →
      Posts k net (.retransmit seat.id) seat (host.countAsked host.pending.keys.length)
        (host.pending.keys.map fun ip =>
          .frame (seat.uplink k) ((Letter.question ip).frame seat.amac seat.ip .broadcast))

/-- In a sane network every posting is one of these. -/
theorem post_cases {k : Nat} {net net' : Network} {operation : Operation} (sane : Sane k net)
    (posted : post net operation = some net') :
    ∃ seat host events, Posts k net operation seat host events ∧
      net' = (net.setHost seat.id host).enqueue events := by
  obtain ⟨id, sender, posted⟩ := Option.bind_eq_some_iff.mp posted
  obtain ⟨host, here, posted⟩ := Option.bind_eq_some_iff.mp posted
  obtain ⟨⟨events, host'⟩, done, rfl⟩ := Option.map_eq_some_iff.mp posted
  obtain ⟨seat, sits, rfl, card⟩ := sane.housed.seated (Network.ground_card here)
  have uplink : host.uplink = some (seat.uplink k) := congrArg Host.Card.uplink card
  refine ⟨seat, host', events, ?_, rfl⟩
  cases operation with
  | addHost => cases sender
  | setStopAfter => cases sender
  | send _ dst bytes =>
    cases sender
    simp only [hostPost] at done
    cases known : host.resolve? dst with
    | some mac =>
      rw [Host.send_eq_known uplink known, card] at done
      cases done
      obtain ⟨dest, hd, listed, rfl, rfl⟩ := (sane.hosts here).cached known
      exact .data sits hd listed here known
    | none =>
      rw [Host.send_eq_unknown uplink known, card] at done
      cases empty : (host.pendingFor dst).isEmpty with
      | true =>
        simp only [empty, if_true] at done
        cases done
        have none_waiting := List.isEmpty_iff.mp empty
        rw [none_waiting]
        exact .first sits here known none_waiting
      | false =>
        simp only [empty, Bool.false_eq_true, if_false] at done
        cases done
        apply Posts.more sits here known
        intro none_waiting
        rw [none_waiting] at empty
        cases empty
  | retransmit _ =>
    cases sender
    simp only [hostPost, Host.retransmit_eq uplink, card] at done
    cases done
    exact .again sits here

section Posts

variable {k : Nat} {net : Network} {operation : Operation} {seat : Seat} {host : Host}
  {events : List Event}

/-- Only seats post. -/
theorem Posts.sits (posts : Posts k net operation seat host events) : Sits k net.ground seat := by
  cases posts <;> assumption

/-- The host before, and its card, which stays. -/
theorem Posts.card (posts : Posts k net operation seat host events) :
    ∃ old, net.hostAt? seat.id = some old ∧ host.card = old.card := by
  cases posts with
  | data _ _ _ here _ => exact ⟨_, here, rfl⟩
  | first _ here _ _ => exact ⟨_, here, rfl⟩
  | more _ here _ _ => exact ⟨_, here, rfl⟩
  | again _ here => exact ⟨_, here, rfl⟩

/-- A host stays sane when data waits that it has no address for. -/
theorem SaneHost.wait {ground : Ground} {directory : Directory} {host : Host} {dst : Ipv4Address}
    {items : List Bytes} (h : SaneHost k ground directory host) (unknown : host.resolve? dst = none)
    (some_items : items ≠ []) :
    SaneHost k ground directory { host with pending := host.pending.insert dst items } := by
  refine ⟨h.cached, fun {ip waiting} found => ?_, h.inbox⟩
  have found : (host.pending.insert dst items)[ip]? = some waiting := found
  rw [Std.TreeMap.getElem?_insert] at found
  split at found
  · rename_i same
    cases found
    exact ⟨some_items, Std.compare_eq_iff_eq.mp same ▸ unknown⟩
  · exact h.waiting found

/-- A host that has posted is sane. -/
theorem Posts.sane_host (posts : Posts k net operation seat host events) (sane : Sane k net) :
    SaneHost k net.ground net.manager.directory host := by
  cases posts with
  | data _ _ _ here _ => exact (sane.hosts here).countSent 1
  | first _ here unknown _ =>
    exact ((sane.hosts here).wait unknown (List.cons_ne_nil _ _)).countAsked 1
  | more _ here unknown _ =>
    exact (sane.hosts here).wait unknown (List.append_ne_nil_of_right_ne_nil _ (List.cons_ne_nil _ _))
  | again _ here => exact (sane.hosts here).countAsked _

/-- What is posted is sound. -/
theorem Posts.sound (posts : Posts k net operation seat host events) :
    ∀ event ∈ events, Sound k net.ground net.manager.directory event := by
  intro event mem
  cases posts with
  | data hs hd known _ _ =>
    cases List.mem_singleton.mp mem
    exact .addressed hs hd known rfl
  | first hs =>
    cases List.mem_singleton.mp mem
    exact .asking hs
  | more => cases mem
  | again hs =>
    obtain ⟨ip, _, rfl⟩ := List.mem_map.mp mem
    exact .asking hs

/-- How a network changes when a host posts. -/
theorem Posts.changed (posts : Posts k net operation seat host events) :
    Changed k net ((net.setHost seat.id host).enqueue events) none (withHost net seat.id host)
      events := by
  obtain ⟨old, here, card⟩ := posts.card
  refine ⟨Network.ground_setHost here card events, rfl, rfl, rfl, rfl, rfl, ?_, ?_, ?_⟩
  · intro key
    exact (Network.memoryAt?_setHost here host key).trans Option.map_id'.symm
  · intro key
    exact Network.hostAt?_setHost here host key
  · exact EventQueue.toList_pushAll _ _

/-- **Posting keeps a state legitimate.** -/
theorem Posts.legit (posts : Posts k net operation seat host events) (legit : Legit k net) :
    Legit k ((net.setHost seat.id host).enqueue events) := by
  have changed := posts.changed
  have ground := changed.ground
  refine ⟨⟨ground ▸ legit.fabric, ground ▸ legit.housed, ?_, ?_, ?_⟩, ?_, legit.silent⟩
  · intro ip pmac found
    rw [ground]
    exact legit.directory found
  · intro id memory found
    rw [changed.memory, show enrolMemory? k net.manager.directory none id = fun m => m from rfl,
      Option.map_id'] at found
    rw [ground]
    exact legit.tables found
  · intro id host' here
    rw [changed.hosts] at here
    rw [ground]
    unfold withHost at here
    split at here
    · cases here
      exact posts.sane_host legit.toSane
    · exact legit.hosts here
  · intro event mem
    rw [changed.queue] at mem
    rw [ground]
    rcases List.mem_append.mp mem with old | new
    · exact legit.queued event old
    · exact posts.sound event new

end Posts

/-- **Posting keeps a network legitimate.** -/
theorem Legit.post {k : Nat} {net net' : Network} {operation : Operation} (legit : Legit k net)
    (posted : post net operation = some net') : net'.ground = net.ground ∧ Legit k net' := by
  obtain ⟨seat, host, events, posts, rfl⟩ := post_cases legit.toSane posted
  exact ⟨posts.changed.ground, posts.legit legit⟩

/-! ## Operations are made of single steps -/

/-- The two ways of looking up a host agree. -/
theorem hostAt?_eq_toOption (net : Network) (id : DeviceId) :
    net.hostAt? id = (net.getHost id).toOption := by
  cases found : net.getHost id with
  | ok host => exact Network.getHost_eq_ok_iff.mp found
  | error e =>
    cases here : net.hostAt? id with
    | none => rfl
    | some host => rw [Network.getHost_eq_ok_iff.mpr here] at found; cases found

/-- An operation that sends is a posting and a run, or is refused. -/
theorem perform_send (tree : FatTree) (operation : Operation)
    (sends : operation.sender?.isSome) :
    (∃ e, post tree.net operation = none ∧ perform tree operation = (.error e, tree)) ∨
      ∃ net answer, post tree.net operation = some net ∧
        perform tree operation =
          ((net.settle.1.mapError .network).map fun _ => answer, { tree with net := net.settle.2 }) := by
  cases operation with
  | addHost => cases sends
  | setStopAfter => cases sends
  | send id dst bytes =>
    simp only [post, Operation.sender?, Option.bind_some, hostAt?_eq_toOption, hostPost, perform,
      Network.send]
    cases tree.net.getHost id with
    | error e => exact .inl ⟨_, rfl, rfl⟩
    | ok host =>
      simp only [Except.toOption, Option.bind_some]
      cases host.send dst bytes with
      | error e => exact .inl ⟨_, rfl, rfl⟩
      | ok posted => exact .inr ⟨_, .done, rfl, rfl⟩
  | retransmit id =>
    simp only [post, Operation.sender?, Option.bind_some, hostAt?_eq_toOption, hostPost, perform,
      Network.retransmit]
    cases tree.net.getHost id with
    | error e => exact .inl ⟨_, rfl, rfl⟩
    | ok host =>
      simp only [Except.toOption, Option.bind_some]
      cases host.retransmit with
      | error e => exact .inl ⟨_, rfl, rfl⟩
      | ok posted =>
        refine .inr ⟨_, .asked posted.1.length, rfl, ?_⟩
        dsimp only
        cases ((tree.net.setHost id posted.2).enqueue posted.1).settle with
        | mk result net => cases result <;> rfl

/-- One that ends well is a posting, and a run that ends well. -/
theorem perform_send_ok {tree : FatTree} {operation : Operation} {answer : Answer}
    (sends : operation.sender?.isSome) (done : (tree.perform operation).1 = .ok answer) :
    ∃ net, post tree.net operation = some net ∧ (Network.run net.budget net).1 = .ok () ∧
      (tree.perform operation).2 = { tree with net := (Network.run net.budget net).2 } := by
  rcases perform_send tree operation sends with ⟨_, -, refused⟩ | ⟨net, _, posted, result⟩
  · rw [refused] at done
    cases done
  · refine ⟨net, posted, ?_, congrArg Prod.snd result⟩
    rw [result] at done
    cases ended : (Network.run net.budget net).1 with
    | ok => rfl
    | error e =>
      rw [Network.settle, ended] at done
      cases done

/-- An operation that is refused has handed no packet to an attached host. -/
theorem handed_of_refused {net : Network} {operation : Operation}
    (refused : post net operation = none) : handed net operation = [] := by
  cases operation with
  | send id dst bytes =>
    simp only [post, Operation.sender?, Option.bind_some] at refused
    cases found : net.hostAt? id with
    | none => simp only [handed, found]
    | some host =>
      simp only [found, Option.bind_some, hostPost, Option.map_eq_none_iff] at refused
      cases attached : host.uplink with
      | none => simp only [handed, found, attached, Option.isSome_none, Bool.false_eq_true, if_false]
      | some uplink =>
        cases known : host.resolve? dst with
        | some mac =>
          rw [Host.send_eq_known attached known] at refused
          cases refused
        | none =>
          rw [Host.send_eq_unknown attached known] at refused
          cases refused
  | _ => rfl

/-- Any number of events leads to a state that is reached. -/
theorem Reached.run {k : Nat} {log : List Ipv4Packet} {tree : FatTree} (n : Nat) {net : Network}
    (reached : Reached k log { tree with net }) :
    Reached k log { tree with net := (Network.run n net).2 } := by
  induction n generalizing net with
  | zero =>
    unfold Network.run
    split <;> exact reached
  | succ n ih =>
    unfold Network.run
    split
    · exact reached
    · rename_i e next stepped
      exact reached.event stepped
    · rename_i next stepped
      exact ih (reached.event stepped)

/-- **The state after an operation is the state of a run.** -/
theorem Reached.perform {k : Nat} {log : List Ipv4Packet} {tree : FatTree}
    (reached : Reached k log tree) (operation : Operation)
    (distinct : (tree.perform operation).2.net.DistinctHosts) :
    Reached k (log ++ handed tree.net operation) (tree.perform operation).2 := by
  cases sends : operation.sender?.isSome with
  | true =>
    rcases perform_send tree operation sends with ⟨e, refused, done⟩ | ⟨net, answer, posted, done⟩
    · rw [done, handed_of_refused refused, List.append_nil]
      exact reached
    · rw [done]
      exact (reached.post posted).run _
  | false =>
    cases operation with
    | addHost place amac ip =>
      show Reached k (log ++ []) _
      rw [List.append_nil]
      exact reached.addHost place amac ip distinct
    | setStopAfter stopAfter =>
      show Reached k (log ++ []) _
      rw [List.append_nil]
      exact reached.setStopAfter stopAfter
    | _ => cases sends

end FatTree

end PmacFabric
