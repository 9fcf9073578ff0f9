import PmacFabric.Proofs.FatTree.Budget
import PmacFabric.Proofs.FatTree.Complete

/-!
# Data is delivered exactly once

In a complete fat-tree without a limit on events every operation runs until its queue is empty. It
then leaves the network **settled**: all data for seats has arrived, in the order in which it was
sent, and data for nobody waits at its sender. `Settled.perform` takes this from one operation to the
next. That an operation ends follows from the weight of what it posts, that nothing waits for a seat
from progress, and that every packet has arrived once from the account of its data.
-/

namespace PmacFabric.FatTree

open Network (Ground)

/-! ## Packets by sender -/

/-- A packet carries its data between its own addresses. -/
theorem mem_between {src dst : Ipv4Address} {packets : List Ipv4Packet} {packet : Ipv4Packet}
    (mem : packet ∈ packets) (author : packet.src = src) (bound : packet.dst = dst) :
    packet.data ∈ between src dst packets :=
  List.mem_map.mpr ⟨packet, List.mem_filter.mpr ⟨mem, decide_eq_true ⟨author, bound⟩⟩, rfl⟩

/-- Packets for others carry nothing to an address. -/
theorem between_filter (src dst : Ipv4Address) (packets : List Ipv4Packet) :
    between src dst (packets.filter fun packet => packet.dst = dst) = between src dst packets := by
  rw [between, List.filter_filter]
  refine congrArg (List.map Ipv4Packet.data) (List.filter_congr fun packet _ => ?_)
  by_cases own : packet.dst = dst <;> simp only [own, decide_true, decide_false, Bool.and_true,
    Bool.and_false, and_true, and_false]

/-- At most one packet for an address is known from the data that each sender has sent there. -/
theorem eq_of_between {dst : Ipv4Address} {packets sent : List Ipv4Packet}
    (short : sent.length ≤ 1) (bound : ∀ packet ∈ packets, packet.dst = dst)
    (bound' : ∀ packet ∈ sent, packet.dst = dst)
    (same : ∀ packet ∈ packets ++ sent,
      between packet.src dst packets = between packet.src dst sent) : packets = sent := by
  cases sent with
  | nil =>
    cases packets with
    | nil => rfl
    | cons packet rest =>
      have first : packet ∈ packet :: rest := List.mem_cons_self
      have some_data := mem_between first rfl (bound packet first)
      rw [same packet (List.mem_append_left _ first)] at some_data
      cases some_data
  | cons only more =>
    cases List.length_eq_zero_iff.mp (Nat.le_zero.mp (Nat.le_of_succ_le_succ short))
    have own : only.dst = dst := bound' only List.mem_cons_self
    have data : between only.src dst packets = [only.data] := by
      rw [same only (List.mem_append_right _ List.mem_cons_self), between_singleton,
        if_pos ⟨rfl, own⟩]
    have author : ∀ packet ∈ packets, packet.src = only.src := by
      intro packet mem
      have some_data := mem_between mem rfl (bound packet mem)
      rw [same packet (List.mem_append_left _ mem), between_singleton] at some_data
      split at some_data
      · rename_i shared
        exact shared.1.symm
      · cases some_data
    have all : between only.src dst packets = packets.map (·.data) := by
      rw [between, List.filter_eq_self.mpr fun packet mem =>
        decide_eq_true ⟨author packet mem, bound packet mem⟩]
    rw [data] at all
    cases packets with
    | nil => cases all
    | cons packet rest =>
      obtain ⟨value, none_left⟩ := List.cons.inj all
      cases List.map_eq_nil_iff.mp none_left.symm
      have src := author packet List.mem_cons_self
      have dst := bound packet List.mem_cons_self
      obtain ⟨_, _, _⟩ := packet
      obtain ⟨_, _, _⟩ := only
      cases value
      cases src
      cases dst.trans own.symm
      rfl

/-! ## Settled fat-trees -/

/-- A fat-tree between two operations, when everything that can be delivered has been. -/
structure Settled (k : Nat) (log : List Ipv4Packet) (tree : FatTree) : Prop where
  reached : Reached k log tree
  quiet : tree.net.queue.toList = []
  resolved : ∀ {a b : Seat}, Sits k tree.net.ground a → Sits k tree.net.ground b →
    waiting a tree.net.hostAt? b.ip = []
  delivered : ∀ {b : Seat}, Sits k tree.net.ground b →
    received b tree.net.hostAt? = log.filter fun packet => packet.dst = b.ip

/-- When nothing is under way, all data between two seats has arrived. -/
theorem Ordered.arrived_of_quiet {k : Nat} {log : List Ipv4Packet} {net : Network} {a b : Seat}
    (ordered : Ordered k log net) (ha : Sits k net.ground a) (hb : Sits k net.ground b)
    (quiet : net.queue.toList = []) (resolved : waiting a net.hostAt? b.ip = []) :
    arrived a b net.hostAt? = between a.ip b.ip log := by
  have grounded : flying k a b [] = [] := inOrder_nil (distance a b)
  rw [ordered.account ha hb, FatTree.account, quiet, grounded, resolved, List.append_nil,
    List.append_nil]

/-- A packet that has arrived at a seat is for it, and from a seat. -/
theorem Sane.mem_received {k : Nat} {net : Network} {b : Seat} (sane : Sane k net)
    (hb : Sits k net.ground b) {packet : Ipv4Packet} (mem : packet ∈ received b net.hostAt?) :
    packet.dst = b.ip ∧ ∃ a : Seat, Sits k net.ground a ∧ a.ip = packet.src := by
  obtain ⟨host, here, card⟩ := hb.host
  rw [received, here] at mem
  obtain ⟨own, author⟩ := (sane.hosts here).inbox packet (Array.mem_toList_iff.mp mem)
  exact ⟨own.trans (congrArg Host.Card.ip card), author⟩

/-- Of what has arrived since a state in which all had, only the packet that was sent since can be. -/
theorem received_of_quiet {k : Nat} {log sent more : List Ipv4Packet} {net : Network} {b : Seat}
    (sane : Sane k net) (ordered : Ordered k (log ++ sent) net) (quiet : net.queue.toList = [])
    (resolved : ∀ {a : Seat}, Sits k net.ground a → waiting a net.hostAt? b.ip = [])
    (short : sent.length ≤ 1) (hb : Sits k net.ground b)
    (grown : received b net.hostAt? = (log.filter fun packet => packet.dst = b.ip) ++ more) :
    received b net.hostAt? = (log ++ sent).filter fun packet => packet.dst = b.ip := by
  have few := Nat.le_trans (List.length_filter_le (fun packet => packet.dst = b.ip) sent) short
  have mine : ∀ packet ∈ more, packet ∈ received b net.hostAt? := fun packet mem =>
    grown ▸ List.mem_append_right _ mem
  have bound' : ∀ packet ∈ sent.filter fun packet => packet.dst = b.ip, packet.dst = b.ip :=
    fun packet mem => of_decide_eq_true (List.mem_filter.mp mem).2
  have same : ∀ packet ∈ more ++ sent.filter fun packet => packet.dst = b.ip,
      between packet.src b.ip more =
        between packet.src b.ip (sent.filter fun packet => packet.dst = b.ip) := by
    intro packet mem
    have author : ∃ a : Seat, Sits k net.ground a ∧ a.ip = packet.src := by
      rcases List.mem_append.mp mem with new | handed
      · exact (sane.mem_received hb (mine packet new)).2
      · exact ordered.authors packet (List.mem_append_right _ (List.mem_filter.mp handed).1)
    obtain ⟨a, ha, src⟩ := author
    have all := ordered.arrived_of_quiet ha hb quiet (resolved ha)
    rw [arrived, grown, between_append, between_append, between_filter, src] at all
    rw [between_filter]
    exact List.append_cancel_left all
  rw [grown, List.filter_append, eq_of_between few
    (fun packet mem => (sane.mem_received hb (mine packet mem)).1) bound' same]

/-- A fat-tree that has just been filled is settled. -/
theorem Filled.settled {k : Nat} {config : FabricConfig} {taken : List Place} {tree : FatTree}
    (filled : Filled k config taken tree) : Settled k [] tree := by
  obtain ⟨-, legit, -⟩ := filled.reached.legit
  have ordered := filled.reached.ordered
  have empty : ∀ {a b : Seat}, Sits k tree.net.ground a → Sits k tree.net.ground b →
      arrived a b tree.net.hostAt? = [] ∧ waiting a tree.net.hostAt? b.ip = [] := by
    intro a b ha hb
    have account := (ordered.account ha hb).symm
    obtain ⟨before, last⟩ := List.append_eq_nil_iff.mp account
    exact ⟨(List.append_eq_nil_iff.mp before).1, last⟩
  refine ⟨filled.reached, filled.quiet, fun ha hb => (empty ha hb).2, fun {b} hb => ?_⟩
  apply List.eq_nil_iff_forall_not_mem.mpr
  intro packet mem
  obtain ⟨bound, a, ha, author⟩ := legit.toSane.mem_received hb mem
  have some_data := mem_between mem author.symm bound
  rw [show between a.ip b.ip _ = [] from (empty ha hb).1] at some_data
  cases some_data

/-- A host keeps an entry for an address exactly while data waits for it. -/
theorem SaneHost.pending_eq {k : Nat} {ground : Ground} {directory : Directory} {host : Host}
    (sane : SaneHost k ground directory host) (ip : Ipv4Address) :
    host.pending[ip]? =
      if host.pendingFor ip = [] then none else some (host.pendingFor ip) := by
  rw [Host.pendingFor]
  cases found : host.pending[ip]? with
  | none => rfl
  | some items => exact (if_neg (sane.waiting found).1).symm

/-- In a settled fat-tree only data for nobody waits, and all of it. -/
theorem Settled.pendingFor {k : Nat} {log : List Ipv4Packet} {tree : FatTree} {id : DeviceId}
    {host : Host} (settled : Settled k log tree) (here : tree.net.hostAt? id = some host)
    (ip : Ipv4Address) :
    host.pendingFor ip =
      if (tree.net.hostOf? ip).isSome then [] else between host.ip ip log := by
  obtain ⟨-, legit, -⟩ := settled.reached.legit
  have sane := legit.toSane
  obtain ⟨a, ha, rfl, card⟩ := sane.housed.seated (Network.ground_card here)
  have own : host.ip = a.ip := congrArg Host.Card.ip card
  have held : waiting a tree.net.hostAt? ip = host.pendingFor ip := by
    rw [waiting, here, Option.elim_some]
  rw [← held, own]
  by_cases seated : ∃ b : Seat, Sits k tree.net.ground b ∧ b.ip = ip
  · obtain ⟨b, hb, rfl⟩ := seated
    obtain ⟨other, there, _⟩ := hb.host
    rw [settled.resolved ha hb, sane.hostOf? hb there]
    rfl
  · have nobody : ∀ b : Seat, Sits k tree.net.ground b → b.ip ≠ ip :=
      fun b hb same => seated ⟨b, hb, same⟩
    rw [sane.hostOf?_eq_none nobody, settled.reached.ordered.beyond ha nobody]
    rfl

/-! ## One operation -/

section Perform

variable {k : Nat} {net : Network} {operation : Operation} {id : DeviceId}

/-- A host of a sane network is never refused to send. -/
theorem exists_post (sane : Sane k net) (sender : operation.sender? = some id) {host : Host}
    (here : net.hostAt? id = some host) : ∃ net', post net operation = some net' := by
  obtain ⟨seat, _, rfl, card⟩ := sane.housed.seated (Network.ground_card here)
  have uplink : host.uplink = some (seat.uplink k) := congrArg Host.Card.uplink card
  have posts : ∃ result, hostPost host operation = some result := by
    cases operation with
    | addHost => cases sender
    | setStopAfter => cases sender
    | send _ dst bytes =>
      cases known : host.resolve? dst with
      | some mac => exact ⟨_, by rw [hostPost, Host.send_eq_known uplink known]; rfl⟩
      | none => exact ⟨_, by rw [hostPost, Host.send_eq_unknown uplink known]; rfl⟩
    | retransmit => exact ⟨_, by rw [hostPost, Host.retransmit_eq uplink]; rfl⟩
  obtain ⟨⟨events, host'⟩, done⟩ := posts
  exact ⟨_, by rw [post, sender, Option.bind_some, here, Option.bind_some, done]; rfl⟩

section Posts

variable {seat : Seat} {host : Host} {events : List Event}

/-- Posting adds at most one piece of data to what waits. -/
theorem Posts.length_waiting (posts : Posts k net operation seat host events) (a : Seat)
    (ip : Ipv4Address) :
    (waiting a (withHost net seat.id host) ip).length ≤
      (waiting a net.hostAt? ip).length + 1 := by
  have added : ∀ {items : List Bytes} {cond : Prop} [Decidable cond] (bytes : Bytes),
      (items ++ if cond then [bytes] else []).length ≤ items.length + 1 := by
    intro items cond _ bytes
    rw [List.length_append]
    split
    · exact Nat.le_refl _
    · exact Nat.le_succ _
  cases posts with
  | @data seat dest host bytes _ _ _ here =>
    rw [waiting_withHost here (host.countSent 1) rfl]
    exact Nat.le_succ _
  | @first seat host dst bytes _ here _ empty =>
    rw [waiting_added here _ (by rw [empty]; rfl)]
    exact added bytes
  | @more seat host dst bytes _ here =>
    rw [waiting_added here _ rfl]
    exact added bytes
  | @again seat host _ here =>
    rw [waiting_withHost here (host.countAsked _) rfl]
    exact Nat.le_succ _

/-- Posting delivers nothing. -/
theorem Posts.delivers_nothing (posts : Posts k net operation seat host events) (b : Seat) :
    received b (withHost net seat.id host) = received b net.hostAt? := by
  cases posts with
  | @data seat dest host bytes _ _ _ here => exact received_withHost here (host.countSent 1) rfl
  | @first seat host dst bytes _ here =>
    exact received_withHost here (Host.countAsked { host with pending := _ } 1) rfl
  | @more seat host dst bytes _ here =>
    exact received_withHost here { host with pending := host.pending.insert dst _ } rfl
  | @again seat host _ here => exact received_withHost here (host.countAsked _) rfl

/-- A host that sends is handed one packet, and none if it asks again. -/
theorem Posts.length_handed_eq (posts : Posts k net operation seat host events) :
    (handed net operation).length = if operation.isSend then 1 else 0 := by
  cases posts with
  | data hs => exact congrArg List.length (handed_send hs _ _)
  | first hs => exact congrArg List.length (handed_send hs _ _)
  | more hs => exact congrArg List.length (handed_send hs _ _)
  | again => rfl

/-- What a host posts hands it at most one packet. -/
theorem Posts.length_handed (posts : Posts k net operation seat host events) :
    (handed net operation).length ≤ 1 := by
  rw [posts.length_handed_eq]
  split <;> decide

end Posts

end Perform

section Perform

variable {k : Nat} {log : List Ipv4Packet} {tree : FatTree} {operation : Operation}

/-- What single events of an operation preserve. -/
structure Kept (k : Nat) (start net : Network) : Prop where
  progressing : Progressing k net
  config : net.config = start.config
  ground : net.ground = start.ground
  grown : ∀ b, ∃ more, received b net.hostAt? = received b start.hostAt? ++ more

/-- **A single event preserves what `Kept` says.** -/
theorem Kept.step {start now next : Network} {event : Event} {rest : EventQueue}
    {who : Option Seat} {hosts : DeviceId → Option Host} {raised : List Event}
    (kept : Kept k start now) (sane : Sane k now)
    (steps : Steps k now next event rest who hosts raised) : Kept k start next := by
  refine ⟨kept.progressing.step sane steps, steps.changed.config.trans kept.config,
    steps.changed.ground.trans kept.ground, ?_⟩
  intro b
  obtain ⟨more, old⟩ := kept.grown b
  obtain ⟨last, new⟩ := steps.reaction.received_append b
  have added : received b now.hostAt? ++ last = received b start.hostAt? ++ (more ++ last) := by
    rw [old, List.append_assoc]
  refine ⟨more ++ last, ?_⟩
  rw [funext steps.changed.hosts, ← added]
  exact new

/-- When a host posts in a settled fat-tree, at most its own data waits for another seat. -/
theorem Settled.brief {net : Network} (settled : Settled k log tree)
    (posted : post tree.net operation = some net) : Brief k net := by
  obtain ⟨-, legit, -⟩ := settled.reached.legit
  obtain ⟨seat, host, events, posts, rfl⟩ := post_cases legit.toSane posted
  intro a b ha hb
  rw [posts.changed.ground] at ha hb
  have few := posts.length_waiting a b.ip
  rwa [settled.resolved ha hb, ← show _ = withHost _ _ _ from funext posts.changed.hosts] at few

/-- **If the run of what a host posts ends well, it leaves the fat-tree settled.** -/
theorem Settled.of_run_ok {net : Network} {n : Nat} (settled : Settled k log tree)
    (posted : post tree.net operation = some net) (done : (Network.run n net).1 = .ok ()) :
    Settled k (log ++ handed tree.net operation) { tree with net := (Network.run n net).2 } ∧
      (Network.run n net).2.config = tree.net.config ∧
      (Network.run n net).2.ground = tree.net.ground := by
  obtain ⟨-, legit, -⟩ := settled.reached.legit
  obtain ⟨seat, host, events, posts, shape⟩ := post_cases legit.toSane posted
  have changed := posts.changed
  rw [← shape] at changed
  have there : net.hostAt? = withHost tree.net seat.id host := funext changed.hosts
  have progressing : Progressing k net := by
    rw [shape]
    refine Progressing.post (fun a b ha hb waits => ?_) posts
    exact absurd (settled.resolved ha hb) waits
  have start : Kept k net net := ⟨progressing, rfl, rfl, fun b => ⟨[], (List.append_nil _).symm⟩⟩
  obtain ⟨after, kept, ends⟩ := (shape ▸ posts.legit legit : Legit k net).run
    (fun before kept steps _ => Kept.step kept before.toSane steps) n start
  have quiet : (Network.run n net).2.queue.toList = [] := by
    rcases ends with ⟨-, empty⟩ | ⟨stopped, -⟩
    · exact empty
    · cases done.symm.trans stopped
  have reached := (settled.reached.post posted).run n
  have ground := kept.ground.trans changed.ground
  have resolved : ∀ {a b : Seat}, Sits k (Network.run n net).2.ground a →
      Sits k (Network.run n net).2.ground b →
      waiting a (Network.run n net).2.hostAt? b.ip = [] :=
    fun ha hb => kept.progressing.waiting_eq_nil quiet ha hb
  refine ⟨⟨reached, quiet, resolved, fun {b} hb => ?_⟩, kept.config.trans changed.config, ground⟩
  obtain ⟨more, arrivals⟩ := kept.grown b
  rw [there, posts.delivers_nothing, settled.delivered (ground ▸ hb)] at arrivals
  exact received_of_quiet after.toSane reached.ordered quiet (fun ha => resolved ha hb)
    posts.length_handed hb arrivals

/-- An operation of a host that ends well leaves the fat-tree settled. -/
theorem Settled.of_perform_ok {answer : Answer} (settled : Settled k log tree)
    (sends : operation.sender?.isSome) (done : (tree.perform operation).1 = .ok answer) :
    Settled k (log ++ handed tree.net operation) (tree.perform operation).2 ∧
      (tree.perform operation).2.net.config = tree.net.config ∧
      (tree.perform operation).2.net.ground = tree.net.ground := by
  obtain ⟨net, posted, ended, result⟩ := perform_send_ok sends done
  rw [result]
  exact settled.of_run_ok posted ended

/-- **What a host posts is processed within the horizon.** -/
theorem Settled.run_ok {net : Network} {n : Nat} (settled : Settled k log tree)
    (posted : post tree.net operation = some net) (far : UInt64.size ≤ n) :
    (Network.run n net).1 = .ok () := by
  obtain ⟨-, legit, -⟩ := settled.reached.legit
  have brief := settled.brief posted
  obtain ⟨seat, host, events, posts, rfl⟩ := post_cases legit.toSane posted
  refine @Legit.run_ok k n _ (Brief k) (weight k) ?_ (posts.legit legit) brief ?_
  · intro now next event rest who hosts raised before holds steps
    exact ⟨holds.step steps, steps.reaction.weight_lt (before.toSane.took rest) holds⟩
  · rw [posts.changed.queue, settled.quiet, List.nil_append]
    exact Nat.lt_of_lt_of_le (posts.weight_lt (le_of_accepts legit.fabric.accepted)) far

/-- **An operation of a host ends well and leaves the fat-tree settled.** -/
theorem Settled.perform {id : DeviceId} {host : Host} (settled : Settled k log tree)
    (unlimited : tree.net.config.stopAfter = none)
    (far : UInt64.size ≤ tree.net.config.horizon) (sender : operation.sender? = some id)
    (here : tree.net.hostAt? id = some host) :
    ∃ answer, (tree.perform operation).1 = .ok answer ∧
      Settled k (log ++ handed tree.net operation) (tree.perform operation).2 ∧
      (tree.perform operation).2.net.config = tree.net.config ∧
      (tree.perform operation).2.net.ground = tree.net.ground := by
  obtain ⟨-, legit, -⟩ := settled.reached.legit
  have sane := legit.toSane
  obtain ⟨net, posted⟩ := exists_post sane sender here
  have budget : net.budget = tree.net.config.horizon := by
    obtain ⟨seat, host, events, posts, rfl⟩ := post_cases sane posted
    have config := posts.changed.config
    rw [Network.budget, config, unlimited]
    rfl
  have done := settled.run_ok posted (budget.symm ▸ far : _ ≤ net.budget)
  have sends : operation.sender?.isSome := sender ▸ rfl
  rcases perform_send tree operation sends with ⟨_, refused, _⟩ | ⟨_, answer, same, result⟩
  · cases refused.symm.trans posted
  · cases posted.symm.trans same
    have ended : (tree.perform operation).1 = .ok answer := by
      rw [result, Network.settle, done]
      rfl
    exact ⟨answer, ended, settled.of_perform_ok sends ended⟩

/-- **So does every sequence of operations of hosts.** -/
theorem Settled.performAll {operations : List Operation} (settled : Settled k log tree)
    (unlimited : tree.net.config.stopAfter = none)
    (far : UInt64.size ≤ tree.net.config.horizon)
    (senders : ∀ operation ∈ operations, ∃ id host, operation.sender? = some id ∧
      tree.net.hostAt? id = some host) :
    (∀ result ∈ (tree.performAll operations).1, ∃ answer, result = .ok answer) ∧
      Settled k (log ++ handedAll tree operations) (tree.performAll operations).2 := by
  induction operations generalizing log tree with
  | nil =>
    rw [handedAll, List.append_nil]
    exact ⟨List.forall_mem_nil _, settled⟩
  | cons operation rest ih =>
    obtain ⟨id, host, sender, here⟩ := senders operation List.mem_cons_self
    obtain ⟨answer, done, next, config, ground⟩ := settled.perform unlimited far sender here
    have still : ∀ later ∈ rest, ∃ id host, later.sender? = some id ∧
        (tree.perform operation).2.net.hostAt? id = some host := by
      intro later mem
      obtain ⟨id, host, sender, here⟩ := senders later (List.mem_cons_of_mem operation mem)
      obtain ⟨host', here', _⟩ := Network.HostsWithin.of_ground ground id host here
      exact ⟨id, host', sender, here'⟩
    obtain ⟨results, last⟩ := ih next (config ▸ unlimited) (config ▸ far) still
    rw [handedAll, ← List.append_assoc]
    refine ⟨?_, last⟩
    intro result mem
    rcases List.mem_cons.mp mem with rfl | later
    · exact ⟨answer, done⟩
    · exact results result later

end Perform

/-- **Data is delivered exactly once.** A complete fat-tree can be built for every accepted
parameter. Whatever its hosts send and ask again for, and whatever ports are drawn, without a limit on
events every operation ends well. Afterwards every host has exactly the packets that were sent to it,
each once and in the order in which they were sent; and what waits at a host is exactly the data that
it has sent to addresses that nobody has. -/
theorem data_delivered_exactly_once {k : Nat} (accepted : accepts k = true) (seed : Option Nat)
    (streams : DeviceId → Choice.Stream) :
    ∃ tree, build k { stopAfter := none, seed } streams = .ok tree ∧
      ∀ operations : List Operation,
        (∀ operation ∈ operations, ∃ id host, operation.sender? = some id ∧
          tree.net.getHost id = .ok host) →
        (∀ result ∈ (tree.performAll operations).1, ∃ answer, result = .ok answer) ∧
        ∀ id host, (tree.performAll operations).2.net.getHost id = .ok host →
          (host.inbox.toList =
            (handedAll tree operations).filter fun packet => packet.dst = host.ip) ∧
          ∀ ip, host.pending[ip]? =
            if ((tree.performAll operations).2.net.hostOf? ip).isSome ∨
                between host.ip ip (handedAll tree operations) = [] then none
            else some (between host.ip ip (handedAll tree operations)) := by
  obtain ⟨tree, built, filled⟩ := build_ok accepted { stopAfter := none, seed } streams
  refine ⟨tree, built, ?_⟩
  intro operations senders
  have unlimited : tree.net.config.stopAfter = none := by rw [filled.config]
  have far : UInt64.size ≤ tree.net.config.horizon :=
    Nat.le_of_eq (congrArg FabricConfig.horizon filled.config).symm
  have hosts : ∀ operation ∈ operations, ∃ id host, operation.sender? = some id ∧
      tree.net.hostAt? id = some host := by
    intro operation mem
    obtain ⟨id, host, sender, found⟩ := senders operation mem
    exact ⟨id, host, sender, Network.getHost_eq_ok_iff.mp found⟩
  obtain ⟨results, settled⟩ := filled.settled.performAll unlimited far hosts
  rw [List.nil_append] at settled
  obtain ⟨-, legit, -⟩ := settled.reached.legit
  refine ⟨results, ?_⟩
  intro id host found
  have here := Network.getHost_eq_ok_iff.mp found
  constructor
  · obtain ⟨seat, sits, rfl, card⟩ := legit.housed.seated (Network.ground_card here)
    have own : host.ip = seat.ip := congrArg Host.Card.ip card
    have arrivals := settled.delivered sits
    rw [received, here, Option.elim_some] at arrivals
    rw [own]
    exact arrivals
  · intro ip
    rw [(legit.hosts here).pending_eq, settled.pendingFor here]
    by_cases somebody : ((tree.performAll operations).2.net.hostOf? ip).isSome = true
    · rw [if_pos somebody, if_pos rfl, if_pos (.inl somebody)]
    · rw [if_neg somebody]
      by_cases silent : between host.ip ip (handedAll tree operations) = []
      · rw [if_pos silent, if_pos (.inr silent)]
      · rw [if_neg silent, if_neg fun either => either.elim somebody silent]

/-- The smallest complete fat-tree, without a limit on events; all its choices of ports are 0. -/
def completed : FatTree :=
  ((build 2 { stopAfter := none } fun _ _ => 0).toOption).getD smallest

/-- Two letters to the other host, and one to nobody in between. -/
def letters : List Operation :=
  [.send 5 ⟨10, 1, 0, 2⟩ [7], .send 6 ⟨10, 9, 9, 9⟩ [8], .retransmit 6, .send 5 ⟨10, 1, 0, 2⟩ [9]]

/-- The two letters arrive in order, and the one to nobody waits. -/
theorem letters_delivered_once :
    ∃ host, (completed.performAll letters).2.net.getHost 6 = .ok host ∧
      host.inbox.toList =
        [⟨⟨10, 0, 0, 2⟩, ⟨10, 1, 0, 2⟩, [7]⟩, ⟨⟨10, 0, 0, 2⟩, ⟨10, 1, 0, 2⟩, [9]⟩] ∧
      host.pending[(⟨10, 9, 9, 9⟩ : Ipv4Address)]? = some [[8]] := by
  obtain ⟨tree, built, law⟩ := data_delivered_exactly_once (k := 2) (by decide) none fun _ _ => 0
  have same : tree = completed := by
    rw [completed, built]
    rfl
  subst same
  have hosts : ∀ operation ∈ letters,
      (operation.sender?.bind completed.net.hostAt?).isSome = true := by decide +kernel
  have sent : handedAll completed letters =
      [⟨⟨10, 0, 0, 2⟩, ⟨10, 1, 0, 2⟩, [7]⟩, ⟨⟨10, 1, 0, 2⟩, ⟨10, 9, 9, 9⟩, [8]⟩,
        ⟨⟨10, 0, 0, 2⟩, ⟨10, 1, 0, 2⟩, [9]⟩] := by decide +kernel
  have nobody : (completed.performAll letters).2.net.hostOf? ⟨10, 9, 9, 9⟩ = none := by
    rw [← Option.isNone_iff_eq_none]
    decide +kernel
  have six : ((completed.performAll letters).2.net.hostAt? 6).map (·.ip) = some ⟨10, 1, 0, 2⟩ := by
    decide +kernel
  obtain ⟨host, here, ip⟩ := Option.map_eq_some_iff.mp six
  have found := Network.getHost_eq_ok_iff.mpr here
  obtain ⟨-, outcome⟩ := law letters fun operation mem => by
    obtain ⟨host, chosen⟩ := Option.isSome_iff_exists.mp (hosts operation mem)
    obtain ⟨id, sender, there⟩ := Option.bind_eq_some_iff.mp chosen
    exact ⟨id, host, sender, Network.getHost_eq_ok_iff.mpr there⟩
  obtain ⟨arrived, waits⟩ := outcome 6 host found
  have waits := waits ⟨10, 9, 9, 9⟩
  rw [sent, ip] at arrived
  rw [sent, ip, nobody] at waits
  exact ⟨host, found, arrived, waits⟩

end PmacFabric.FatTree
