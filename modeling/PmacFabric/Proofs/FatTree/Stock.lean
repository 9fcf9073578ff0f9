import Mathlib.Data.List.Count
import PmacFabric.Proofs.FatTree.Once
import PmacFabric.Proofs.Network.Backlog

/-!
# Where all packets are

The **stock** of a network are the packets in the inboxes of its hosts and those that wait there. When
no event waits, these are the packets that hosts have been asked to send, no more and no fewer
(`Ordered.perm_stock`). The proof counts any one packet: its two addresses have an account, the inbox
of the one and the host with the other make it up, and nobody else has the packet at all.
-/

namespace PmacFabric

/-- Payloads between two addresses are counted as the packets that carry them are. -/
theorem count_between (src dst : Ipv4Address) (bytes : Bytes) (packets : List Ipv4Packet) :
    (between src dst packets).count bytes = packets.count ⟨src, dst, bytes⟩ := by
  induction packets with
  | nil => rfl
  | cons packet rest ih =>
    obtain ⟨src', dst', bytes'⟩ := packet
    rw [between_cons, List.count_append, ih, between_singleton, List.count_cons, Nat.add_comm]
    congr 1
    by_cases own : src' = src ∧ dst' = dst
    · obtain ⟨rfl, rfl⟩ := own
      by_cases same : bytes' = bytes
      · subst same
        simp
      · simp [same]
    · have other : ¬ (⟨src', dst', bytes'⟩ : Ipv4Packet) = ⟨src, dst, bytes⟩ := by
        intro same
        cases same
        exact own ⟨rfl, rfl⟩
      simp [own, other]

namespace Host

/-- The packets that a host has still to send. -/
def outstanding (host : Host) : List Ipv4Packet :=
  host.pending.toList.flatMap fun entry => entry.2.map fun bytes => ⟨host.ip, entry.1, bytes⟩

/-- A host has one outstanding packet for each datum that waits. -/
theorem length_outstanding (host : Host) : host.outstanding.length = host.totalPending := by
  rw [outstanding, length_flatMap, totalPending_eq]
  exact totalOf_congr fun entry _ => List.length_map _

/-- Outstanding packets are from the host that has them. -/
theorem src_of_outstanding {host : Host} {packet : Ipv4Packet} (mem : packet ∈ host.outstanding) :
    packet.src = host.ip := by
  obtain ⟨entry, -, mem⟩ := List.mem_flatMap.mp mem
  obtain ⟨bytes, -, rfl⟩ := List.mem_map.mp mem
  rfl

/-- What is outstanding is what waits, address by address. -/
theorem count_outstanding (host : Host) (dst : Ipv4Address) (bytes : Bytes) :
    host.outstanding.count ⟨host.ip, dst, bytes⟩ = (host.pendingFor dst).count bytes := by
  have injective : Function.Injective fun bytes => (⟨host.ip, dst, bytes⟩ : Ipv4Packet) :=
    fun _ _ same => congrArg Ipv4Packet.data same
  have others : ∀ entry ∈ (host.pending.erase dst).toList,
      (entry.2.map fun bytes => (⟨host.ip, entry.1, bytes⟩ : Ipv4Packet)).count
        ⟨host.ip, dst, bytes⟩ = 0 := by
    rintro ⟨key, items⟩ mem
    rw [Std.TreeMap.mem_toList_iff_getElem?_eq_some, Std.TreeMap.getElem?_erase] at mem
    refine List.count_eq_zero.mpr fun listed => ?_
    obtain ⟨item, -, same⟩ := List.mem_map.mp listed
    cases same
    rw [if_pos Std.ReflCmp.compare_self] at mem
    cases mem
  rw [outstanding, count_flatMap, totalOf_perm _ (perm_entries_erase host.pending dst),
    totalOf_append, totalOf_eq_zero others, pendingFor]
  cases host.pending[dst]? with
  | none => rfl
  | some items => exact List.count_map_of_injective _ _ injective bytes

end Host

namespace Network

/-- The packets at hosts: those that have arrived, and those that wait. -/
def stock (net : Network) : List Ipv4Packet :=
  (net.hosts.flatMap fun host => host.inbox.toList) ++ net.hosts.flatMap Host.outstanding

/-- The stock is what has arrived and what waits. -/
theorem length_stock (net : Network) :
    net.stock.length = totalOf (fun host => host.inbox.size) net.hosts + net.backlog := by
  rw [stock, List.length_append, length_flatMap, length_flatMap, backlog]
  exact congrArg _ (totalOf_congr fun host _ => host.length_outstanding)

end Network

namespace FatTree

section Stock

variable {k : Nat} {net : Network}

/-- No host is listed twice in a sane fabric. -/
theorem Sane.nodup_hosts (sane : Sane k net) : net.hosts.Nodup :=
  sane.housed.distinctHosts.imp fun distinct same => distinct.1 (congrArg Host.ip same)

/-- A host is known by its address. -/
theorem Sane.eq_of_mem_hosts (sane : Sane k net) {host other : Host} (mem : host ∈ net.hosts)
    (mem' : other ∈ net.hosts) (same : host.ip = other.ip) : host = other := by
  obtain ⟨id, here⟩ := Network.mem_hosts_iff.mp mem
  obtain ⟨id', here'⟩ := Network.mem_hosts_iff.mp mem'
  cases sane.housed.distinctHosts.eq_of_shared here here' (.inl same)
  exact Option.some.inj (here.symm.trans here')

/-- What has arrived at a host is for it, and from a seat. -/
theorem Sane.mem_inbox (sane : Sane k net) {host : Host} {packet : Ipv4Packet}
    (mem : host ∈ net.hosts) (arrived : packet ∈ host.inbox.toList) :
    packet.dst = host.ip ∧ ∃ a : Seat, Sits k net.ground a ∧ a.ip = packet.src := by
  obtain ⟨id, here⟩ := Network.mem_hosts_iff.mp mem
  exact (sane.hosts here).inbox packet (Array.mem_toList_iff.mp arrived)

/-- Every packet of the stock was written by a host of the fabric. -/
theorem Sane.author_of_stock (sane : Sane k net) {packet : Ipv4Packet} (mem : packet ∈ net.stock) :
    ∃ a : Seat, Sits k net.ground a ∧ a.ip = packet.src := by
  rcases List.mem_append.mp mem with arrived | waits
  · obtain ⟨host, mem, arrived⟩ := List.mem_flatMap.mp arrived
    exact (sane.mem_inbox mem arrived).2
  · obtain ⟨host, mem, waits⟩ := List.mem_flatMap.mp waits
    obtain ⟨id, here⟩ := Network.mem_hosts_iff.mp mem
    obtain ⟨a, ha, -, card⟩ := sane.housed.seated (Network.ground_card here)
    have own : host.ip = a.ip := congrArg Host.Card.ip card
    exact ⟨a, ha, own.symm.trans (Host.src_of_outstanding waits).symm⟩

/-- All inboxes together have a packet as often as the host that it is for. -/
theorem Sane.count_inboxes (sane : Sane k net) (src dst : Ipv4Address) (bytes : Bytes) :
    totalOf (fun host => host.inbox.toList.count ⟨src, dst, bytes⟩) net.hosts =
      (net.delivered src dst).count bytes := by
  have foreign : ∀ host ∈ net.hosts, host.ip ≠ dst →
      host.inbox.toList.count ⟨src, dst, bytes⟩ = 0 := by
    intro host mem other
    exact List.count_eq_zero.mpr fun arrived => other (sane.mem_inbox mem arrived).1.symm
  rw [Network.delivered]
  cases found : net.hostOf? dst with
  | none =>
    refine totalOf_eq_zero fun host mem => foreign host mem fun same => ?_
    exact List.find?_eq_none.mp found host mem (decide_eq_true same)
  | some host =>
    have search : net.hosts.find? (fun host => host.ip = dst) = some host := found
    have mem := List.mem_of_find?_eq_some search
    have shown := List.find?_some search
    have own : host.ip = dst := of_decide_eq_true shown
    rw [Option.elim_some, count_between]
    refine totalOf_eq_of_alone sane.nodup_hosts mem fun other mem' differ => ?_
    exact foreign other mem' fun same =>
      differ (sane.eq_of_mem_hosts mem' mem (same.trans own.symm))

/-- All hosts together have a packet to send as often as the host that it is from. -/
theorem Sane.count_outstanding (sane : Sane k net) {a : Seat} (ha : Sits k net.ground a)
    (dst : Ipv4Address) (bytes : Bytes) :
    totalOf (fun host => host.outstanding.count ⟨a.ip, dst, bytes⟩) net.hosts =
      (waiting a net.hostAt? dst).count bytes := by
  obtain ⟨host, here, card⟩ := ha.host
  have own : host.ip = a.ip := congrArg Host.Card.ip card
  have mem := Network.mem_hosts_iff.mpr ⟨_, here⟩
  have foreign : ∀ other ∈ net.hosts, other ≠ host →
      other.outstanding.count ⟨a.ip, dst, bytes⟩ = 0 := by
    intro other mem' differ
    refine List.count_eq_zero.mpr fun waits => differ (sane.eq_of_mem_hosts mem' mem ?_)
    exact (Host.src_of_outstanding waits).symm.trans own.symm
  rw [totalOf_eq_of_alone sane.nodup_hosts mem foreign, waiting, here, Option.elim_some, ← own]
  exact host.count_outstanding dst bytes

variable {log : List Ipv4Packet}

/-- When no event waits, what a seat has been asked to send has arrived or waits. -/
theorem Ordered.between_of_quiet (ordered : Ordered k log net) (sane : Sane k net)
    (quiet : net.queue.toList = []) {a : Seat} (ha : Sits k net.ground a) (dst : Ipv4Address) :
    between a.ip dst log = net.delivered a.ip dst ++ waiting a net.hostAt? dst := by
  by_cases seated : ∃ b : Seat, Sits k net.ground b ∧ b.ip = dst
  · obtain ⟨b, hb, rfl⟩ := seated
    obtain ⟨host, there, -⟩ := hb.host
    have grounded : flying k a b [] = [] := inOrder_nil (distance a b)
    rw [ordered.account ha hb, FatTree.account, quiet, grounded, List.append_nil, arrived, received,
      there, Network.delivered, sane.hostOf? hb there]
    rfl
  · have nobody : ∀ b : Seat, Sits k net.ground b → b.ip ≠ dst :=
      fun b hb same => seated ⟨b, hb, same⟩
    rw [ordered.beyond ha nobody, Network.delivered, sane.hostOf?_eq_none nobody]
    rfl

/-- **When no event waits, every packet has arrived once or waits once.** -/
theorem Ordered.perm_stock (ordered : Ordered k log net) (sane : Sane k net)
    (quiet : net.queue.toList = []) : log.Perm net.stock := by
  refine List.perm_iff_count.mpr ?_
  rintro ⟨src, dst, bytes⟩
  by_cases seated : ∃ a : Seat, Sits k net.ground a ∧ a.ip = src
  · obtain ⟨a, ha, rfl⟩ := seated
    rw [Network.stock, List.count_append, count_flatMap, count_flatMap, sane.count_inboxes,
      sane.count_outstanding ha, ← List.count_append, ← ordered.between_of_quiet sane quiet ha,
      count_between]
  · -- A packet from nobody has not been sent, and no host has it.
    rw [List.count_eq_zero.mpr fun sent => seated (ordered.authors _ sent),
      List.count_eq_zero.mpr fun stored => seated (sane.author_of_stock stored)]

/-- When no event waits, as many packets have arrived or wait as hosts have been asked to send. -/
theorem Ordered.length_log (ordered : Ordered k log net) (sane : Sane k net)
    (quiet : net.queue.toList = []) :
    log.length = totalOf (fun host => host.inbox.size) net.hosts + net.backlog :=
  (ordered.perm_stock sane quiet).length_eq.trans net.length_stock

end Stock

end FatTree

end PmacFabric
