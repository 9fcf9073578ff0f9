import PmacFabric.Proofs.FatTree.Books
import PmacFabric.Proofs.FatTree.Strays
import PmacFabric.Proofs.Network.Backlog

/-!
# The hosts of a fat-tree

A fat-tree lists the hosts that were added at its places, and its callers may do to the network what
they like. `Tenanted` says what that leaves alone: each host in the table is attached to the port of its
place. So **`Tenanted.nodup_hosts`**: no host is listed twice.
-/

namespace PmacFabric.FatTree

open Network (Ground)

variable {tree : FatTree}

/-! ## What adding a host does to the table -/

/-- Adding a host leaves the table of hosts, or gives a place a new seat. -/
theorem Exposed.addHost_table (exposed : tree.Exposed) (place : Place) (amac : MacAddress)
    (ip : Ipv4Address) :
    (tree.addHost place amac ip).2.hostSlots = tree.hostSlots ∨
      ∃ slot net, place.slot? tree.k = some slot ∧
        (tree.addHost place amac ip).2 =
          { tree with net, hostSlots := tree.hostSlots.insert slot tree.net.devices.size } ∧
        Joins tree.k tree.net net ⟨place, tree.net.devices.size, amac, ip⟩ := by
  cases free : refusal? tree place with
  | some e =>
    rw [addHost_of_refused free]
    exact .inl rfl
  | none =>
    obtain ⟨slot, hslot, unused⟩ := free_of_refusal? free
    obtain ⟨within, -⟩ := slot?_eq_some_iff.mp hslot
    cases leads : tree.net.ground.peer? (place.socket tree.k) with
    | some peer =>
      obtain ⟨e, after, done, strands⟩ := Strands.of_taken free leads amac ip
      rw [done, strands.result]
      exact .inl rfl
    | none =>
      obtain ⟨net, done, joins⟩ :=
        addHost_of_unlinked hslot unused (exposed.hasPort within) leads amac ip
      rw [done]
      exact .inr ⟨slot, net, hslot, rfl, joins⟩

/-! ## Entries of the table -/

/-- Each host in the table is attached to the port of its place. -/
def Tenanted (tree : FatTree) : Prop :=
  ∀ (slot : Nat) (id : DeviceId), tree.hostSlots[slot]? = some id →
    ∃ (place : Place) (card : Host.Card), place.slot? tree.k = some slot ∧
      tree.net.ground.card id = some card ∧ card.uplink = some (place.socket tree.k)

/-- Growing takes no host from its place. -/
theorem Tenanted.grows (tenanted : tree.Tenanted) {later : FatTree} (same : later.k = tree.k)
    (kept : later.hostSlots = tree.hostSlots)
    (grows : tree.net.ground.Grows later.net.ground) : later.Tenanted := by
  intro slot id entry
  rw [kept] at entry
  obtain ⟨place, card, hslot, found, attached⟩ := tenanted slot id entry
  rw [same]
  exact ⟨place, card, hslot, grows.card found (by rw [attached]; rfl), attached⟩

/-- A host that is added gets a place of its own, and others stay at theirs. -/
theorem Tenanted.addHost (tenanted : tree.Tenanted) (exposed : tree.Exposed) (place : Place)
    (amac : MacAddress) (ip : Ipv4Address) : (tree.addHost place amac ip).2.Tenanted := by
  obtain ⟨same, -⟩ := addHost_net tree place amac ip
  have grows : tree.net.ground.Grows (tree.addHost place amac ip).2.net.ground :=
    addHost_keeps (P := fun net => tree.net.ground.Grows net.ground)
      (fun before move => before.trans move.grows) (.refl _) place amac ip
  rcases exposed.addHost_table place amac ip with kept | ⟨slot, net, hslot, done, joins⟩
  · exact tenanted.grows same kept grows
  · rw [done] at grows ⊢
    intro slot' id entry
    have entry : (tree.hostSlots.insert slot tree.net.devices.size)[slot']? = some id := entry
    rw [Std.TreeMap.getElem?_insert] at entry
    split at entry
    · next here =>
      cases entry
      rw [← Std.compare_eq_iff_eq.mp here]
      exact ⟨place, _, hslot, (joins.card _).trans (if_pos rfl), rfl⟩
    · obtain ⟨old, card, hslot', found, attached⟩ := tenanted slot' id entry
      exact ⟨old, card, hslot', grows.card found (by rw [attached]; rfl), attached⟩

/-- The table of hosts is right whatever callers do with the network. -/
theorem Exposed.tenanted (exposed : tree.Exposed) : tree.Tenanted := by
  induction exposed with
  | @new k config streams tree made =>
    obtain ⟨net, done, -⟩ := new_ok (accepts_of_new_ok made) config streams
    cases made.symm.trans done
    intro slot id entry
    cases Std.TreeMap.getElem?_emptyc.symm.trans entry
  | addHost place amac ip exposed ih => exact ih.addHost exposed place amac ip
  | build _ move ih => exact ih.grows rfl rfl move.grows
  | work _ move ih => exact ih.grows rfl rfl (move.ground ▸ .refl _)

/-- A host has one place. -/
theorem Tenanted.eq_of_entries (tenanted : tree.Tenanted) {slot slot' : Nat} {id : DeviceId}
    (entry : tree.hostSlots[slot]? = some id) (entry' : tree.hostSlots[slot']? = some id) :
    slot = slot' := by
  obtain ⟨place, card, hslot, found, attached⟩ := tenanted slot id entry
  obtain ⟨place', card', hslot', found', attached'⟩ := tenanted slot' id entry'
  cases found.symm.trans found'
  have here : place = place' :=
    Place.socket_inj (slot?_eq_some_iff.mp hslot).1 (slot?_eq_some_iff.mp hslot').1
      (Option.some.inj (attached.symm.trans attached'))
  rw [← here] at hslot'
  exact Option.some.inj (hslot.symm.trans hslot')

/-! ## The list of hosts -/

/-- A host is looked up by the slot of its place. -/
theorem host_eq_ok_iff {place : Place} {id : DeviceId} :
    tree.host place = .ok id ↔
      ∃ slot, place.slot? tree.k = some slot ∧ tree.hostSlots[slot]? = some id := by
  rw [← Option.bind_eq_some_iff, host]
  change _ ↔ tree.hostAt? place = some id
  cases tree.hostAt? place with
  | some other => simp only [Except.ok.injEq, Option.some.injEq]
  | none => simp only [reduceCtorEq]

/-- Just the hosts that are at a place are listed. -/
theorem Tenanted.mem_hosts_iff (tenanted : tree.Tenanted) {id : DeviceId} :
    id ∈ tree.hosts ↔ ∃ place, tree.host place = .ok id := by
  rw [hosts, values_eq, List.mem_map]
  constructor
  · rintro ⟨⟨slot, id⟩, listed, rfl⟩
    rw [Std.TreeMap.mem_toList_iff_getElem?_eq_some] at listed
    obtain ⟨place, card, hslot, -⟩ := tenanted slot id listed
    exact ⟨place, host_eq_ok_iff.mpr ⟨slot, hslot, listed⟩⟩
  · rintro ⟨place, found⟩
    obtain ⟨slot, -, entry⟩ := host_eq_ok_iff.mp found
    exact ⟨(slot, id), Std.TreeMap.mem_toList_iff_getElem?_eq_some.mpr entry, rfl⟩

/-- **No host is listed twice.** -/
theorem Tenanted.nodup_hosts (tenanted : tree.Tenanted) : tree.hosts.Nodup := by
  rw [hosts, values_eq]
  refine List.pairwise_map.mpr (Std.TreeMap.distinct_keys_toList.imp_of_mem ?_)
  rintro ⟨slot, id⟩ ⟨slot', id'⟩ mem mem' apart same
  have same : id = id' := same
  subst same
  rw [Std.TreeMap.mem_toList_iff_getElem?_eq_some] at mem mem'
  exact apart (Std.compare_eq_iff_eq.mpr (tenanted.eq_of_entries mem mem'))

end PmacFabric.FatTree
