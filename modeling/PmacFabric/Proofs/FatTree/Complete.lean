import PmacFabric.Proofs.FatTree.Order

/-!
# Complete fat-trees

A complete fat-tree is built by adding hosts at all places in order. `Filled` describes the fat-tree
after some of them: it is the state of a run, its hosts have the addresses of their places, and
nothing has been sent. The addresses of different places differ, so no addition is refused, and
**`build_ok`** says that building succeeds for every parameter that is accepted.
-/

namespace PmacFabric.FatTree

open Network (Ground)

/-! ## Addresses of places -/

section Place

variable {k : Nat} {place other : Place}

/-- No two places have the same IP address. -/
theorem Place.eq_of_ip (small : k ≤ 32) (h : place.Within k) (h' : other.Within k)
    (same : place.ip = other.ip) : place = other := by
  obtain ⟨hp, he, hi⟩ := h
  obtain ⟨hp', he', hi'⟩ := h'
  obtain ⟨-, pod, edge, port⟩ := Ipv4Address.mk.injEq .. ▸ same
  have pod := ofNat_inj_of_lt (by omega) (by omega) pod
  have edge := ofNat_inj_of_lt (by omega) (by omega) edge
  have port := Nat.add_right_cancel (ofNat_inj_of_lt (by omega) (by omega) port)
  obtain ⟨_, _, _⟩ := place
  obtain ⟨_, _, _⟩ := other
  rw [Place.mk.injEq]
  exact ⟨pod, edge, port⟩

/-- No two places have the same hardware address. -/
theorem Place.eq_of_amac (small : k ≤ 32) (h : place.Within k) (h' : other.Within k)
    (same : place.amac = other.amac) : place = other := by
  apply eq_of_ip small h h'
  obtain ⟨-, -, -, pod, edge, port⟩ := MacAddress.mk.injEq .. ▸ same
  rw [Place.ip, Place.ip, Ipv4Address.mk.injEq]
  exact ⟨rfl, pod, edge, port⟩

/-- All places of a fat-tree are listed, and no others. -/
theorem mem_places : place ∈ places k ↔ place.Within k := by
  refine mem_triples.trans ⟨?_, fun ⟨hp, he, hi⟩ => ⟨_, _, _, hp, he, hi, rfl⟩⟩
  rintro ⟨pod, edge, port, hp, he, hi, rfl⟩
  exact ⟨hp, he, hi⟩

/-- No place is listed twice. -/
theorem nodup_places (k : Nat) : (places k).Nodup := by
  refine pairwise_triples fun {pod edge port pod' edge' port'} _ _ _ _ other same => other ?_
  cases same
  rfl

end Place

/-! ## Adding hosts one by one -/

/-- In a fabric whose hosts have seats, no two hosts share an address. -/
theorem Housed.distinctHosts {k : Nat} {net : Network} (housed : Housed k net.ground) :
    net.DistinctHosts := by
  refine Network.distinctHosts_of_unique fun {id id' host host'} here here' shared => ?_
  obtain ⟨seat, hs, rfl, card⟩ := housed.seated (Network.ground_card here)
  obtain ⟨other, ho, rfl, card'⟩ := housed.seated (Network.ground_card here')
  have ip : host.ip = seat.ip := congrArg Host.Card.ip card
  have ip' : host'.ip = other.ip := congrArg Host.Card.ip card'
  have amac : host.amac = seat.amac := congrArg Host.Card.amac card
  have amac' : host'.amac = other.amac := congrArg Host.Card.amac card'
  rw [housed.distinct hs ho (ip ▸ ip' ▸ amac ▸ amac' ▸ shared)]

/-- A fat-tree with hosts at some places, which have sent nothing yet. -/
structure Filled (k : Nat) (config : FabricConfig) (taken : List Place) (tree : FatTree) : Prop where
  reached : Reached k [] tree
  quiet : tree.net.queue.toList = []
  config : tree.net.config = config
  seats : ∀ {seat : Seat}, Sits k tree.net.ground seat →
    seat.place ∈ taken ∧ seat.amac = seat.place.amac ∧ seat.ip = seat.place.ip

section Filled

variable {k : Nat} {config : FabricConfig} {taken : List Place} {tree : FatTree}

/-- A new fat-tree is filled at no place. -/
theorem filled_new {streams : DeviceId → Choice.Stream} (made : new k config streams = .ok tree) :
    Filled k config [] tree := by
  obtain ⟨net, done, _, pristine, _, same, _⟩ := new_ok (accepts_of_new_ok made) config streams
  have reached := Reached.new made
  cases made.symm.trans done
  refine ⟨reached, ?_, same.config, fun {seat} sits => ?_⟩
  · rw [same.queue]
    rfl
  · obtain ⟨host, here, _⟩ := sits.host
    rw [pristine.1] at here
    cases here

/-- **The host of a free place can be added.** -/
theorem Filled.add (filled : Filled k config taken tree) {place : Place} (within : place.Within k)
    (free : place ∉ taken) :
    ∃ id tree', tree.addHost place place.amac place.ip = (.ok id, tree') ∧
      Filled k config (taken ++ [place]) tree' := by
  obtain ⟨rfl, legit, slotted⟩ := filled.reached.legit
  have fabric := legit.fabric
  have housed := legit.housed
  have small := le_of_accepts fabric.accepted
  have hslot := slot?_eq_some_iff.mpr ⟨within, rfl⟩
  have unused : tree.hostSlots.contains
      ((place.pod * (tree.k / 2) + place.edge) * (tree.k / 2) + place.port) = false := by
    rw [Std.TreeMap.contains_eq_isSome_getElem?, Option.isSome_eq_false_iff, Option.isNone_iff_eq_none]
    apply Option.eq_none_iff_forall_not_mem.mpr
    intro id mem
    obtain ⟨seat, sits, here, _⟩ := (slotted hslot id).mp mem
    exact free (here ▸ (filled.seats sits).1)
  obtain ⟨net, done, joins⟩ := addHost_of_free fabric housed slotted hslot unused place.amac place.ip
  have apart : ∀ {other : Seat}, Sits tree.k tree.net.ground other →
      place.ip ≠ other.ip ∧ place.amac ≠ other.amac := by
    intro other ho
    obtain ⟨mem, amac, ip⟩ := filled.seats ho
    refine ⟨fun same => free ?_, fun same => free ?_⟩
    · rw [Place.eq_of_ip small within ho.within (same.trans ip)]
      exact mem
    · rw [Place.eq_of_amac small within ho.within (same.trans amac)]
      exact mem
  have distinct := (housed.join fabric joins apart).distinctHosts
  have reached := filled.reached.addHost place place.amac place.ip (done ▸ distinct)
  rw [done] at reached
  refine ⟨_, _, done, ⟨reached, ?_, joins.joined.traffic.config.trans filled.config,
    fun {seat} sits => ?_⟩⟩
  · show net.queue.toList = []
    rw [joins.joined.traffic.queue]
    exact filled.quiet
  · rcases housed.sits_join fabric joins sits with rfl | old
    · exact ⟨List.mem_append_right _ (List.mem_singleton_self _), rfl, rfl⟩
    · obtain ⟨mem, addresses⟩ := filled.seats old
      exact ⟨List.mem_append_left _ mem, addresses⟩

/-- **Free places are filled one after another**, none of them in vain. -/
theorem Filled.addAll {rest : List Place} (filled : Filled k config taken tree)
    (within : ∀ place ∈ rest, place.Within k) (distinct : (taken ++ rest).Nodup) :
    ∃ tree', tree.addHosts rest = (.ok (), tree') ∧ Filled k config (taken ++ rest) tree' := by
  induction rest generalizing taken tree with
  | nil => exact ⟨tree, rfl, (List.append_nil taken).symm ▸ filled⟩
  | cons place rest ih =>
    have free : place ∉ taken := fun mem =>
      (List.nodup_append.mp distinct).2.2 place mem place List.mem_cons_self rfl
    obtain ⟨id, next, done, filled⟩ := filled.add (within place List.mem_cons_self) free
    rw [List.append_cons] at distinct ⊢
    obtain ⟨tree', added, full⟩ :=
      ih filled (fun other mem => within other (List.mem_cons_of_mem place mem)) distinct
    refine ⟨tree', ?_, full⟩
    rw [addHosts, done]
    exact added

end Filled

/-- **A complete fat-tree can be built for every accepted parameter.** -/
theorem build_ok {k : Nat} (accepted : accepts k = true) (config : FabricConfig)
    (streams : DeviceId → Choice.Stream) :
    ∃ tree, build k config streams = .ok tree ∧ Filled k config (places k) tree := by
  obtain ⟨net, made, _⟩ := new_ok accepted config streams
  obtain ⟨tree, added, filled⟩ := (filled_new made).addAll
    (fun place mem => mem_places.mp mem) (nodup_places k)
  refine ⟨tree, ?_, filled⟩
  simp only [build, made, added]

/-! ## Every place is taken -/

/-- Every place of a fat-tree has a seat. -/
def Complete (k : Nat) (ground : Ground) : Prop :=
  ∀ {place : Place}, place.Within k → ∃ seat : Seat, Sits k ground seat ∧ seat.place = place

section Complete

variable {k : Nat} {tree after : FatTree}

/-- A host that has been added is at its place, and others stay at theirs. -/
theorem hostAt?_addHost {place other : Place} {amac : MacAddress} {ip : Ipv4Address} {id : DeviceId}
    (done : tree.addHost place amac ip = (.ok id, after))
    (there : (tree.hostAt? other).isSome ∨ other = place) : (after.hostAt? other).isSome := by
  unfold addHost at done
  split at done
  · cases done
  · split at done
    · cases done
    · rename_i slot hslot
      split at done
      · cases done
      · dsimp only at done
        split at done
        · cases done
        · cases done
          unfold hostAt? at there ⊢
          rcases there with before | rfl
          · obtain ⟨old, here⟩ := Option.isSome_iff_exists.mp before
            obtain ⟨number, hnumber, found⟩ := Option.bind_eq_some_iff.mp here
            simp only [hnumber, Option.bind_some, Std.TreeMap.getElem?_insert]
            split
            · rfl
            · rw [found]
              rfl
          · simp only [hslot, Option.bind_some, Std.TreeMap.getElem?_insert_self, Option.isSome_some]

/-- Hosts that have been added are at their places, and others stay at theirs. -/
theorem hostAt?_addHosts {rest : List Place} {other : Place}
    (done : tree.addHosts rest = (.ok (), after))
    (there : (tree.hostAt? other).isSome ∨ other ∈ rest) : (after.hostAt? other).isSome := by
  induction rest generalizing tree with
  | nil =>
    cases done
    exact there.resolve_right List.not_mem_nil
  | cons place rest ih =>
    unfold addHosts at done
    split at done
    · cases done
    · rename_i added
      apply ih done
      rcases there with before | mem
      · exact .inl (hostAt?_addHost added (.inl before))
      · rcases List.mem_cons.mp mem with rfl | later
        · exact .inl (hostAt?_addHost added (.inr rfl))
        · exact .inr later

/-- **A complete fat-tree has a host at every place.** -/
theorem Filled.complete {config : FabricConfig} {streams : DeviceId → Choice.Stream}
    {taken : List Place} (filled : Filled k config taken tree)
    (built : build k config streams = .ok tree) : Complete k tree.net.ground := by
  intro place within
  obtain ⟨rfl, -, slotted⟩ := filled.reached.legit
  have here : (tree.hostAt? place).isSome := by
    unfold build at built
    split at built
    · cases built
    · split at built
      · cases built
      · rename_i added
        cases built
        exact hostAt?_addHosts added (.inr (mem_places.mpr within))
  obtain ⟨id, found⟩ := Option.isSome_iff_exists.mp here
  obtain ⟨slot, hslot, found⟩ := Option.bind_eq_some_iff.mp found
  obtain ⟨seat, sits, there, -⟩ := (slotted hslot id).mp found
  exact ⟨seat, sits, there⟩

end Complete

end PmacFabric.FatTree
