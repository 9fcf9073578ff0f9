import PmacFabric.Proofs.FatTree.Reached

/-!
# Directory, tables and caches agree

Three kinds of copies say where a host is: the PMAC table of its edge switch, the directory of the
fabric manager, and the ARP caches of other hosts. They are written by different devices at different
events and never expire. `directory_tables_caches_agree` says that in every state of a run they agree
with the place of the host, and with each other.
-/

namespace PmacFabric.FatTree

/-- The entry of the host at a place. -/
def Place.entryFor (place : Place) (host : Host) : PmacEntry :=
  ⟨place.pmac, host.amac, host.ip, place.port⟩

section Agreement

variable {k : Nat} {net : Network}

/-- The table of every switch agrees with the wiring and with the directory. -/
theorem Sane.rolled (sane : Sane k net) {id : DeviceId} {switch : Switch}
    (here : net.switchAt? id = some switch) :
    Rolled k net.ground net.manager.directory id switch.table := by
  have remembered : net.memoryAt? id = some switch.memory :=
    congrArg (Option.map Switch.memory) here
  exact (sane.tables remembered).1

/-- The table of the own edge switch has the entry of a registered host, and none of another. -/
theorem Sane.filter_ip (sane : Sane k net) {place : Place} {id : DeviceId} {host : Host}
    (occupies : Occupies k net place id host) {switch : Switch}
    (here : net.switchAt? (edgeId k place.pod place.edge) = some switch) :
    (switch.table.toList.filter fun entry => entry.ip = host.ip) =
      if net.manager.directory[host.ip]? = some place.pmac then [place.entryFor host] else [] := by
  have sits := occupies.seat sane.housed
  have rolled := sane.rolled here
  rw [rolled.indexed.filter_ip]
  split
  · rename_i listed
    have found : switch.table.entryOfIp? host.ip = some (place.entryFor host) :=
      rolled.indexed.entryOfIp?_eq_some_iff.mpr ⟨rolled.indexed.mem_toList_iff.mpr
        ((rolled.entries _ _).mpr ⟨_, sits, listed, rfl, rfl, rfl⟩), rfl⟩
    rw [found, Option.toList_some]
  · rename_i unlisted
    cases found : switch.table.entryOfIp? host.ip with
    | none => rfl
    | some entry =>
      obtain ⟨mem, own⟩ := rolled.indexed.entryOfIp?_eq_some_iff.mp found
      obtain ⟨seat, other, listed, _, _, rfl⟩ :=
        (rolled.entries _ _).mp (rolled.indexed.mem_toList_iff.mp mem)
      cases sane.housed.eq_of_ip other sits own
      exact absurd listed unlisted

/-- Whatever the directory says about the address of a host is its PMAC. -/
theorem Sane.directory_of_occupies (sane : Sane k net) {place : Place} {id : DeviceId} {host : Host}
    (occupies : Occupies k net place id host) {pmac : Pmac}
    (listed : net.manager.directory[host.ip]? = some pmac) : pmac = place.pmac := by
  obtain ⟨seat, sits, own, rfl⟩ := sane.directory listed
  cases sane.housed.eq_of_ip sits (occupies.seat sane.housed) own
  rfl

/-- Whatever a cache says about the address of a host is its PMAC, and the host is registered. -/
theorem Sane.cache_of_occupies (sane : Sane k net) {place : Place} {id other : DeviceId}
    {host holder : Host} (occupies : Occupies k net place id host)
    (here : net.hostAt? other = some holder) {mac : MacAddress}
    (cached : holder.resolve? host.ip = some mac) :
    mac = place.pmac.mac ∧ net.manager.directory[host.ip]? = some place.pmac := by
  obtain ⟨seat, sits, listed, own, rfl⟩ := (sane.hosts here).cached cached
  cases sane.housed.eq_of_ip sits (occupies.seat sane.housed) own
  exact ⟨rfl, listed⟩

end Agreement

/-- **Directory, tables and caches agree in every state of a run.** For the host at a place, the
table of its edge switch has exactly its entry and the directory its PMAC, or neither knows its
address; a cache that resolves its address has its PMAC, and then the host is registered. No table
and no directory has anything else. -/
theorem directory_tables_caches_agree {k : Nat} {log : List Ipv4Packet} {tree : FatTree}
    (reached : Reached k log tree) :
    (∀ place id host, Occupies k tree.net place id host →
      (∃ switch, tree.net.getSwitch (edgeId k place.pod place.edge) = .ok switch ∧
        ((switch.table.toList.filter fun entry => entry.ip = host.ip) = [place.entryFor host] ∧
            tree.net.manager.directory[host.ip]? = some place.pmac ∨
          (switch.table.toList.filter fun entry => entry.ip = host.ip) = [] ∧
            tree.net.manager.directory[host.ip]? = none)) ∧
      ∀ other holder mac, tree.net.getHost other = .ok holder →
        holder.resolve? host.ip = some mac →
        mac = place.pmac.mac ∧ tree.net.manager.directory[host.ip]? = some place.pmac) ∧
    (∀ id switch, tree.net.getSwitch id = .ok switch → ∀ entry ∈ switch.table.toList,
      ∃ place number host, Occupies k tree.net place number host ∧
        id = edgeId k place.pod place.edge ∧ entry = place.entryFor host) ∧
    ∀ (ip : Ipv4Address) pmac, tree.net.manager.directory[ip]? = some pmac →
      ∃ place number host, Occupies k tree.net place number host ∧ host.ip = ip ∧
        pmac = place.pmac := by
  obtain ⟨-, legit, -⟩ := reached.legit
  have sane := legit.toSane
  refine ⟨fun place id host occupies => ⟨?_, ?_⟩, ?_, ?_⟩
  · obtain ⟨switch, here, _⟩ := sane.fabric.edge occupies.within.1 occupies.within.2.1
    refine ⟨switch, Network.getSwitch_eq_ok_iff.mpr here, ?_⟩
    have entries := sane.filter_ip occupies here
    cases listed : tree.net.manager.directory[host.ip]? with
    | none =>
      rw [listed, if_neg nofun] at entries
      exact .inr ⟨entries, rfl⟩
    | some pmac =>
      cases sane.directory_of_occupies occupies listed
      rw [listed, if_pos rfl] at entries
      exact .inl ⟨entries, rfl⟩
  · intro other holder mac here cached
    exact sane.cache_of_occupies occupies (Network.getHost_eq_ok_iff.mp here) cached
  · intro id switch here entry mem
    have rolled := sane.rolled (Network.getSwitch_eq_ok_iff.mp here)
    obtain ⟨seat, sits, _, there, _, rfl⟩ :=
      (rolled.entries _ _).mp (rolled.indexed.mem_toList_iff.mp mem)
    obtain ⟨host, occupies, amac, ip⟩ := sits.occupies
    refine ⟨seat.place, seat.id, host, occupies, there.symm, ?_⟩
    rw [Place.entryFor, amac, ip]
    rfl
  · intro ip pmac listed
    obtain ⟨seat, sits, own, rfl⟩ := sane.directory listed
    obtain ⟨host, occupies, _, ip'⟩ := sits.occupies
    exact ⟨seat.place, seat.id, host, occupies, ip'.trans own, rfl⟩

/-- After a greeting the directory has the greeted host, at its place. -/
theorem greeted_host_registered :
    (smallest.performAll greeting).2.net.manager.directory[(⟨10, 0, 0, 2⟩ : Ipv4Address)]? =
        some (Pmac.encode 1 0 0) ∧
      ∃ place number host,
        Occupies 2 (smallest.performAll greeting).2.net place number host ∧
          host.ip = ⟨10, 0, 0, 2⟩ ∧ Pmac.encode 1 0 0 = place.pmac := by
  have listed : (smallest.performAll greeting).2.net.manager.directory[
      (⟨10, 0, 0, 2⟩ : Ipv4Address)]? = some (Pmac.encode 1 0 0) := by decide +kernel
  have reached := (Reached.new new_smallest).performAll greeting (by decide +kernel)
  exact ⟨listed, (directory_tables_caches_agree reached).2.2 _ _ listed⟩

end PmacFabric.FatTree
