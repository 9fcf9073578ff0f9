import PmacFabric.Proofs.Device.Host
import PmacFabric.Proofs.Network.Ground
import PmacFabric.Proofs.Total

/-!
# Data that waits at hosts

`backlog` is the number of data items that wait at the hosts of a network for a resolution. A host
that learns an address loses exactly the items that it sends (`Host.totalPending_learned`), and the
backlog follows the one host that changes (`backlog_setHost`).
-/

namespace PmacFabric

/-! ## Entries of maps -/

/-- The values of a map stand in the order of its entries. -/
theorem values_eq {α β : Type} {cmp : α → α → Ordering} (map : Std.TreeMap α β cmp) :
    map.values = map.toList.map Prod.snd := by
  show map.foldr (fun _ value values => value :: values) [] = _
  rw [Std.TreeMap.foldr_eq_foldr_toList]
  exact List.foldr_cons_eq_append.trans (List.append_nil _)

section Erase

variable {β : Type}

/-- A map has no entry twice. -/
theorem nodup_entries (map : Std.TreeMap Ipv4Address β) : map.toList.Nodup := by
  apply Std.TreeMap.distinct_keys_toList.imp
  rintro ⟨ip, item⟩ ⟨ip', item'⟩ apart same
  cases same
  exact apart Std.ReflCmp.compare_self

/-- Maps with the same lookups have the same entries. -/
theorem perm_entries {map map' : Std.TreeMap Ipv4Address β}
    (same : ∀ ip : Ipv4Address, map[ip]? = map'[ip]?) : map.toList.Perm map'.toList := by
  refine (List.perm_ext_iff_of_nodup (nodup_entries map) (nodup_entries map')).mpr ?_
  rintro ⟨ip, item⟩
  rw [Std.TreeMap.mem_toList_iff_getElem?_eq_some, Std.TreeMap.mem_toList_iff_getElem?_eq_some, same]

/-- A map has the entry of a key, if there is one, and the entries that it has without the key. -/
theorem perm_entries_erase (map : Std.TreeMap Ipv4Address β) (ip : Ipv4Address) :
    map.toList.Perm (map[ip]?.toList.map (ip, ·) ++ (map.erase ip).toList) := by
  cases found : map[ip]? with
  | none =>
    refine perm_entries fun key => ?_
    rw [Std.TreeMap.getElem?_erase]
    split
    · rename_i same
      rw [← Std.compare_eq_iff_eq.mp same, found]
    · rfl
  | some own =>
    have whole : map.toList.Perm ((map.erase ip).insert ip own).toList := by
      refine perm_entries fun key => ?_
      rw [Std.TreeMap.getElem?_insert, Std.TreeMap.getElem?_erase]
      split
      · rename_i same
        rw [← Std.compare_eq_iff_eq.mp same, found]
      · rfl
    have others : (map.erase ip).toList.filter (fun entry => ¬ ip == entry.1) =
        (map.erase ip).toList := by
      refine List.filter_eq_self.mpr ?_
      rintro ⟨key, item⟩ mem
      rw [Std.TreeMap.mem_toList_iff_getElem?_eq_some, Std.TreeMap.getElem?_erase] at mem
      split at mem
      · cases mem
      · rename_i other
        exact decide_eq_true fun same => other (Std.compare_eq_iff_eq.mpr (eq_of_beq same))
    have added := @Std.TreeMap.toList_insert_perm _ _ _ (map.erase ip) _ _ _ ip own
    rw [others] at added
    exact whole.trans added

end Erase

/-! ## One host -/

namespace Host

/-- What waits at a host is counted by the addresses it waits for. -/
theorem totalPending_eq (host : Host) :
    host.totalPending = totalOf (fun entry => entry.2.length) host.pending.toList := by
  rw [totalPending, values_eq, totalOf_map]

/-- What waits for an address waits no more when the address is learned. -/
theorem totalPending_learned {host after : Host} {ip : Ipv4Address}
    (emptied : after.pending = host.pending.erase ip) :
    host.totalPending = (host.pendingFor ip).length + after.totalPending := by
  rw [totalPending_eq, totalPending_eq, emptied, totalOf_perm _ (perm_entries_erase host.pending ip),
    totalOf_append, pendingFor]
  cases host.pending[ip]? <;> rfl

end Host

/-! ## All hosts -/

namespace Network

/-- How many data items wait at hosts. -/
def backlog (net : Network) : Nat := totalOf Host.totalPending net.hosts

/-- What a device contributes to the backlog. -/
def held : Device → Nat
  | .host host => host.totalPending
  | .switch _ => 0

/-- The backlog is counted device by device. -/
theorem backlog_eq (net : Network) : net.backlog = totalOf held net.devices.toList := by
  rw [backlog, hosts, totalOf_filterMap]
  apply totalOf_congr
  intro device _
  cases device <;> rfl

variable {net : Network} {id : DeviceId}

/-- Nothing waits at switches. -/
theorem backlog_setSwitch {old : Switch} (here : net.switchAt? id = some old) (switch : Switch) :
    (net.setSwitch id switch).backlog = net.backlog := by
  have found : net.devices.toList[id]? = some (.switch old) := by
    rw [Array.getElem?_toList]
    exact getDevice?_of_switchAt? here
  rw [backlog_eq, backlog_eq, setSwitch, Array.toList_setIfInBounds]
  exact totalOf_exchange held (.switch switch) found

/-- The backlog changes as the changed host does. -/
theorem backlog_setHost {old : Host} (here : net.hostAt? id = some old) (host : Host) :
    (net.setHost id host).backlog + old.totalPending = net.backlog + host.totalPending := by
  have found : net.devices.toList[id]? = some (.host old) := by
    rw [Array.getElem?_toList]
    exact getDevice?_of_hostAt? here
  rw [backlog_eq, backlog_eq, setHost, Array.toList_setIfInBounds]
  exact totalOf_exchange held (.host host) found

end Network

end PmacFabric
