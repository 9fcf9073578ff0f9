import PmacFabric.Proofs.Device.Gauge
import PmacFabric.Proofs.Network.Building

/-!
# Adding up over switches

`tally` is the total of a gauge over all switches of certain tiers and pods. A change of one switch
changes it by the growth of that switch (`tally_setSwitch`), and no other change is seen by it.
-/

namespace PmacFabric

namespace Network

/-- The total of a gauge over the switches of the selected tiers and pods. -/
def tally (net : Network) (select : Tier → UInt8 → Bool) (gauge : Switch.Gauge) : Nat :=
  totalOf (fun switch => switch.reading gauge)
    (net.switches.filter fun switch => select switch.tier switch.identity.pod)

/-- What a device contributes to a tally. -/
def share (select : Tier → UInt8 → Bool) (gauge : Switch.Gauge) : Device → Nat
  | .switch switch =>
    if select switch.tier switch.identity.pod then switch.reading gauge else 0
  | .host _ => 0

/-- A switch contributes its reading if it is selected, and nothing otherwise. -/
theorem share_switch (select : Tier → UInt8 → Bool) (gauge : Switch.Gauge) (switch : Switch) :
    share select gauge (.switch switch) =
      if select switch.identity.tier switch.identity.pod then switch.reading gauge else 0 :=
  rfl

variable {net : Network} {select : Tier → UInt8 → Bool} {gauge : Switch.Gauge}

/-- A tally is counted device by device. -/
theorem tally_eq (net : Network) (select : Tier → UInt8 → Bool) (gauge : Switch.Gauge) :
    net.tally select gauge = totalOf (share select gauge) net.devices.toList := by
  rw [tally, totalOf_filter, switches, totalOf_filterMap]
  apply totalOf_congr
  intro device _
  cases device <;> rfl

/-- **A tally grows as the changed switch does**, if it selects that switch. -/
theorem tally_setSwitch {id : DeviceId} {old switch : Switch} {gain : Nat}
    (here : net.switchAt? id = some old) (outline : switch.outline = old.outline)
    (grows : switch.reading gauge = old.reading gauge + gain) :
    (net.setSwitch id switch).tally select gauge =
      net.tally select gauge + if select old.tier old.identity.pod then gain else 0 := by
  have identity : switch.identity = old.identity := congrArg Switch.Outline.identity outline
  have share_grows : share select gauge (.switch switch) =
      share select gauge (.switch old) + if select old.tier old.identity.pod then gain else 0 := by
    rw [share_switch, share_switch, identity, grows, Switch.tier]
    by_cases selected : select old.identity.tier old.identity.pod = true
    · rw [if_pos selected, if_pos selected, if_pos selected]
    · rw [if_neg selected, if_neg selected, if_neg selected]
  have found : net.devices.toList[id]? = some (.switch old) := by
    rw [Array.getElem?_toList]
    exact getDevice?_of_switchAt? here
  rw [tally_eq, tally_eq, setSwitch, Array.toList_setIfInBounds]
  exact totalOf_set share_grows found

/-- Hosts contribute nothing to a tally. -/
theorem tally_setHost {id : DeviceId} {old : Host} (here : net.hostAt? id = some old)
    (host : Host) : (net.setHost id host).tally select gauge = net.tally select gauge := by
  have found : net.devices.toList[id]? = some (.host old) := by
    rw [Array.getElem?_toList]
    exact getDevice?_of_hostAt? here
  have unchanged : share select gauge (.host host) = share select gauge (.host old) + 0 := rfl
  rw [tally_eq, tally_eq, setHost, Array.toList_setIfInBounds]
  exact totalOf_set unchanged found

/-- New links change no tally. -/
theorem tally_setPeer (net : Network) (target peer : Endpoint) :
    (net.setPeer target peer).tally select gauge = net.tally select gauge := by
  rw [tally_eq, tally_eq, setPeer, modifySwitch, Array.toList_modify]
  apply totalOf_modify_of_keeps
  intro device
  cases device with
  | host host => rfl
  | switch switch =>
    have identity : (switch.setPeer target.port peer).identity = switch.identity := by
      cases target.port <;> rfl
    show share select gauge (.switch (switch.setPeer target.port peer)) = _
    rw [share_switch, share_switch, identity, Switch.reading_setPeer]

/-- New hosts change no tally. -/
theorem tally_addHost (net : Network) (name : String) (amac : MacAddress) (ip : Ipv4Address) :
    (net.addHost name amac ip).2.tally select gauge = net.tally select gauge := by
  rw [tally_eq, tally_eq, addHost, Array.toList_push, totalOf_append, totalOf_cons, totalOf_nil]
  rfl

/-! ## A host joins -/

section Joined

variable {net' : Network} {host : Host} {uplink : Endpoint}

/-- The fabric manager does not hear of hosts that are attached. -/
theorem Joined.manager (joined : Joined net net' host uplink) : net'.manager = net.manager := by
  rw [joined.result]
  rfl

/-- The new host before it is attached, when the port has been connected. -/
theorem hostAt?_setPeer_addHost (net : Network) {host : Host} (number : host.id = net.devices.size)
    (target peer : Endpoint) :
    ((net.addHost host.name host.amac host.ip).2.setPeer target peer).hostAt? host.id =
      some (.new host.name net.devices.size host.amac host.ip) := by
  refine (hostAt?_modifySwitch _ _ _ _).trans ?_
  rw [hostAt?_addHost, if_pos number]

/-- A host that joins contributes to no tally. -/
theorem Joined.tally (joined : Joined net net' host uplink) (number : host.id = net.devices.size) :
    net'.tally select gauge = net.tally select gauge := by
  have still := hostAt?_setPeer_addHost net number ⟨uplink.device, .lower uplink.port.index⟩
    ⟨host.id, .upper 0⟩
  rw [joined.result]
  show (Network.setHost _ _ _).tally select gauge = _
  rw [tally_setHost still, tally_setPeer, tally_addHost]

/-- A switch that a host joins has counted and remembers the same. -/
theorem Joined.switchAt? (joined : Joined net net' host uplink)
    (number : host.id = net.devices.size) {key : DeviceId} {switch' : Switch}
    (here' : net'.switchAt? key = some switch') :
    ∃ switch, net.switchAt? key = some switch ∧ switch'.identity = switch.identity ∧
      switch'.table = switch.table ∧ ∀ gauge, switch'.reading gauge = switch.reading gauge := by
  have still := hostAt?_setPeer_addHost net number ⟨uplink.device, .lower uplink.port.index⟩
    ⟨host.id, .upper 0⟩
  rw [joined.result] at here'
  have here' := (switchAt?_setHost still _ key).symm.trans here'
  rw [setPeer, switchAt?_modifySwitch, switchAt?_addHost] at here'
  split at here'
  · obtain ⟨switch, here, rfl⟩ := Option.map_eq_some_iff.mp here'
    exact ⟨switch, here, rfl, rfl, switch.reading_setPeer _ _⟩
  · exact ⟨switch', here', rfl, rfl, fun _ => rfl⟩

end Joined

end Network

end PmacFabric
