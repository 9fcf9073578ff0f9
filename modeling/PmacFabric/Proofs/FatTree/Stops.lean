import PmacFabric.FatTree.Layout

/-!
# Where a frame can wait

The devices of a fat-tree are numbered by their places, and routing never depends on which of
several aggregation or core switches a frame takes. A **stop** is what remains of a link end when
that choice is forgotten: the group of ports at which a waiting frame has the same way ahead.
`Stop.ofEndpoint` reads it from the number of a device; `ofEndpoint_edge`, `ofEndpoint_aggregation`,
`ofEndpoint_core` and `ofEndpoint_host` compute it.
-/

namespace PmacFabric.FatTree

/-! ## Numbers of devices -/

/-- How many switches the plan has. -/
def numSwitches (k : Nat) : Nat := k * k + k / 2 * (k / 2)

/-- Switches are numbered pod by pod below `k * k`. -/
theorem pod_offset_lt {k pod r : Nat} (hp : pod < k) (hr : r < k) : pod * k + r < k * k :=
  calc pod * k + r < pod * k + k := Nat.add_lt_add_left hr _
    _ = (pod + 1) * k := (Nat.succ_mul pod k).symm
    _ ≤ k * k := Nat.mul_le_mul_right k hp

/-- The pod of a switch can be read from its number. -/
theorem pod_offset_div {k pod r : Nat} (hr : r < k) : (pod * k + r) / k = pod := by
  rw [Nat.mul_comm, Nat.mul_add_div (Nat.lt_of_le_of_lt (Nat.zero_le r) hr), Nat.div_eq_of_lt hr,
    Nat.add_zero]

/-- The position of a switch in its pod can be read from its number. -/
theorem pod_offset_mod {k pod r : Nat} (hr : r < k) : (pod * k + r) % k = r := by
  rw [Nat.mul_comm, Nat.mul_add_mod, Nat.mod_eq_of_lt hr]

/-- A pair of numbers below `n` is determined by its place in the order of all pairs. -/
theorem pod_offset_inj {k p q r s : Nat} (hr : r < k) (hs : s < k) (h : p * k + r = q * k + s) :
    p = q ∧ r = s := by
  have hdiv := congrArg (· / k) h
  have hmod := congrArg (· % k) h
  simp only [pod_offset_div hr, pod_offset_div hs, pod_offset_mod hr, pod_offset_mod hs] at hdiv hmod
  exact ⟨hdiv, hmod⟩

/-- Half of a parameter, twice, is the parameter. -/
theorem half_add_half {k : Nat} (even : k % 2 = 0) : k / 2 + k / 2 = k := by omega

/-- Edge switches are numbered before all core switches. -/
theorem edgeId_lt {k pod e : Nat} (hp : pod < k) (he : e < k / 2) : edgeId k pod e < k * k :=
  pod_offset_lt hp (by omega)

/-- Aggregation switches are numbered before all core switches. -/
theorem aggregationId_lt {k pod a : Nat} (hp : pod < k) (ha : a < k / 2) :
    aggregationId k pod a < k * k := by
  rw [aggregationId, Nat.add_assoc]
  exact pod_offset_lt hp (by omega)

/-- Different edge switches have different numbers. -/
theorem edgeId_inj {k p q e f : Nat} (he : e < k / 2) (hf : f < k / 2)
    (h : edgeId k p e = edgeId k q f) : p = q ∧ e = f :=
  pod_offset_inj (by omega) (by omega) h

/-- Different aggregation switches have different numbers. -/
theorem aggregationId_inj {k p q a b : Nat} (ha : a < k / 2) (hb : b < k / 2)
    (h : aggregationId k p a = aggregationId k q b) : p = q ∧ a = b := by
  rw [aggregationId, aggregationId, Nat.add_assoc, Nat.add_assoc] at h
  obtain ⟨hp, hab⟩ := pod_offset_inj (by omega) (by omega) h
  exact ⟨hp, by omega⟩

/-- No number is that of an edge switch and of an aggregation switch. -/
theorem edgeId_ne_aggregationId {k p q e a : Nat} (he : e < k / 2) (ha : a < k / 2) :
    edgeId k p e ≠ aggregationId k q a := by
  intro h
  rw [edgeId, aggregationId, Nat.add_assoc] at h
  have := (pod_offset_inj (by omega) (by omega) h).2
  omega

/-- Core switches are the last switches of the plan. -/
theorem coreId_lt {k c : Nat} (hc : c < k / 2 * (k / 2)) : coreId k c < numSwitches k :=
  Nat.add_lt_add_left hc _

/-- No core switch has a number below `k * k`. -/
theorem not_coreId_lt (k c : Nat) : ¬ coreId k c < k * k := Nat.not_lt.mpr (Nat.le_add_right _ _)

theorem aggregationId_ne_coreId {k pod a c : Nat} (hp : pod < k) (ha : a < k / 2) :
    aggregationId k pod a ≠ coreId k c :=
  fun same => not_coreId_lt k c (same ▸ aggregationId_lt hp ha)

theorem edgeId_ne_coreId {k pod e c : Nat} (hp : pod < k) (he : e < k / 2) :
    edgeId k pod e ≠ coreId k c :=
  fun same => not_coreId_lt k c (same ▸ edgeId_lt hp he)

/-- Every aggregation switch has `k / 2` core switches of its own. -/
theorem coreIndex_lt {k a i : Nat} (ha : a < k / 2) (hi : i < k / 2) :
    a * (k / 2) + i < k / 2 * (k / 2) :=
  pod_offset_lt ha hi

/-! ## Stops -/

/-- Where a frame waits, up to the choice among equivalent switches and ports. -/
inductive Stop where
  /-- A lower port of an edge switch: the frame comes from a host. -/
  | edgeLower (pod position port : Nat)
  /-- Any upper port of an edge switch. -/
  | edgeUpper (pod position : Nat)
  /-- A lower port of any aggregation switch of a pod: the frame comes from an edge switch. -/
  | aggregationLower (pod port : Nat)
  /-- Any upper port of any aggregation switch of a pod. -/
  | aggregationUpper (pod : Nat)
  /-- A lower port of any core switch: the frame comes from a pod. -/
  | core (pod : Nat)
  /-- A host. -/
  | host (id : DeviceId)
deriving DecidableEq, Repr

namespace Stop

/-- The stop of a link end, read from the number of its device. -/
def ofEndpoint (k : Nat) (target : Endpoint) : Stop :=
  let pod := target.device / k
  let position := target.device % k
  if target.device < k * k then
    match target.port with
    | .lower i => if position < k / 2 then .edgeLower pod position i else .aggregationLower pod i
    | .upper _ => if position < k / 2 then .edgeUpper pod position else .aggregationUpper pod
  else if target.device < numSwitches k then .core target.port.index
  else .host target.device

/-- The stop of a link end of an edge switch: its lower ports are told apart, its upper ports are
not. -/
theorem ofEndpoint_edge {k pod e : Nat} (hp : pod < k) (he : e < k / 2) (port : Port) :
    ofEndpoint k ⟨edgeId k pod e, port⟩ =
      match port with
      | .lower i => .edgeLower pod e i
      | .upper _ => .edgeUpper pod e := by
  have hk : e < k := by omega
  have hdiv : edgeId k pod e / k = pod := pod_offset_div hk
  have hmod : edgeId k pod e % k = e := pod_offset_mod hk
  simp only [ofEndpoint, if_pos (edgeId_lt hp he), hdiv, hmod, if_pos he]

/-- The stop of a link end of an aggregation switch: which of those of the pod it is does not
matter. -/
theorem ofEndpoint_aggregation {k pod a : Nat} (hp : pod < k) (ha : a < k / 2) (port : Port) :
    ofEndpoint k ⟨aggregationId k pod a, port⟩ =
      match port with
      | .lower i => .aggregationLower pod i
      | .upper _ => .aggregationUpper pod := by
  have hk : k / 2 + a < k := by omega
  have shape : aggregationId k pod a = pod * k + (k / 2 + a) := Nat.add_assoc _ _ _
  have hdiv : aggregationId k pod a / k = pod := by rw [shape, pod_offset_div hk]
  have hmod : aggregationId k pod a % k = k / 2 + a := by rw [shape, pod_offset_mod hk]
  have high : ¬ k / 2 + a < k / 2 := by omega
  simp only [ofEndpoint, if_pos (aggregationId_lt hp ha), hdiv, hmod, if_neg high]

/-- The stop of a link end of a core switch is the pod that it leads to. -/
theorem ofEndpoint_core {k c : Nat} (hc : c < k / 2 * (k / 2)) (port : Port) :
    ofEndpoint k ⟨coreId k c, port⟩ = .core port.index := by
  simp only [ofEndpoint, if_neg (not_coreId_lt k c), if_pos (coreId_lt hc)]

/-- Past the switches there are hosts, each with one stop. -/
theorem ofEndpoint_host {k : Nat} {id : DeviceId} (h : numSwitches k ≤ id) (port : Port) :
    ofEndpoint k ⟨id, port⟩ = .host id := by
  have high : ¬ id < k * k := Nat.not_lt.mpr (Nat.le_trans (Nat.le_add_right _ _) h)
  simp only [ofEndpoint, if_neg high, if_neg (Nat.not_lt.mpr h)]

end Stop

end PmacFabric.FatTree
