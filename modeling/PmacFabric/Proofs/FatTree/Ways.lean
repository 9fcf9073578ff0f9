import PmacFabric.Proofs.FatTree.Seats

/-!
# The way of a letter

A letter from one seat to another climbs only as far as it has to, and then comes down. `OnWay` lists
the link ends at which it may wait, by the number of hops that it still has to make: which
aggregation and core switch it takes is open, the number of hops is not. `distance` is the number of
hops from the sending host's own switch port on. `remaining` computes the hops that are left from
the stop alone.
-/

namespace PmacFabric.FatTree

/-- `OnWay k seat dest n target`: a letter from `seat` to `dest` that waits at `target` has `n` hops
ahead of it. -/
inductive OnWay (k : Nat) (seat dest : Seat) : Nat → Endpoint → Prop where
  /-- At the host itself. -/
  | arrived : OnWay k seat dest 0 dest.line
  /-- At the edge switch of the destination, from above. -/
  | landing {j : Nat} (hj : j < k / 2)
      (apart : seat.place.pod = dest.place.pod → seat.place.edge ≠ dest.place.edge) :
      OnWay k seat dest 1 ⟨edgeId k dest.place.pod dest.place.edge, .upper j⟩
  /-- At an aggregation switch, to another edge switch of the pod. -/
  | turning {a : Nat} (ha : a < k / 2) (pod : seat.place.pod = dest.place.pod)
      (edge : seat.place.edge ≠ dest.place.edge) :
      OnWay k seat dest 2 ⟨aggregationId k dest.place.pod a, .lower seat.place.edge⟩
  /-- At an aggregation switch of the destination's pod, from above. -/
  | descending {a i : Nat} (ha : a < k / 2) (hi : i < k / 2)
      (pod : seat.place.pod ≠ dest.place.pod) :
      OnWay k seat dest 2 ⟨aggregationId k dest.place.pod a, .upper i⟩
  /-- At a core switch. -/
  | crossing {a i : Nat} (ha : a < k / 2) (hi : i < k / 2)
      (pod : seat.place.pod ≠ dest.place.pod) :
      OnWay k seat dest 3 ⟨coreId k (a * (k / 2) + i), .lower seat.place.pod⟩
  /-- At an aggregation switch of the sender's pod, to another pod. -/
  | climbing {a : Nat} (ha : a < k / 2) (pod : seat.place.pod ≠ dest.place.pod) :
      OnWay k seat dest 4 ⟨aggregationId k seat.place.pod a, .lower seat.place.edge⟩

/-- The hops of a letter from the sender's switch port to the destination. -/
def distance (seat dest : Seat) : Nat :=
  if seat.place.pod = dest.place.pod then
    if seat.place.edge = dest.place.edge then 1 else 3
  else 5

/-- The address under which a letter for a seat travels: the last hop is made under its own one. -/
def Seat.address (dest : Seat) : Nat → MacAddress
  | 0 => dest.amac
  | _ + 1 => dest.pmac.mac

/-- The hops that a letter has ahead of it at a stop. -/
def remaining (seat dest : Seat) : Stop → Nat
  | .edgeLower _ _ _ => distance seat dest
  | .edgeUpper _ _ => 1
  | .aggregationLower _ _ => if seat.place.pod = dest.place.pod then 2 else 4
  | .aggregationUpper _ => 2
  | .core _ => 3
  | .host _ => 0

/-- A letter on its way has fewer hops ahead of it than at its start. -/
theorem OnWay.lt_distance {k : Nat} {seat dest : Seat} {n : Nat} {target : Endpoint}
    (way : OnWay k seat dest n target) : n < distance seat dest := by
  unfold distance
  cases way with
  | arrived =>
    split
    · split <;> omega
    · omega
  | landing hj apart =>
    split
    · rename_i pod
      rw [if_neg (apart pod)]
      omega
    · omega
  | turning ha pod edge =>
    rw [if_pos pod, if_neg edge]
    omega
  | descending ha hi pod =>
    rw [if_neg pod]
    omega
  | crossing ha hi pod =>
    rw [if_neg pod]
    omega
  | climbing ha pod =>
    rw [if_neg pod]
    omega

/-- No letter waits below an edge switch on its way. -/
theorem OnWay.ne_below {k : Nat} {seat dest : Seat} {n : Nat} {target : Endpoint}
    (way : OnWay k seat dest (n + 1) target) {pod e i : Nat} (hp : pod < k) (he : e < k / 2) :
    target ≠ ⟨edgeId k pod e, .lower i⟩ := by
  intro same
  obtain ⟨device, port⟩ := Endpoint.mk.injEq .. ▸ same
  cases way with
  | landing => cases port
  | turning ha => exact edgeId_ne_aggregationId he ha device.symm
  | descending => cases port
  | crossing => exact edgeId_ne_coreId hp he device.symm
  | climbing ha => exact edgeId_ne_aggregationId he ha device.symm

/-- **The hops ahead of a letter follow from its stop.** -/
theorem remaining_of_onWay {k : Nat} {ground : Network.Ground} {seat dest : Seat} {n : Nat}
    {target : Endpoint} (hs : Sits k ground seat) (hd : Sits k ground dest)
    (way : OnWay k seat dest n target) : remaining seat dest (.ofEndpoint k target) = n := by
  obtain ⟨hp, he, hi⟩ := hd.within
  cases way with
  | arrived =>
    rw [Seat.line, Stop.ofEndpoint_host hd.beyond]
    rfl
  | landing hj _ =>
    rw [Stop.ofEndpoint_edge hp he]
    rfl
  | turning ha pod _ =>
    rw [Stop.ofEndpoint_aggregation hp ha]
    exact if_pos pod
  | descending ha hi _ =>
    rw [Stop.ofEndpoint_aggregation hp ha]
    rfl
  | crossing ha hi _ =>
    rw [Stop.ofEndpoint_core (coreIndex_lt ha hi)]
    rfl
  | climbing ha pod =>
    rw [Stop.ofEndpoint_aggregation hs.within.1 ha]
    exact if_neg pod

/-- The way of a letter starts at the port of its sender. -/
theorem remaining_uplink {k : Nat} {ground : Network.Ground} {seat : Seat} (dest : Seat)
    (sits : Sits k ground seat) :
    remaining seat dest (.ofEndpoint k (seat.uplink k)) = distance seat dest := by
  rw [Seat.uplink, Seat.edge, Stop.ofEndpoint_edge sits.within.1 sits.within.2.1]
  rfl

end PmacFabric.FatTree
