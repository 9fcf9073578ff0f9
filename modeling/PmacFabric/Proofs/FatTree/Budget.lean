import PmacFabric.Proofs.FatTree.Progress
import PmacFabric.Proofs.Total

/-!
# How many events an operation takes

`weight` bounds the number of events that an event leads to, itself included. It depends on the
letter and on the stop at which it waits only: data has at most five hops ahead of it, an answer
releases at most one piece of data, and a question may spread from its stop to all hosts below.
**`Reaction.weight_lt`** says that an event weighs more than all that it raises, so an operation
processes at most as many events as those weigh that it begins with.

`Legit.run_ok` and `Legit.run_exhausted` take any price of events to the end of a run: one that pays
for all that an event raises bounds the run from above, and one that owes it bounds it from below.
-/

namespace PmacFabric

namespace FatTree

open Network (Ground)

/-! ## Weights -/

/-- The events of data at a stop: one for each hop, and the delivery. -/
def dataCost : Stop → Nat
  | .host _ => 1
  | .edgeUpper _ _ => 2
  | .aggregationUpper _ => 3
  | .core _ => 4
  | .aggregationLower _ _ => 5
  | .edgeLower _ _ _ => 6

/-- The events of an answer at a stop: it releases data at its end. -/
def answerCost (stop : Stop) : Nat := dataCost stop + 6

/-- The events of a question at a host: it is answered, and releases data. -/
def askHostCost : Nat := 19

section Costs

variable (k : Nat)

/-- The events of a question that spreads below an edge switch. -/
def askEdgeCost : Nat := 1 + k / 2 * askHostCost

/-- The events of a question that spreads below an aggregation switch. -/
def askAggregationCost : Nat := 1 + k / 2 * askEdgeCost k

/-- The events of a question that spreads below a core switch. -/
def askCoreCost : Nat := 1 + k * askAggregationCost k

/-- The events of a question that may have to spread from all core switches. -/
def askStartCost : Nat := 2 + k / 2 * (k / 2) * askCoreCost k

def askCost : Stop → Nat
  | .host _ => askHostCost
  | .edgeUpper _ _ => askEdgeCost k
  | .aggregationUpper _ => askAggregationCost k
  | .core _ => askCoreCost k
  | .aggregationLower _ _ => 1 + askCoreCost k
  | .edgeLower _ _ _ => askStartCost k

def Letter.cost (stop : Stop) : Letter → Nat
  | .data _ _ => dataCost stop
  | .answer _ => answerCost stop
  | .question _ => askCost k stop

/-- A bound on the events that an event leads to, itself included. -/
def weight : Event → Nat
  | .frame target ⟨_, _, .arp arp⟩ =>
    if arp.isRequest then askCost k (.ofEndpoint k target) else answerCost (.ofEndpoint k target)
  | .frame target _ => dataCost (.ofEndpoint k target)
  | .control _ _ => askCoreCost k

/-- The weight of a letter on its way is its cost where it arrives. -/
theorem weight_letter (letter : Letter) (target : Endpoint) (src dst : MacAddress)
    (ip : Ipv4Address) :
    weight k (.frame target (letter.frame src ip dst)) =
      Letter.cost k (.ofEndpoint k target) letter := by
  cases letter <;> rfl

variable {k}

/-- A question costs less at a host than at its edge switch. -/
theorem askHostCost_lt (half : 0 < k / 2) : askHostCost < askEdgeCost k := by
  unfold askEdgeCost askHostCost
  omega

/-- A question costs less at an edge switch than at an aggregation switch. -/
theorem askEdgeCost_lt (half : 0 < k / 2) : askEdgeCost k < askAggregationCost k := by
  have := Nat.le_mul_of_pos_left (askEdgeCost k) half
  unfold askAggregationCost
  omega

/-- A question costs less at an aggregation switch than at a core switch. -/
theorem askAggregationCost_lt (half : 0 < k / 2) : askAggregationCost k < askCoreCost k := by
  have := Nat.le_mul_of_pos_left (askAggregationCost k) (show 0 < k by omega)
  unfold askCoreCost
  omega

/-- A question costs less once it is flooded than before. -/
theorem askCoreCost_lt (half : 0 < k / 2) : 1 + askCoreCost k < askStartCost k := by
  have := Nat.le_mul_of_pos_left (askCoreCost k) (Nat.mul_pos half half)
  unfold askStartCost
  omega

/-- In the largest fat-tree a question leads to fewer events than there are 32-bit numbers. -/
theorem askStartCost_lt (small : k ≤ 32) : askStartCost k < UInt32.size := by
  have each : ∀ n < 33, askStartCost n < UInt32.size := by decide
  exact each k (by omega)

end Costs

section Ways

variable {k : Nat} {ground : Ground} {seat dest : Seat} {letter : Letter} {n : Nat}
  {target next : Endpoint}

/-- A letter costs less on its way than at its start. -/
theorem cost_lt_start (half : 0 < k / 2) (hs : Sits k ground seat) (hd : Sits k ground dest)
    (way : OnWay k seat dest n target) (pod position port : Nat) :
    Letter.cost k (.ofEndpoint k target) letter <
      Letter.cost k (.edgeLower pod position port) letter := by
  obtain ⟨hp, he, hi⟩ := hd.within
  have edge := askHostCost_lt half
  have aggregation := askEdgeCost_lt half
  have core := askAggregationCost_lt half
  have start := askCoreCost_lt half
  cases way with
  | arrived =>
    rw [Seat.line, Stop.ofEndpoint_host hd.beyond]
    cases letter <;> simp only [Letter.cost, dataCost, answerCost, askCost] <;> omega
  | landing hj _ =>
    rw [Stop.ofEndpoint_edge hp he]
    cases letter <;> simp only [Letter.cost, dataCost, answerCost, askCost] <;> omega
  | turning ha pod _ =>
    rw [Stop.ofEndpoint_aggregation hp ha]
    cases letter <;> simp only [Letter.cost, dataCost, answerCost, askCost] <;> omega
  | descending ha hi _ =>
    rw [Stop.ofEndpoint_aggregation hp ha]
    cases letter <;> simp only [Letter.cost, dataCost, answerCost, askCost] <;> omega
  | crossing ha hi _ =>
    rw [Stop.ofEndpoint_core (coreIndex_lt ha hi)]
    cases letter <;> simp only [Letter.cost, dataCost, answerCost, askCost] <;> omega
  | climbing ha pod =>
    rw [Stop.ofEndpoint_aggregation hs.within.1 ha]
    cases letter <;> simp only [Letter.cost, dataCost, answerCost, askCost] <;> omega

/-- A hop makes a letter cheaper. -/
theorem cost_lt_hop (half : 0 < k / 2) (hs : Sits k ground seat) (hd : Sits k ground dest)
    (way : OnWay k seat dest (n + 1) target) (later : OnWay k seat dest n next) :
    Letter.cost k (.ofEndpoint k next) letter < Letter.cost k (.ofEndpoint k target) letter := by
  obtain ⟨hp, he, hi⟩ := hd.within
  have edge := askHostCost_lt half
  have aggregation := askEdgeCost_lt half
  have core := askAggregationCost_lt half
  cases way with
  | landing hj _ =>
    cases later with
    | arrived =>
      rw [Seat.line, Stop.ofEndpoint_host hd.beyond, Stop.ofEndpoint_edge hp he]
      cases letter <;> simp only [Letter.cost, dataCost, answerCost, askCost] <;> omega
  | turning ha pod _ =>
    cases later with
    | landing hj _ =>
      rw [Stop.ofEndpoint_edge hp he, Stop.ofEndpoint_aggregation hp ha]
      cases letter <;> simp only [Letter.cost, dataCost, answerCost, askCost] <;> omega
  | descending ha hi _ =>
    cases later with
    | landing hj _ =>
      rw [Stop.ofEndpoint_edge hp he, Stop.ofEndpoint_aggregation hp ha]
      cases letter <;> simp only [Letter.cost, dataCost, answerCost, askCost] <;> omega
  | crossing ha hi pod =>
    cases later with
    | turning _ same _ => exact absurd same pod
    | descending ha' hi' _ =>
      rw [Stop.ofEndpoint_aggregation hp ha', Stop.ofEndpoint_core (coreIndex_lt ha hi)]
      cases letter <;> simp only [Letter.cost, dataCost, answerCost, askCost] <;> omega
  | climbing ha pod =>
    cases later with
    | crossing ha' hi' _ =>
      rw [Stop.ofEndpoint_core (coreIndex_lt ha' hi'), Stop.ofEndpoint_aggregation hs.within.1 ha]
      cases letter <;> simp only [Letter.cost, dataCost, answerCost, askCost] <;> omega

end Ways

/-! ## Every event weighs more than what it raises -/

/-- At most one piece of data waits at a seat for another one. -/
def Brief (k : Nat) (net : Network) : Prop :=
  ∀ a b : Seat, Sits k net.ground a → Sits k net.ground b →
    (waiting a net.hostAt? b.ip).length ≤ 1

section Reaction

variable {k : Nat} {net net' : Network} {event : Event} {who : Option Seat}
  {hosts : DeviceId → Option Host} {events : List Event}

/-- The weight of a letter that a seat has sent. -/
theorem weight_uplink {ground : Ground} {seat : Seat} (sits : Sits k ground seat) (letter : Letter)
    (src dst : MacAddress) (ip : Ipv4Address) :
    weight k (.frame (seat.uplink k) (letter.frame src ip dst)) =
      Letter.cost k (.edgeLower seat.place.pod seat.place.edge seat.place.port) letter := by
  rw [weight_letter, Seat.uplink, Seat.edge, Stop.ofEndpoint_edge sits.within.1 sits.within.2.1]

/-- The weight of a letter that arrives at a seat. -/
theorem weight_line {ground : Ground} {seat : Seat} (sits : Sits k ground seat) (letter : Letter)
    (src dst : MacAddress) (ip : Ipv4Address) :
    weight k (.frame seat.line (letter.frame src ip dst)) =
      Letter.cost k (.host seat.id) letter := by
  rw [weight_letter, Seat.line, Stop.ofEndpoint_host sits.beyond]

/-- The weight of a question that spreads. -/
theorem weight_flooded (target : Endpoint) (seat : Seat) (asked : Ipv4Address) :
    weight k (.frame target (flooded seat asked)) = askCost k (.ofEndpoint k target) :=
  rfl

/-- What a host releases for a seat is at most one frame. -/
theorem totalOf_released {price : Event → Nat} {bound : Nat} {seat dest : Seat} {host : Host}
    (brief : Brief k net) (hs : Sits k net.ground seat) (hd : Sits k net.ground dest)
    (here : net.hostAt? dest.id = some host)
    (each : ∀ bytes, price (.frame (dest.uplink k)
      ((Letter.data seat.ip bytes).frame dest.amac dest.ip seat.pmac.mac)) ≤ bound) :
    totalOf price (released k dest host seat) ≤ bound := by
  have few := brief dest seat hd hs
  rw [waiting, here, Option.elim_some] at few
  have total : totalOf price (released k dest host seat) ≤
      (released k dest host seat).length * bound := by
    apply totalOf_le
    intro raised mem
    obtain ⟨bytes, _, rfl⟩ := List.mem_map.mp mem
    exact each bytes
  rw [released, List.length_map] at total
  calc totalOf price (released k dest host seat)
    _ ≤ (host.pendingFor seat.ip).length * bound := total
    _ ≤ 1 * bound := Nat.mul_le_mul_right bound few
    _ = bound := Nat.one_mul bound

/-- **An event weighs more than all that it raises.** -/
theorem Reaction.weight_lt (reaction : Reaction k net event who hosts events) (sane : Sane k net)
    (brief : Brief k net) : totalOf (weight k) events < weight k event := by
  have half : 0 < k / 2 := by
    have := two_le_of_accepts sane.fabric.accepted
    omega
  have one : ∀ raised, totalOf (weight k) [raised] = weight k raised := by
    intro raised
    rw [totalOf_cons, totalOf_nil, Nat.add_zero]
  cases reaction with
  | enter hs hd _ _ way =>
    rw [one, weight_letter, weight_uplink hs]
    exact cost_lt_start half hs hd way _ _ _
  | hop hs hd _ _ _ way later =>
    rw [one, weight_letter, weight_letter]
    exact cost_lt_hop half hs hd way later
  | @miss seat asked hs =>
    have total := @totalOf_range_le _ (weight k)
      (fun c => .control (coreId k c) (.arpFlood asked seat.ip seat.pmac)) (k / 2 * (k / 2))
      (askCoreCost k) fun c _ => Nat.le_refl _
    rw [weight_uplink hs]
    show _ < askStartCost k
    unfold askStartCost
    omega
  | @order seat asked a i hs known ha hi =>
    have total := @totalOf_range_le _ (weight k)
      (fun pod => .frame ⟨aggregationId k pod a, .upper i⟩ (flooded seat asked)) k
      (askAggregationCost k) fun pod hp => by
        rw [weight_flooded, Stop.ofEndpoint_aggregation hp ha]
        exact Nat.le_refl _
    show _ < askCoreCost k
    unfold askCoreCost
    omega
  | @fan seat asked pod a i hs known hp ha hi =>
    have total := @totalOf_range_le _ (weight k)
      (fun e => .frame ⟨edgeId k pod e, .upper a⟩ (flooded seat asked)) (k / 2)
      (askEdgeCost k) fun e he => by
        rw [weight_flooded, Stop.ofEndpoint_edge hp he]
        exact Nat.le_refl _
    rw [weight_flooded, Stop.ofEndpoint_aggregation hp ha]
    show _ < askAggregationCost k
    unfold askAggregationCost
    omega
  | @offer seat asked pod e j hs known hp he hj =>
    have copies := List.length_filterMap_le (fun i =>
      (net.ground.peer? ⟨edgeId k pod e, .lower i⟩).map fun line =>
        Event.frame line (flooded seat asked)) (List.range (k / 2))
    rw [List.length_range] at copies
    rw [weight_flooded, Stop.ofEndpoint_edge hp he]
    refine Nat.lt_of_le_of_lt (@totalOf_le _ (weight k) _ askHostCost fun raised mem => ?_) ?_
    · obtain ⟨i, _, offered⟩ := List.mem_filterMap.mp mem
      obtain ⟨line, linked, rfl⟩ := Option.map_eq_some_iff.mp offered
      obtain ⟨dest, hd, _, rfl⟩ := sane.housed.attached hp he linked
      rw [weight_flooded, Seat.line, Stop.ofEndpoint_host hd.beyond]
      exact Nat.le_refl _
    · have := Nat.mul_le_mul_right askHostCost copies
      show _ < askEdgeCost k
      unfold askEdgeCost
      omega
  | data hs hd =>
    rw [weight_line hd]
    exact Nat.zero_lt_one
  | answered hs hd _ _ here =>
    have few : totalOf (weight k) (released k _ _ _) ≤ 6 :=
      totalOf_released brief hs hd here fun _ => Nat.le_of_eq (weight_uplink hd _ _ _ _)
    rw [weight_line hd]
    exact Nat.lt_succ_of_le few
  | asked hs hd _ _ here =>
    have few : totalOf (weight k) (released k _ _ _) ≤ 6 :=
      totalOf_released brief hs hd here fun _ => Nat.le_of_eq (weight_uplink hd _ _ _ _)
    rw [totalOf_append, one, weight_line hd, weight_uplink hd]
    show _ + 12 < 19
    omega
  | ignored hs hd =>
    rw [flooded, weight_line hd]
    exact Nat.succ_pos _

/-- No event makes more data wait. -/
theorem Brief.step {rest : EventQueue} (brief : Brief k net)
    (steps : Steps k net net' event rest who hosts events) : Brief k net' := by
  intro a b ha hb
  have ground : net'.ground = net.ground := steps.changed.ground
  have there : net'.hostAt? = hosts := funext steps.changed.hosts
  rw [ground] at ha hb
  rw [there]
  rcases steps.reaction.waiting_cases a b.ip with same | none_left
  · rw [same]
    exact brief a b ha hb
  · rw [none_left]
    exact Nat.zero_le 1

end Reaction

/-! ## Runs -/

section Runs

variable {k n : Nat} {net : Network} {P : Network → Prop} {price : Event → Nat}

/-- **A run with a budget beyond the price of the queue ends well**, if every event costs more than
all that it raises. -/
theorem Legit.run_ok
    (pays : ∀ {net net' event rest who hosts events}, Legit k net → P net →
      Steps k net net' event rest who hosts events →
      P net' ∧ totalOf price events < price event)
    (legit : Legit k net) (start : P net) (enough : totalOf price net.queue.toList < n) :
    (Network.run n net).1 = .ok () := by
  induction n generalizing net with
  | zero => cases enough
  | succ n ih =>
    rcases legit.step with ⟨_, stuck⟩ | ⟨net', event, rest, who, hosts, events, done, steps, after⟩
    · simp only [Network.run, stuck]
    · obtain ⟨holds, lighter⟩ := pays legit start steps
      have queue : net'.queue.toList = rest.toList ++ events := steps.changed.queue
      have less : totalOf price net'.queue.toList < n := by
        rw [steps.queue, totalOf_cons] at enough
        rw [queue, totalOf_append]
        omega
      simp only [Network.run, done]
      exact ih after holds less

/-- **A run with a budget below the price of the queue stops before its end**, if every event costs
at most one more than all that it raises. -/
theorem Legit.run_exhausted
    (owes : ∀ {net net' event rest who hosts events}, Legit k net → P net →
      Steps k net net' event rest who hosts events →
      P net' ∧ price event ≤ totalOf price events + 1)
    (legit : Legit k net) (start : P net) (short : n < totalOf price net.queue.toList) :
    (Network.run n net).1 = .error .noConvergence := by
  have waits : net.queue.toList ≠ [] := by
    intro empty
    rw [empty] at short
    cases short
  induction n generalizing net with
  | zero =>
    have busy : ¬ net.queue.isEmpty = true := fun empty => waits (EventQueue.isEmpty_iff.mp empty)
    rw [Network.run, if_neg busy]
  | succ n ih =>
    rcases legit.step with ⟨empty, _⟩ | ⟨net', event, rest, who, hosts, events, done, steps, after⟩
    · exact absurd empty waits
    · obtain ⟨holds, heavier⟩ := owes legit start steps
      have queue : net'.queue.toList = rest.toList ++ events := steps.changed.queue
      have more : n < totalOf price net'.queue.toList := by
        rw [steps.queue, totalOf_cons] at short
        rw [queue, totalOf_append]
        omega
      simp only [Network.run, done]
      refine ih after holds more ?_
      intro empty
      rw [empty] at more
      cases more

end Runs

/-! ## Postings -/

/-- An address has 32 bits. -/
theorem toNat_lt (ip : Ipv4Address) : ip.toNat < UInt32.size := by
  have := ip.a.toNat_lt
  have := ip.b.toNat_lt
  have := ip.c.toNat_lt
  have := ip.d.toNat_lt
  unfold Ipv4Address.toNat UInt32.size
  omega

/-- There are no more different addresses than there are numbers for them. -/
theorem length_le_of_nodup {ips : List Ipv4Address} (distinct : ips.Nodup) :
    ips.length ≤ UInt32.size := by
  have numbers : (ips.map Ipv4Address.toNat).Nodup :=
    List.pairwise_map.mpr (distinct.imp fun apart same => apart (Ipv4Address.toNat_inj.mp same))
  have within : ips.map Ipv4Address.toNat ⊆ List.range UInt32.size := by
    intro n mem
    obtain ⟨ip, _, rfl⟩ := List.mem_map.mp mem
    exact List.mem_range.mpr (toNat_lt ip)
  have few := numbers.length_le_of_subset within
  rwa [List.length_map, List.length_range] at few

/-- **What a host posts weighs less than there are 64-bit numbers.** -/
theorem Posts.weight_lt {k : Nat} {net : Network} {operation : Operation} {seat : Seat}
    {host : Host} {events : List Event} (posts : Posts k net operation seat host events)
    (small : k ≤ 32) : totalOf (weight k) events < UInt64.size := by
  have start := askStartCost_lt small
  cases posts with
  | data hs =>
    rw [totalOf_cons, weight_uplink hs]
    exact Nat.le_of_ble_eq_true rfl
  | first hs =>
    rw [totalOf_cons, weight_uplink hs]
    exact Nat.lt_trans start (by decide)
  | more => exact Nat.zero_lt_succ _
  | @again seat host hs here =>
    have few := length_le_of_nodup host.pending.nodup_keys
    refine Nat.lt_of_le_of_lt (@totalOf_le _ (weight k) _ (askStartCost k) fun event mem => ?_) ?_
    · obtain ⟨ip, _, rfl⟩ := List.mem_map.mp mem
      rw [weight_uplink hs]
      exact Nat.le_refl _
    · rw [List.length_map]
      calc host.pending.keys.length * askStartCost k
        _ ≤ UInt32.size * askStartCost k := Nat.mul_le_mul_right _ few
        _ < UInt32.size * UInt32.size := Nat.mul_lt_mul_of_pos_left start (by decide)
        _ = UInt64.size := rfl

end FatTree

end PmacFabric
