import PmacFabric.Proofs.FatTree.Once

/-!
# What a miss of the directory costs

When the fabric manager does not know an address, every core switch floods the question, and in a
complete fat-tree every flood reaches every host. The events of these floods are counted from both
sides. `owed` is the number of copies that an event leads to at the least, and an event owes no
copies that it does not raise (`Reaction.owed_le`). `toll` is a bound from above that is much closer
than `weight`: copies of a question lead to answers only where they go to the one host that is asked
for (`Reaction.toll_lt`).
-/

namespace PmacFabric.FatTree

open Network (Ground)

/-! ## Copies -/

section Costs

variable (k : Nat)

/-- The copies of a flooded question from a stop on, itself included, if all places are taken. -/
def spreadCost : Stop → Nat
  | .host _ => 1
  | .edgeUpper _ _ => 1 + k / 2
  | .aggregationUpper _ => 1 + k / 2 * (1 + k / 2)
  | _ => 0

/-- The events of the flood of one core switch, if all places are taken. -/
def floodCost : Nat := 1 + k * (1 + k / 2 * (1 + k / 2))

/-- The events of the floods of all core switches. -/
def missCost : Nat := k / 2 * (k / 2) * floodCost k

/-- The copies of a flooded question that an event leads to at the least, itself included. -/
def owed : Event → Nat
  | .frame target frame =>
    if frame.dst = .broadcast then spreadCost k (.ofEndpoint k target) else 0
  | .control _ _ => floodCost k

end Costs

section Owed

variable {k : Nat} {net : Network} {event : Event} {who : Option Seat}
  {hosts : DeviceId → Option Host} {events : List Event}

/-- Nothing that a host sends is a copy. -/
theorem owed_uplink {ground : Ground} {seat : Seat} (sits : Sits k ground seat) (frame : Frame) :
    owed k (.frame (seat.uplink k) frame) = 0 := by
  rw [owed, Seat.uplink, Seat.edge, Stop.ofEndpoint_edge sits.within.1 sits.within.2.1]
  exact ite_self 0

/-- Of all copies, a host gets one. -/
theorem owed_line {ground : Ground} {seat : Seat} (sits : Sits k ground seat) (frame : Frame) :
    owed k (.frame seat.line frame) ≤ 1 := by
  rw [owed, Seat.line, Stop.ofEndpoint_host sits.beyond]
  split
  · exact Nat.le_refl 1
  · exact Nat.zero_le 1

/-- A copy of a flooded question owes what is below its stop. -/
theorem owed_flooded (target : Endpoint) (seat : Seat) (asked : Ipv4Address) :
    owed k (.frame target (flooded seat asked)) = spreadCost k (.ofEndpoint k target) := by
  rw [flooded, owed, Letter.dst_frame, if_pos rfl]

/-- **In a complete fat-tree an event raises all copies that it owes.** -/
theorem Reaction.owed_le (reaction : Reaction k net event who hosts events)
    (complete : Complete k net.ground) : owed k event ≤ totalOf (owed k) events + 1 := by
  cases reaction with
  | enter hs => exact owed_uplink hs _ ▸ Nat.zero_le _
  | miss hs => exact owed_uplink hs _ ▸ Nat.zero_le _
  | @hop seat dest letter n =>
    have directed : dest.address (n + 1) ≠ .broadcast := pmac_ne_broadcast dest
    rw [owed, Letter.dst_frame, if_neg directed]
    exact Nat.zero_le _
  | @order seat asked a i _ _ ha _ =>
    have copies : k * (1 + k / 2 * (1 + k / 2)) ≤ totalOf _ (List.range k) :=
      le_totalOf_range fun pod hp => by
        show _ ≤ owed k (.frame ⟨aggregationId k pod a, .upper i⟩ (flooded seat asked))
        rw [owed_flooded, Stop.ofEndpoint_aggregation hp ha]
        exact Nat.le_refl _
    rw [totalOf_map, owed, floodCost, Nat.add_comm]
    exact Nat.succ_le_succ copies
  | @fan seat asked pod a i _ _ hp ha _ =>
    have copies : k / 2 * (1 + k / 2) ≤ totalOf _ (List.range (k / 2)) :=
      le_totalOf_range fun e he => by
        show _ ≤ owed k (.frame ⟨edgeId k pod e, .upper a⟩ (flooded seat asked))
        rw [owed_flooded, Stop.ofEndpoint_edge hp he]
        exact Nat.le_refl _
    rw [totalOf_map, owed_flooded, Stop.ofEndpoint_aggregation hp ha, spreadCost, Nat.add_comm]
    exact Nat.succ_le_succ copies
  | @offer seat asked pod e j _ _ hp he _ =>
    have copies : k / 2 * 1 ≤ totalOf _ (List.range (k / 2)) :=
      le_totalOf_range fun i hi => by
        show _ ≤ Option.elim ((net.ground.peer? ⟨edgeId k pod e, .lower i⟩).map fun line =>
          Event.frame line (flooded seat asked)) 0 (owed k)
        obtain ⟨dest, sits, place⟩ := @complete ⟨pod, e, i⟩ ⟨hp, he, hi⟩
        have line := sits.peer
        rw [Seat.uplink, Seat.edge, place] at line
        rw [line, Option.map_some, Option.elim_some, owed_flooded, Seat.line,
          Stop.ofEndpoint_host sits.beyond]
        exact Nat.le_refl 1
    rw [totalOf_filterMap, owed_flooded, Stop.ofEndpoint_edge hp he, spreadCost, Nat.add_comm]
    rw [Nat.mul_one] at copies
    exact Nat.succ_le_succ copies
  | data _ hd => exact Nat.le_add_left_of_le (owed_line hd _)
  | answered _ hd => exact Nat.le_add_left_of_le (owed_line hd _)
  | asked _ hd => exact Nat.le_add_left_of_le (owed_line hd _)
  | ignored _ hd => exact Nat.le_add_left_of_le (owed_line hd _)

/-- A miss owes all copies of the floods of all core switches. -/
theorem owed_orders (seat : Seat) (asked : Ipv4Address) :
    totalOf (owed k) ((List.range (k / 2 * (k / 2))).map fun c =>
      .control (coreId k c) (.arpFlood asked seat.ip seat.pmac)) ≥ missCost k := by
  rw [totalOf_map]
  exact le_totalOf_range fun _ _ => Nat.le_refl _

end Owed

/-! ## Tolls -/

section Toll

variable (k : Nat) (ground : Ground)

open scoped Classical in
/-- What a copy of a question leads to besides copies: from a stop that leads to the host asked for,
an answer of that host and the data that waits for it. -/
noncomputable def lure (asked : Ipv4Address) (stop : Stop) : Nat :=
  if ∃ seat : Seat, Sits k ground seat ∧ seat.ip = asked ∧ stop.LeadsTo seat then 18 else 0

/-- The events of a question for `asked`, under a hardware address. -/
noncomputable def askToll (asked : Ipv4Address) (dst : MacAddress) : Stop → Nat
  | .edgeLower _ _ _ => 24 + k / 2 * (k / 2) * (floodCost k + 18)
  | stop =>
    if dst = .broadcast then spreadCost k stop + lure k ground asked stop else dataCost stop + 18

noncomputable def Letter.toll (stop : Stop) (dst : MacAddress) : Letter → Nat
  | .data _ _ => dataCost stop
  | .answer _ => answerCost stop
  | .question asked => askToll k ground asked dst stop

/-- A bound on the events that an event leads to, itself included. -/
noncomputable def toll : Event → Nat
  | .frame target ⟨_, dst, .arp arp⟩ =>
    if arp.isRequest then askToll k ground arp.targetIp dst (.ofEndpoint k target)
    else answerCost (.ofEndpoint k target)
  | .frame target _ => dataCost (.ofEndpoint k target)
  | .control _ _ => floodCost k + 18

/-- The toll of a letter depends on its stop and on the address it is sent to. -/
theorem toll_letter (letter : Letter) (target : Endpoint) (src dst : MacAddress)
    (ip : Ipv4Address) :
    toll k ground (.frame target (letter.frame src ip dst)) =
      Letter.toll k ground (.ofEndpoint k target) dst letter := by
  cases letter <;> rfl

end Toll

section Lure

variable {k : Nat} {ground : Ground} {asked : Ipv4Address} {stop next : Stop} {seat : Seat}

/-- What a copy leads to besides copies is at most 18 events. -/
theorem lure_le (asked : Ipv4Address) (stop : Stop) : lure k ground asked stop ≤ 18 := by
  unfold lure
  split
  · exact Nat.le_refl 18
  · exact Nat.zero_le 18

/-- A copy that reaches the host asked for is answered. -/
theorem lure_line (sits : Sits k ground seat) : lure k ground seat.ip (.host seat.id) = 18 :=
  if_pos ⟨seat, sits, rfl, rfl⟩

/-- Whoever is asked for is found from a stop with a lure. -/
theorem exists_of_lure (lured : 0 < lure k ground asked stop) :
    ∃ seat : Seat, Sits k ground seat ∧ seat.ip = asked ∧ stop.LeadsTo seat := by
  unfold lure at lured
  split at lured
  · assumption
  · cases lured

/-- A lure is there on the whole way to whom it leads to. -/
theorem lure_mono (later : ∀ seat, Sits k ground seat → next.LeadsTo seat → stop.LeadsTo seat) :
    lure k ground asked next ≤ lure k ground asked stop := by
  by_cases lured : 0 < lure k ground asked next
  · obtain ⟨seat, sits, own, leads⟩ := exists_of_lure lured
    have found : lure k ground asked stop = 18 := if_pos ⟨seat, sits, own, later seat sits leads⟩
    rw [found]
    exact lure_le asked next
  · exact Nat.le_trans (Nat.not_lt.mp lured) (Nat.zero_le _)

end Lure

/-- The events that a letter leads to after its arrival. -/
def Letter.surcharge : Letter → Nat
  | .data _ _ => 0
  | .answer _ => 6
  | .question _ => 18

/-- What follows the arrival of a letter costs at most 18 events. -/
theorem Letter.surcharge_le (letter : Letter) : Letter.surcharge letter ≤ 18 := by
  cases letter <;> exact Nat.le_of_ble_eq_true rfl

section Letters

variable {k n : Nat} {ground : Ground} {seat dest : Seat} {letter : Letter} {target next : Endpoint}

/-- The toll of a letter that its sender has just put on the link. -/
theorem toll_uplink (sits : Sits k ground seat) (letter : Letter) (src dst : MacAddress)
    (ip : Ipv4Address) :
    toll k ground (.frame (seat.uplink k) (letter.frame src ip dst)) =
      Letter.toll k ground (.edgeLower seat.place.pod seat.place.edge seat.place.port) dst
        letter := by
  rw [toll_letter, Seat.uplink, Seat.edge, Stop.ofEndpoint_edge sits.within.1 sits.within.2.1]

/-- The toll of a letter that waits at its destination. -/
theorem toll_line (sits : Sits k ground seat) (letter : Letter) (src dst : MacAddress)
    (ip : Ipv4Address) :
    toll k ground (.frame seat.line (letter.frame src ip dst)) =
      Letter.toll k ground (.host seat.id) dst letter := by
  rw [toll_letter, Seat.line, Stop.ofEndpoint_host sits.beyond]

/-- A copy of a question pays for its copies, and for the answer that it may lead to. -/
theorem askToll_copy {asked : Ipv4Address} (stop : Stop)
    (above : ∀ pod position port, stop ≠ .edgeLower pod position port) :
    askToll k ground asked .broadcast stop = spreadCost k stop + lure k ground asked stop := by
  cases stop with
  | edgeLower => exact absurd rfl (above _ _ _)
  | _ => simp only [askToll, if_true]

/-- The toll of a copy that comes down to an aggregation switch: itself, all copies below, and the
answer if the host asked for is below. -/
theorem toll_aggregation {pod a : Nat} (hp : pod < k) (ha : a < k / 2) (i : Nat) (seat : Seat)
    (asked : Ipv4Address) :
    toll k ground (.frame ⟨aggregationId k pod a, .upper i⟩ (flooded seat asked)) =
      1 + k / 2 * (1 + k / 2) + lure k ground asked (.aggregationUpper pod) := by
  rw [flooded, toll_letter, Stop.ofEndpoint_aggregation hp ha]
  exact askToll_copy (.aggregationUpper pod) (by simp)

/-- The toll of a copy that comes down to an edge switch: as at an aggregation switch, one stop
further. -/
theorem toll_edge {pod e : Nat} (hp : pod < k) (he : e < k / 2) (j : Nat) (seat : Seat)
    (asked : Ipv4Address) :
    toll k ground (.frame ⟨edgeId k pod e, .upper j⟩ (flooded seat asked)) =
      1 + k / 2 + lure k ground asked (.edgeUpper pod e) := by
  rw [flooded, toll_letter, Stop.ofEndpoint_edge hp he]
  exact askToll_copy (.edgeUpper pod e) (by simp)

/-- The toll of a copy that a host gets: itself, and the answer if it is the host asked for. -/
theorem toll_host (sits : Sits k ground dest) (seat : Seat) (asked : Ipv4Address) :
    toll k ground (.frame dest.line (flooded seat asked)) =
      1 + lure k ground asked (.host dest.id) := by
  rw [flooded, toll_line sits]
  exact askToll_copy (.host dest.id) (by simp)

/-- At its destination a question pays for the answer, under whatever address it has come. -/
theorem askToll_line (sits : Sits k ground seat) (dst : MacAddress) :
    askToll k ground seat.ip dst (.host seat.id) = 19 := by
  simp only [askToll, lure_line sits, spreadCost, dataCost, ite_self]

/-- A question that is not a copy pays for its hops and for the answer. -/
theorem askToll_directed {asked : Ipv4Address} {dst : MacAddress} (stop : Stop)
    (above : ∀ pod position port, stop ≠ .edgeLower pod position port)
    (directed : dst ≠ .broadcast) :
    askToll k ground asked dst stop = dataCost stop + 18 := by
  cases stop with
  | edgeLower => exact absurd rfl (above _ _ _)
  | _ => simp only [askToll, if_neg directed]

/-- At its start a letter pays for six hops at the least, and for what it leads to at its end. -/
theorem surcharge_le_toll (letter : Letter) (pod position port : Nat) (dst : MacAddress) :
    6 + Letter.surcharge letter ≤
      Letter.toll k ground (.edgeLower pod position port) dst letter := by
  cases letter with
  | data => exact Nat.le_refl 6
  | answer => exact Nat.le_refl 12
  | question => exact Nat.le_add_right 24 _

/-- **A letter on its way pays for its hops, and for what it leads to at its end.** -/
theorem toll_onWay (hs : Sits k ground seat) (hd : Sits k ground dest)
    (bound : letter.dst = dest.ip) (way : OnWay k seat dest n target) (src : MacAddress)
    (ip : Ipv4Address) :
    toll k ground (.frame target (letter.frame src ip (dest.address n))) =
      dataCost (.ofEndpoint k target) + Letter.surcharge letter := by
  obtain ⟨hp, he, -⟩ := hd.within
  rw [toll_letter]
  cases letter with
  | data => rfl
  | answer => rfl
  | question asked =>
    cases bound
    show askToll k ground dest.ip (dest.address n) _ = dataCost _ + 18
    have directed : dest.pmac.mac ≠ .broadcast := pmac_ne_broadcast dest
    cases way with
    | arrived =>
      rw [Seat.line, Stop.ofEndpoint_host hd.beyond]
      exact askToll_line hd dest.amac
    | landing =>
      rw [Stop.ofEndpoint_edge hp he]
      exact askToll_directed (.edgeUpper _ _) (by simp) directed
    | turning ha =>
      rw [Stop.ofEndpoint_aggregation hp ha]
      exact askToll_directed (.aggregationLower _ _) (by simp) directed
    | descending ha =>
      rw [Stop.ofEndpoint_aggregation hp ha]
      exact askToll_directed (.aggregationUpper _) (by simp) directed
    | crossing ha hi =>
      rw [Stop.ofEndpoint_core (coreIndex_lt ha hi)]
      exact askToll_directed (.core _) (by simp) directed
    | climbing ha =>
      rw [Stop.ofEndpoint_aggregation hs.within.1 ha]
      exact askToll_directed (.aggregationLower _ _) (by simp) directed

/-- Past the port of its sender, data costs at most five events. -/
theorem dataCost_onWay (half : 0 < k / 2) (hs : Sits k ground seat) (hd : Sits k ground dest)
    (way : OnWay k seat dest n target) : dataCost (.ofEndpoint k target) < 6 :=
  @cost_lt_start k ground seat dest (.data dest.ip []) n target half hs hd way 0 0 0

/-- Data costs less after every hop. -/
theorem dataCost_hop (half : 0 < k / 2) (hs : Sits k ground seat) (hd : Sits k ground dest)
    (way : OnWay k seat dest (n + 1) target) (later : OnWay k seat dest n next) :
    dataCost (.ofEndpoint k next) < dataCost (.ofEndpoint k target) :=
  @cost_lt_hop k ground seat dest (.data dest.ip []) n target next half hs hd way later

end Letters

section Reaction

variable {k : Nat} {net : Network} {event : Event} {who : Option Seat}
  {hosts : DeviceId → Option Host} {events : List Event}

/-- The copies that an edge switch offers cost one event each, and an answer if one of them reaches
the host that is asked for. -/
theorem toll_offered (sane : Sane k net) (seat : Seat) (asked : Ipv4Address) {pod e : Nat}
    (hp : pod < k) (he : e < k / 2) :
    totalOf (toll k net.ground) ((List.range (k / 2)).filterMap fun i =>
        (net.ground.peer? ⟨edgeId k pod e, .lower i⟩).map fun line =>
          .frame line (flooded seat asked)) ≤
      k / 2 * 1 + lure k net.ground asked (.edgeUpper pod e) := by
  have offered : ∀ i, ∃ cost, cost = Option.elim
      ((net.ground.peer? ⟨edgeId k pod e, .lower i⟩).map fun line =>
        Event.frame line (flooded seat asked)) 0 (toll k net.ground) ∧
      (cost = 0 ∨ ∃ dest : Seat, Sits k net.ground dest ∧ dest.place = ⟨pod, e, i⟩ ∧
        cost = 1 + lure k net.ground asked (.host dest.id)) := by
    intro i
    refine ⟨_, rfl, ?_⟩
    cases linked : net.ground.peer? ⟨edgeId k pod e, .lower i⟩ with
    | none => exact .inl rfl
    | some line =>
      obtain ⟨dest, hd, place, rfl⟩ := sane.housed.attached hp he linked
      exact .inr ⟨dest, hd, place, toll_host hd seat asked⟩
  rw [totalOf_filterMap]
  apply totalOf_range_le_add
  · intro i _
    obtain ⟨cost, rfl, free | ⟨dest, hd, place, paid⟩⟩ := offered i
    · rw [free]
      exact Nat.zero_le _
    · have leads := @lure_mono k net.ground asked (.edgeUpper pod e) (.host dest.id)
        fun home sits same => by
          cases hd.eq_of_id sits same
          rw [Stop.LeadsTo, place]
          exact ⟨rfl, rfl⟩
      rw [paid]
      exact Nat.add_le_add_left leads 1
  · intro i _ j _ more more'
    obtain ⟨cost, rfl, free | ⟨dest, hd, place, paid⟩⟩ := offered i
    · rw [free] at more
      cases more
    · obtain ⟨cost', rfl, free' | ⟨dest', hd', place', paid'⟩⟩ := offered j
      · rw [free'] at more'
        cases more'
      · rw [paid] at more
        rw [paid'] at more'
        obtain ⟨home, sits, own, same⟩ := exists_of_lure (Nat.lt_of_add_lt_add_left more)
        obtain ⟨home', sits', own', same'⟩ := exists_of_lure (Nat.lt_of_add_lt_add_left more')
        cases sane.housed.eq_of_ip sits sits' (own.trans own'.symm)
        cases hd.eq_of_id sits same
        cases hd'.eq_of_id sits' same'
        rw [place] at place'
        cases place'
        rfl

/-- **An event pays for all that it raises.** -/
theorem Reaction.toll_lt (reaction : Reaction k net event who hosts events) (sane : Sane k net)
    (brief : Brief k net) :
    totalOf (toll k net.ground) events < toll k net.ground event := by
  have half : 0 < k / 2 := by
    have := two_le_of_accepts sane.fabric.accepted
    omega
  have one : ∀ raised, totalOf (toll k net.ground) [raised] = toll k net.ground raised := by
    intro raised
    rw [totalOf_cons, totalOf_nil, Nat.add_zero]
  cases reaction with
  | @enter seat dest letter dst n target hs hd _ bound way =>
    have near := dataCost_onWay half hs hd way
    rw [one, toll_onWay hs hd bound way, toll_uplink hs]
    exact Nat.lt_of_lt_of_le (Nat.add_lt_add_right near _) (surcharge_le_toll letter _ _ _ dst)
  | hop hs hd _ _ bound way later =>
    rw [one, toll_onWay hs hd bound later, toll_onWay hs hd bound way]
    exact Nat.add_lt_add_right (dataCost_hop half hs hd way later) _
  | @miss seat asked hs =>
    have total := @totalOf_range_le _ (toll k net.ground)
      (fun c => .control (coreId k c) (.arpFlood asked seat.ip seat.pmac)) (k / 2 * (k / 2))
      (floodCost k + 18) fun c _ => Nat.le_refl _
    rw [toll_uplink hs]
    exact Nat.lt_of_le_of_lt total (Nat.lt_add_of_pos_left (by decide))
  | @order seat asked a i hs known ha hi =>
    have paid : ∀ pod < k, toll k net.ground
        (.frame ⟨aggregationId k pod a, .upper i⟩ (flooded seat asked)) =
          1 + k / 2 * (1 + k / 2) + lure k net.ground asked (.aggregationUpper pod) :=
      fun pod hp => toll_aggregation hp ha i seat asked
    rw [totalOf_map, toll, floodCost, Nat.add_assoc, Nat.add_comm 1]
    refine Nat.lt_succ_of_le (totalOf_range_le_add (fun pod hp => ?_) ?_)
    · rw [paid pod hp]
      exact Nat.add_le_add_left (lure_le _ _) _
    · intro pod hp pod' hp' more more'
      rw [paid pod hp] at more
      rw [paid pod' hp'] at more'
      obtain ⟨home, sits, own, rfl⟩ := exists_of_lure (Nat.lt_of_add_lt_add_left more)
      obtain ⟨home', sits', own', rfl⟩ := exists_of_lure (Nat.lt_of_add_lt_add_left more')
      cases sane.housed.eq_of_ip sits sits' (own.trans own'.symm)
      rfl
  | @fan seat asked pod a i hs known hp ha hi =>
    have paid : ∀ e < k / 2, toll k net.ground
        (.frame ⟨edgeId k pod e, .upper a⟩ (flooded seat asked)) =
          1 + k / 2 + lure k net.ground asked (.edgeUpper pod e) :=
      fun e he => toll_edge hp he a seat asked
    rw [totalOf_map, toll_aggregation hp ha, Nat.add_assoc, Nat.add_comm 1]
    refine Nat.lt_succ_of_le (totalOf_range_le_add (fun e he => ?_) ?_)
    · have leads := @lure_mono k net.ground asked (.aggregationUpper pod) (.edgeUpper pod e)
        fun home _ leads => leads.1
      rw [paid e he]
      exact Nat.add_le_add_left leads _
    · intro e he e' he' more more'
      rw [paid e he] at more
      rw [paid e' he'] at more'
      obtain ⟨home, sits, own, -, rfl⟩ := exists_of_lure (Nat.lt_of_add_lt_add_left more)
      obtain ⟨home', sits', own', -, rfl⟩ := exists_of_lure (Nat.lt_of_add_lt_add_left more')
      cases sane.housed.eq_of_ip sits sits' (own.trans own'.symm)
      rfl
  | @offer seat asked pod e j hs known hp he hj =>
    have total := toll_offered sane seat asked hp he
    rw [toll_edge hp he]
    omega
  | data hs hd =>
    rw [toll_line hd]
    exact Nat.zero_lt_one
  | answered hs hd _ _ here =>
    have few : totalOf (toll k net.ground) (released k _ _ _) ≤ 6 :=
      totalOf_released brief hs hd here fun _ => Nat.le_of_eq (toll_uplink hd _ _ _ _)
    rw [toll_line hd]
    exact Nat.lt_succ_of_le few
  | asked hs hd _ _ here =>
    have few : totalOf (toll k net.ground) (released k _ _ _) ≤ 6 :=
      totalOf_released brief hs hd here fun _ => Nat.le_of_eq (toll_uplink hd _ _ _ _)
    rw [totalOf_append, one, toll_line hd, toll_uplink hd, Letter.toll, Letter.toll,
      askToll_line hd]
    show _ + 12 < 19
    omega
  | ignored hs hd =>
    rw [toll_host hd]
    exact Nat.lt_of_lt_of_le Nat.zero_lt_one (Nat.le_add_right _ _)

end Reaction

end PmacFabric.FatTree
