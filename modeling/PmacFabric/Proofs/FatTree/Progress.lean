import PmacFabric.Proofs.FatTree.Order

/-!
# Data waits for something

Data that waits at a seat for another seat waits for an event in the queue: the question of its
sender on its way there, or the answer on its way back. A flooded question spreads to all places, and
only the copies that go down to the right one count; `LeadsTo` says which stops those pass.
`Reaction.hopeful` says that such an event is followed by another one until the data is released, so
in a fat-tree without late hosts nothing waits for a seat once the queue is empty
(**`Progressing.waiting_eq_nil`**).
-/

namespace PmacFabric

/-- Who asks for whose address in an event. -/
def Event.asks? : Event → Option (Ipv4Address × Ipv4Address)
  | .frame _ ⟨_, _, .arp ⟨.request, _, asker, _, asked⟩⟩ => some (asker, asked)
  | .control _ (.arpFlood asked asker _) => some (asker, asked)
  | _ => none

/-- Whom an event answers, and about whose address. -/
def Event.answers? : Event → Option (Ipv4Address × Ipv4Address)
  | .frame _ ⟨_, _, .arp ⟨.reply, _, asked, _, asker⟩⟩ => some (asker, asked)
  | _ => none

namespace FatTree

open Network (Ground)

/-- Whether a question that goes only down from a stop reaches a seat. -/
def Stop.LeadsTo (seat : Seat) : Stop → Prop
  | .edgeUpper pod position => pod = seat.place.pod ∧ position = seat.place.edge
  | .aggregationUpper pod => pod = seat.place.pod
  | .host id => id = seat.id
  | _ => True

/-- Whether an event is at a stop that leads to a seat. -/
def LeadsTo (k : Nat) (seat : Seat) : Event → Prop
  | .frame target _ => (Stop.ofEndpoint k target).LeadsTo seat
  | .control _ _ => True

/-- The question of `a` for `b` on its way there, or the answer on its way back. -/
def Hopeful (k : Nat) (a b : Seat) (event : Event) : Prop :=
  event.asks? = some (a.ip, b.ip) ∧ LeadsTo k b event ∨ event.answers? = some (a.ip, b.ip)

/-- Whatever waits at a seat for another one waits for an event in the queue. -/
def Progressing (k : Nat) (net : Network) : Prop :=
  ∀ a b : Seat, Sits k net.ground a → Sits k net.ground b → waiting a net.hostAt? b.ip ≠ [] →
    ∃ event ∈ net.queue.toList, Hopeful k a b event

section Letters

variable {k : Nat} {ground : Ground} {a b seat dest : Seat}

/-- What a letter asks or answers does not depend on where it is. -/
theorem asks?_letter (letter : Letter) (ip : Ipv4Address) (target next : Endpoint)
    (src dst src' dst' : MacAddress) :
    (Event.frame target (letter.frame src ip dst)).asks? =
      (Event.frame next (letter.frame src' ip dst')).asks? := by
  cases letter <;> rfl

/-- Whom a letter answers does not depend on where it is, nor on the addresses it travels under. -/
theorem answers?_letter (letter : Letter) (ip : Ipv4Address) (target next : Endpoint)
    (src dst src' dst' : MacAddress) :
    (Event.frame target (letter.frame src ip dst)).answers? =
      (Event.frame next (letter.frame src' ip dst')).answers? := by
  cases letter <;> rfl

/-- A letter that asks for somebody is for him. -/
theorem dst_of_asks? {letter : Letter} {ip : Ipv4Address} {target : Endpoint}
    {src dst : MacAddress} {asker asked : Ipv4Address}
    (asks : (Event.frame target (letter.frame src ip dst)).asks? = some (asker, asked)) :
    letter.dst = asked := by
  cases letter with
  | data => cases asks
  | answer => cases asks
  | question => exact (Prod.mk.inj (Option.some.inj asks)).2

/-- A letter on its way leads to its destination. -/
theorem leadsTo_of_onWay {n : Nat} {target : Endpoint} (hs : Sits k ground seat)
    (hd : Sits k ground dest) (way : OnWay k seat dest n target) :
    (Stop.ofEndpoint k target).LeadsTo dest := by
  obtain ⟨hp, he, hi⟩ := hd.within
  cases way with
  | arrived =>
    rw [Seat.line, Stop.ofEndpoint_host hd.beyond]
    rfl
  | landing hj _ =>
    rw [Stop.ofEndpoint_edge hp he]
    exact ⟨rfl, rfl⟩
  | turning ha pod _ =>
    rw [Stop.ofEndpoint_aggregation hp ha]
    trivial
  | descending ha hi _ =>
    rw [Stop.ofEndpoint_aggregation hp ha]
    rfl
  | crossing ha hi _ =>
    rw [Stop.ofEndpoint_core (coreIndex_lt ha hi)]
    trivial
  | climbing ha pod =>
    rw [Stop.ofEndpoint_aggregation hs.within.1 ha]
    trivial

/-- A letter that has made a hop is as hopeful as before. -/
theorem hopeful_hop {letter : Letter} {target next : Endpoint} {src dst src' dst' : MacAddress}
    {n : Nat} (housed : Housed k ground) (hb : Sits k ground b) (hs : Sits k ground seat)
    (hd : Sits k ground dest) (bound : letter.dst = dest.ip) (way : OnWay k seat dest n next)
    (hopeful : Hopeful k a b (.frame target (letter.frame src seat.ip dst))) :
    Hopeful k a b (.frame next (letter.frame src' seat.ip dst')) := by
  rcases hopeful with ⟨asks, _⟩ | answers
  · cases housed.eq_of_ip hd hb (bound.symm.trans (dst_of_asks? asks))
    exact .inl ⟨(asks?_letter letter _ _ _ _ _ _ _).trans asks, leadsTo_of_onWay hs hd way⟩
  · exact .inr ((answers?_letter letter _ _ _ _ _ _ _).trans answers)

end Letters

section Reaction

variable {k : Nat} {net net' : Network} {a b : Seat} {event : Event} {who : Option Seat}
  {hosts : DeviceId → Option Host} {events : List Event}

/-- **A hopeful event is followed by another one, or has released what waited.** -/
theorem Reaction.hopeful (reaction : Reaction k net event who hosts events) (sane : Sane k net)
    (ha : Sits k net.ground a) (hb : Sits k net.ground b) (hopeful : Hopeful k a b event) :
    (∃ raised ∈ events, Hopeful k a b raised) ∨ waiting a hosts b.ip = [] := by
  have housed := sane.housed
  obtain ⟨hp, he, hi⟩ := hb.within
  cases reaction with
  | enter hs hd _ bound way =>
    exact .inl ⟨_, List.mem_singleton_self _, hopeful_hop housed hb hs hd bound way hopeful⟩
  | hop hs hd _ _ bound way later =>
    exact .inl ⟨_, List.mem_singleton_self _, hopeful_hop housed hb hs hd bound later hopeful⟩
  | miss hs unknown =>
    rcases hopeful with ⟨asks, _⟩ | answers
    · have half : 0 < k / 2 := by
        have := two_le_of_accepts sane.fabric.accepted
        omega
      have first : 0 ∈ List.range (k / 2 * (k / 2)) := List.mem_range.mpr (Nat.mul_pos half half)
      exact .inl ⟨_, List.mem_map.mpr ⟨0, first, rfl⟩, .inl ⟨asks, trivial⟩⟩
    · cases answers
  | order hs known ha' hi' =>
    rcases hopeful with ⟨asks, _⟩ | answers
    · refine .inl ⟨_, List.mem_map.mpr ⟨b.place.pod, List.mem_range.mpr hp, rfl⟩, .inl ⟨asks, ?_⟩⟩
      rw [LeadsTo, Stop.ofEndpoint_aggregation hp ha']
      rfl
    · cases answers
  | fan hs known hp' ha' hi' =>
    rcases hopeful with ⟨asks, leads⟩ | answers
    · rw [LeadsTo, Stop.ofEndpoint_aggregation hp' ha'] at leads
      cases (show _ = b.place.pod from leads)
      refine .inl ⟨_, List.mem_map.mpr ⟨b.place.edge, List.mem_range.mpr he, rfl⟩, .inl ⟨asks, ?_⟩⟩
      rw [LeadsTo, Stop.ofEndpoint_edge hp he]
      exact ⟨rfl, rfl⟩
    · cases answers
  | @offer seat asked pod e j hs known hp' he' hj =>
    rcases hopeful with ⟨asks, leads⟩ | answers
    · rw [LeadsTo, Stop.ofEndpoint_edge hp' he'] at leads
      have pod : pod = b.place.pod := leads.1
      have position : e = b.place.edge := leads.2
      subst pod position
      have line : net.ground.peer? ⟨edgeId k b.place.pod b.place.edge, .lower b.place.port⟩ =
          some b.line := hb.peer
      refine .inl ⟨.frame b.line (flooded seat asked), ?_, .inl ⟨asks, ?_⟩⟩
      · refine List.mem_filterMap.mpr ⟨b.place.port, List.mem_range.mpr hi, ?_⟩
        rw [line]
        rfl
      · rw [LeadsTo, Seat.line, Stop.ofEndpoint_host hb.beyond]
        rfl
    · cases answers
  | data =>
    rcases hopeful with ⟨asks, _⟩ | answers
    · cases asks
    · cases answers
  | @answered seat dest host hs hd _ _ here =>
    rcases hopeful with ⟨asks, _⟩ | answers
    · cases asks
    · obtain ⟨asker, asked⟩ := Prod.mk.inj (Option.some.inj answers)
      cases housed.eq_of_ip hd ha asker
      cases housed.eq_of_ip hs hb asked
      right
      rw [waiting_learned here (learned host b) rfl, if_pos ⟨rfl, rfl⟩]
  | @asked seat dest host dst hs hd _ _ here =>
    rcases hopeful with ⟨asks, _⟩ | answers
    · refine .inl ⟨_, List.mem_append_right _ (List.mem_singleton_self _), .inr ?_⟩
      exact asks
    · cases answers
  | @ignored seat dest host asked hs hd _ other here =>
    rcases hopeful with ⟨asks, leads⟩ | answers
    · rw [LeadsTo, Seat.line, Stop.ofEndpoint_host hd.beyond] at leads
      cases hd.eq_of_id hb leads
      exact absurd (Prod.mk.inj (Option.some.inj asks)).2 other
    · cases answers

/-- What waits never grows by an event. -/
theorem Reaction.waiting_cases (reaction : Reaction k net event who hosts events)
    (a : Seat) (ip : Ipv4Address) :
    waiting a hosts ip = waiting a net.hostAt? ip ∨ waiting a hosts ip = [] := by
  cases reaction with
  | @data seat dest host bytes _ _ _ _ here =>
    exact .inl (waiting_withHost here (accepting host _) rfl ip)
  | @answered seat dest host _ _ _ _ here =>
    rw [waiting_learned here (learned host seat) rfl]
    split
    · exact .inr rfl
    · exact .inl rfl
  | @asked seat dest host dst _ _ _ _ here =>
    rw [waiting_learned here (learned host seat).countAnswered rfl]
    split
    · exact .inr rfl
    · exact .inl rfl
  | @ignored seat dest host asked _ _ _ _ here =>
    exact .inl (waiting_withHost here host.countReceived rfl ip)
  | _ => exact .inl rfl

/-- Packets that have arrived stay, in order. -/
theorem Reaction.received_append (reaction : Reaction k net event who hosts events) (b : Seat) :
    ∃ more, received b hosts = received b net.hostAt? ++ more := by
  cases reaction with
  | @data seat dest host bytes _ _ _ _ here =>
    exact ⟨_, received_pushed here (accepting host _) rfl⟩
  | @answered seat dest host _ _ _ _ here =>
    refine ⟨[], ?_⟩
    rw [received_withHost here (learned host seat) rfl, List.append_nil]
  | @asked seat dest host dst _ _ _ _ here =>
    refine ⟨[], ?_⟩
    rw [received_withHost here (learned host seat).countAnswered rfl, List.append_nil]
  | @ignored seat dest host asked _ _ _ _ here =>
    refine ⟨[], ?_⟩
    rw [received_withHost here host.countReceived rfl, List.append_nil]
  | _ => exact ⟨[], (List.append_nil _).symm⟩

end Reaction

/-! ## The invariant -/

namespace Progressing

variable {k : Nat} {net net' : Network}

/-- **Every event keeps a network progressing.** -/
theorem step {event : Event} {rest : EventQueue} {who : Option Seat}
    {hosts : DeviceId → Option Host} {events : List Event} (progressing : Progressing k net)
    (sane : Sane k net) (steps : Steps k net net' event rest who hosts events) :
    Progressing k net' := by
  intro a b ha hb waits
  have ground : net'.ground = net.ground := steps.changed.ground
  have there : net'.hostAt? = hosts := funext steps.changed.hosts
  rw [ground] at ha hb
  rw [there] at waits
  have queue : net'.queue.toList = rest.toList ++ events := steps.changed.queue
  rw [queue]
  have before : waiting a net.hostAt? b.ip ≠ [] := by
    rcases steps.reaction.waiting_cases a b.ip with same | none_left
    · exact same ▸ waits
    · exact absurd none_left waits
  obtain ⟨old, mem, hopeful⟩ := progressing a b ha hb before
  rw [steps.queue] at mem
  rcases List.mem_cons.mp mem with rfl | later
  · rcases steps.reaction.hopeful (sane.took rest) ha hb hopeful with ⟨raised, new, still⟩ | none_left
    · exact ⟨raised, List.mem_append_right _ new, still⟩
    · exact absurd none_left waits
  · exact ⟨old, List.mem_append_left _ later, hopeful⟩

/-- What a host has to hold back it asks for. -/
theorem post {operation : Operation} {seat : Seat} {host : Host} {events : List Event}
    (progressing : Progressing k net) (posts : Posts k net operation seat host events) :
    Progressing k ((net.setHost seat.id host).enqueue events) := by
  intro a b ha hb waits
  have changed := posts.changed
  rw [changed.ground] at ha hb
  rw [funext changed.hosts] at waits
  rw [changed.queue]
  have still : waiting a net.hostAt? b.ip ≠ [] →
      ∃ event ∈ net.queue.toList ++ events, Hopeful k a b event := by
    intro before
    obtain ⟨event, mem, hopeful⟩ := progressing a b ha hb before
    exact ⟨event, List.mem_append_left _ mem, hopeful⟩
  cases posts with
  | @data seat dest host bytes hs hd _ here _ =>
    rw [waiting_withHost here (host.countSent 1) rfl] at waits
    exact still waits
  | @first seat host dst bytes hs here _ empty =>
    rw [waiting_added here _ (by rw [empty]; rfl)] at waits
    split at waits
    · rename_i own
      obtain ⟨number, rfl⟩ := own
      cases hs.eq_of_id ha number
      refine ⟨_, List.mem_append_right _ (List.mem_singleton_self _), .inl ⟨rfl, ?_⟩⟩
      rw [LeadsTo, Seat.uplink, Seat.edge, Stop.ofEndpoint_edge hs.within.1 hs.within.2.1]
      trivial
    · rw [List.append_nil] at waits
      exact still waits
  | @more seat host dst bytes hs here _ some_items =>
    rw [waiting_added here _ rfl] at waits
    split at waits
    · rename_i own
      obtain ⟨number, rfl⟩ := own
      apply still
      rw [waiting, ← number, here]
      exact some_items
    · rw [List.append_nil] at waits
      exact still waits
  | @again seat host hs here =>
    rw [waiting_withHost here (host.countAsked _) rfl] at waits
    exact still waits

/-- **Nothing waits for a seat once the queue is empty.** -/
theorem waiting_eq_nil (progressing : Progressing k net) (empty : net.queue.toList = [])
    {a b : Seat} (ha : Sits k net.ground a) (hb : Sits k net.ground b) :
    waiting a net.hostAt? b.ip = [] := by
  by_cases waits : waiting a net.hostAt? b.ip = []
  · exact waits
  · obtain ⟨event, mem, _⟩ := progressing a b ha hb waits
    rw [empty] at mem
    cases mem

end Progressing

end FatTree

end PmacFabric
