import PmacFabric.Proofs.FatTree.Account
import PmacFabric.Proofs.FatTree.Reached

/-!
# Data is neither lost nor reordered

`Ordered` relates a network to the packets that its hosts have been asked to send: for any two seats
these packets are their account, in order. Posting adds to both, an event to neither, and a host that
is added late finds its data waiting. `Reached.ordered` follows for all states of a run, and
**`data_neither_lost_nor_reordered`** reads it off for hosts, inboxes and the event queue.
-/

namespace PmacFabric

namespace Network

/-- The host with an IP address, the earliest one if several have it. -/
def hostOf? (net : Network) (ip : Ipv4Address) : Option Host :=
  net.hosts.find? fun host => host.ip = ip

/-- The data that has come from an address to the inbox of the host with another. -/
def delivered (net : Network) (src dst : Ipv4Address) : List Bytes :=
  (net.hostOf? dst).elim [] fun host => between src dst host.inbox.toList

/-- The IPv4 packets in the queue, oldest event first. -/
def inFlight (net : Network) : List Ipv4Packet := net.queue.toList.filterMap Event.packet?

/-- Nobody is found at an address that nobody has. -/
theorem hostOf?_eq_none {net : Network} {ip : Ipv4Address}
    (nobody : ∀ id host, net.hostAt? id = some host → host.ip ≠ ip) : net.hostOf? ip = none := by
  apply List.find?_eq_none.mpr
  intro host mem same
  obtain ⟨id, here⟩ := mem_hosts_iff.mp mem
  exact nobody id host here (of_decide_eq_true same)

end Network

namespace FatTree

open Network (Ground)

/-- In a sane network the host with the address of a seat is the host of the seat. -/
theorem Sane.hostOf? {k : Nat} {net : Network} {seat : Seat} {host : Host} (sane : Sane k net)
    (sits : Sits k net.ground seat) (here : net.hostAt? seat.id = some host) :
    net.hostOf? seat.ip = some host := by
  obtain ⟨host', here', card⟩ := sits.host
  cases here.symm.trans here'
  have own : host.ip = seat.ip := congrArg Host.Card.ip card
  cases found : net.hostOf? seat.ip with
  | none =>
    have others := List.find?_eq_none.mp found host (Network.mem_hosts_iff.mpr ⟨_, here⟩)
    exact absurd (decide_eq_true own) others
  | some other =>
    have same : other.ip = seat.ip := by
      have shown := List.find?_some (show net.hosts.find? _ = some other from found)
      exact of_decide_eq_true shown
    obtain ⟨id, there⟩ := Network.mem_hosts_iff.mp (List.mem_of_find?_eq_some found)
    obtain ⟨seat', sits', rfl, card'⟩ := sane.housed.seated (Network.ground_card there)
    have own' : other.ip = seat'.ip := congrArg Host.Card.ip card'
    cases sane.housed.eq_of_ip sits' sits (own'.symm.trans same)
    exact there.symm.trans here

/-- An address that no seat has is the address of no host. -/
theorem Sane.hostOf?_eq_none {k : Nat} {net : Network} {ip : Ipv4Address} (sane : Sane k net)
    (nobody : ∀ seat : Seat, Sits k net.ground seat → seat.ip ≠ ip) : net.hostOf? ip = none := by
  apply Network.hostOf?_eq_none
  intro id host here same
  obtain ⟨seat, sits, _, card⟩ := sane.housed.seated (Network.ground_card here)
  exact nobody seat sits ((congrArg Host.Card.ip card).symm.trans same)

/-! ## The invariant -/

/-- A network accounts for all packets that its hosts have been asked to send. -/
structure Ordered (k : Nat) (log : List Ipv4Packet) (net : Network) : Prop where
  authors : ∀ packet ∈ log, ∃ seat : Seat, Sits k net.ground seat ∧ seat.ip = packet.src
  account : ∀ {a b : Seat}, Sits k net.ground a → Sits k net.ground b →
    between a.ip b.ip log = account k a b net.hostAt? net.queue.toList
  /-- Data for nobody waits. -/
  beyond : ∀ {a : Seat} {ip : Ipv4Address}, Sits k net.ground a →
    (∀ b : Seat, Sits k net.ground b → b.ip ≠ ip) →
    between a.ip ip log = waiting a net.hostAt? ip

section Reaction

variable {k : Nat} {net : Network} {a b : Seat} {event : Event} {who : Option Seat}
  {hosts : DeviceId → Option Host} {events : List Event}

/-- No event touches data for nobody. -/
theorem Reaction.waits_for_nobody (reaction : Reaction k net event who hosts events) {ip : Ipv4Address}
    (nobody : ∀ seat : Seat, Sits k net.ground seat → seat.ip ≠ ip) :
    waiting a hosts ip = waiting a net.hostAt? ip := by
  have unlearned : ∀ {seat dest : Seat}, Sits k net.ground seat →
      ¬ (a.id = dest.id ∧ ip = seat.ip) := fun hs same => nobody _ hs same.2.symm
  cases reaction with
  | @data seat dest host bytes _ _ _ _ here =>
    exact waiting_withHost here (accepting host _) rfl ip
  | @answered seat dest host hs _ _ _ here =>
    rw [waiting_learned here (learned host seat) rfl, if_neg (unlearned hs)]
  | @asked seat dest host dst hs _ _ _ here =>
    rw [waiting_learned here (learned host seat).countAnswered rfl, if_neg (unlearned hs)]
  | @ignored seat dest host asked _ _ _ _ here =>
    exact waiting_withHost here host.countReceived rfl ip
  | _ => rfl

end Reaction

section Ordered

variable {k : Nat} {log : List Ipv4Packet} {net net' : Network}

/-- **An event keeps all data in order.** -/
theorem Ordered.step {event : Event} {rest : EventQueue} {who : Option Seat}
    {hosts : DeviceId → Option Host} {events : List Event} (ordered : Ordered k log net)
    (housed : Housed k net.ground) (steps : Steps k net net' event rest who hosts events) :
    Ordered k log net' := by
  have changed := steps.changed
  have ground : net'.ground = net.ground := changed.ground
  have queue : net'.queue.toList = rest.toList ++ events := changed.queue
  have there : net'.hostAt? = hosts := funext changed.hosts
  refine ⟨?_, ?_, ?_⟩
  · rw [ground]
    exact ordered.authors
  · intro a b ha hb
    rw [ground] at ha hb
    rw [ordered.account ha hb, there, queue, steps.queue]
    exact steps.reaction.account housed ha hb rest.toList
  · intro a ip ha nobody
    rw [ground] at ha nobody
    rw [ordered.beyond ha nobody, there]
    exact (steps.reaction.waits_for_nobody nobody).symm

end Ordered

/-! ## Posting -/

section Posts

variable {k : Nat} {log : List Ipv4Packet} {net net' : Network} {operation : Operation}
  {a b seat : Seat} {host : Host} {events : List Event}

/-- The packet that a seat is asked to send. -/
theorem handed_send (sits : Sits k net.ground seat) (dst : Ipv4Address) (bytes : Bytes) :
    handed net (.send seat.id dst bytes) = [⟨seat.ip, dst, bytes⟩] := by
  obtain ⟨host, here, card⟩ := sits.host
  have own : host.ip = seat.ip := congrArg Host.Card.ip card
  have uplink : host.uplink = some (seat.uplink k) := congrArg Host.Card.uplink card
  simp only [handed, here, own, uplink, Option.isSome_some, if_true]

/-- A packet of a seat is from another seat to an address only if they are the same. -/
theorem between_handed (housed : Housed k net.ground) (ha : Sits k net.ground a)
    (hs : Sits k net.ground seat) (dst ip : Ipv4Address) (bytes : Bytes) :
    between a.ip ip [⟨seat.ip, dst, bytes⟩] =
      if seat.id = a.id ∧ dst = ip then [bytes] else [] := by
  have same : seat.ip = a.ip ↔ seat.id = a.id := by
    constructor
    · intro shared
      rw [housed.eq_of_ip hs ha shared]
    · intro shared
      rw [hs.eq_of_id ha shared]
  simp only [between_singleton, same]

/-- Posting adds to what waits for nobody the packet that is handed over. -/
theorem Posts.waits_for_nobody (posts : Posts k net operation seat host events)
    (housed : Housed k net.ground) (ha : Sits k net.ground a) {ip : Ipv4Address}
    (nobody : ∀ dest : Seat, Sits k net.ground dest → dest.ip ≠ ip) :
    waiting a (withHost net seat.id host) ip =
      waiting a net.hostAt? ip ++ between a.ip ip (handed net operation) := by
  cases posts with
  | @data seat dest host bytes hs hd _ here _ =>
    rw [handed_send hs, between_handed housed ha hs, waiting_withHost here (host.countSent 1) rfl,
      if_neg fun both => nobody dest hd both.2, List.append_nil]
  | @first seat host dst bytes hs here _ empty =>
    rw [handed_send hs, between_handed housed ha hs]
    exact waiting_added here _ (by rw [empty]; rfl) ip
  | @more seat host dst bytes hs here =>
    rw [handed_send hs, between_handed housed ha hs]
    exact waiting_added here _ rfl ip
  | @again seat host hs here =>
    rw [waiting_withHost here (host.countAsked _) rfl]
    exact (List.append_nil _).symm

/-- **Posting adds to the account of two seats the packet that is handed over.** -/
theorem Posts.account (posts : Posts k net operation seat host events) (sane : Sane k net)
    (ha : Sits k net.ground a) (hb : Sits k net.ground b) (queue : List Event) :
    account k a b (withHost net seat.id host) (queue ++ events) =
      account k a b net.hostAt? queue ++ between a.ip b.ip (handed net operation) := by
  have housed := sane.housed
  have quiet : (∀ raised ∈ events, load? k a b raised = none) →
      flying k a b (queue ++ events) = flying k a b queue := by
    intro empty
    rw [flying, loads_append, loads_eq_nil empty, List.append_nil]
    rfl
  cases posts with
  | @data seat dest host bytes hs hd _ here known =>
    rw [handed_send hs, between_handed housed ha hs, FatTree.account, FatTree.account,
      arrived_withHost here (host.countSent 1) rfl, waiting_withHost here (host.countSent 1) rfl]
    have loaded := load_data (k := k) (a := a) (b := b) (seat.uplink k) dest.ip bytes seat.amac
      seat.ip dest.pmac.mac
    by_cases own : seat.ip = a.ip ∧ dest.ip = b.ip
    · cases housed.eq_of_ip hs ha own.1
      cases housed.eq_of_ip hd hb own.2
      rw [if_pos own, remaining_uplink b ha] at loaded
      have started : flying k a b (queue ++ [.frame (a.uplink k)
          ((Letter.data b.ip bytes).frame a.amac a.ip b.pmac.mac)]) =
            flying k a b queue ++ [bytes] := flying_leave queue (loads_cons_some loaded [])
      have nothing : waiting a net.hostAt? b.ip = [] := by
        rw [waiting, here, Option.elim_some, Host.pendingFor]
        cases found : host.pending[b.ip]? with
        | none => rfl
        | some items => cases known.symm.trans ((sane.hosts here).waiting found).2
      rw [if_pos ⟨rfl, rfl⟩, nothing, List.append_nil, List.append_nil, List.append_assoc, started]
    · have other : ¬ (seat.id = a.id ∧ dest.ip = b.ip) := by
        rintro ⟨number, same⟩
        exact own ⟨congrArg Seat.ip (hs.eq_of_id ha number), same⟩
      rw [if_neg own] at loaded
      rw [if_neg other, List.append_nil, quiet fun raised mem => ?_]
      cases List.mem_singleton.mp mem
      exact loaded
  | @first seat host dst bytes hs here _ empty =>
    rw [handed_send hs, between_handed housed ha hs, FatTree.account, FatTree.account,
      arrived_withHost here (Host.countAsked { host with pending := _ } 1) rfl,
      waiting_added here _ (by rw [empty]; rfl), quiet fun raised mem => ?_,
      List.append_assoc _ _ (ite _ _ _)]
    cases List.mem_singleton.mp mem
    exact load_question _ _ _ _ _
  | @more seat host dst bytes hs here =>
    rw [handed_send hs, between_handed housed ha hs, FatTree.account, FatTree.account,
      arrived_withHost here { host with pending := host.pending.insert dst _ } rfl,
      waiting_added here _ rfl, List.append_nil, List.append_assoc _ _ (ite _ _ _)]
  | @again seat host hs here =>
    rw [FatTree.account, FatTree.account, arrived_withHost here (host.countAsked _) rfl,
      waiting_withHost here (host.countAsked _) rfl, quiet fun raised mem => ?_]
    · exact (List.append_nil _).symm
    · obtain ⟨_, _, rfl⟩ := List.mem_map.mp mem
      exact load_question _ _ _ _ _

/-- What is handed over is from the seat that posts. -/
theorem Posts.author (posts : Posts k net operation seat host events) {packet : Ipv4Packet}
    (mem : packet ∈ handed net operation) : seat.ip = packet.src := by
  have sent : ∀ {dst : Ipv4Address} {bytes : Bytes},
      packet ∈ handed net (.send seat.id dst bytes) → seat.ip = packet.src := by
    intro dst bytes mem
    rw [handed_send posts.sits] at mem
    rw [List.mem_singleton.mp mem]
  cases posts with
  | data => exact sent mem
  | first => exact sent mem
  | more => exact sent mem
  | again => cases mem

/-- **Posting keeps the order**: new data goes behind all older data for its destination. -/
theorem Ordered.post (ordered : Ordered k log net) (sane : Sane k net)
    (posts : Posts k net operation seat host events) :
    Ordered k (log ++ handed net operation) ((net.setHost seat.id host).enqueue events) := by
  have changed := posts.changed
  have ground := changed.ground
  have there := funext changed.hosts
  refine ⟨?_, ?_, ?_⟩
  · intro packet mem
    rw [ground]
    rcases List.mem_append.mp mem with old | new
    · exact ordered.authors packet old
    · exact ⟨seat, posts.sits, posts.author new⟩
  · intro a b ha hb
    rw [ground] at ha hb
    rw [between_append, ordered.account ha hb, there, changed.queue]
    exact (posts.account sane ha hb _).symm
  · intro a ip ha nobody
    rw [ground] at ha nobody
    rw [between_append, ordered.beyond ha nobody, there]
    exact (posts.waits_for_nobody sane.housed ha nobody).symm

end Posts

/-! ## New hosts -/

section Join

variable {k : Nat} {log : List Ipv4Packet} {net net' : Network} {seat : Seat}

/-- A packet under way is from a seat and for a seat. -/
theorem Sound.parties {ground : Ground} {directory : Directory} {event : Event}
    (sound : Sound k ground directory event) {packet : Ipv4Packet}
    (shown : event.packet? = some packet) :
    ∃ a b : Seat, Sits k ground a ∧ Sits k ground b ∧ a.ip = packet.src ∧ b.ip = packet.dst := by
  have read : ∀ {letter : Letter} {target : Endpoint} {src dst : MacAddress} {a b : Seat},
      Sits k ground a → Sits k ground b → letter.dst = b.ip →
      (Event.frame target (letter.frame src a.ip dst)).packet? = some packet →
      ∃ a b : Seat, Sits k ground a ∧ Sits k ground b ∧ a.ip = packet.src ∧ b.ip = packet.dst := by
    intro letter target src dst a b ha hb bound shown
    cases letter with
    | data ip bytes =>
      cases shown
      exact ⟨a, b, ha, hb, rfl, bound.symm⟩
    | answer => cases shown
    | question => cases shown
  cases sound with
  | addressed hs hd _ bound => exact read hs hd bound shown
  | asking => cases shown
  | carried hs hd _ _ bound => exact read hs hd bound shown
  | ordered => cases shown
  | spreading => cases shown

/-- Nothing is under way from or to an address that nobody has. -/
theorem Legit.between_inFlight (legit : Legit k net) {src dst : Ipv4Address}
    (nobody : (∀ other : Seat, Sits k net.ground other → other.ip ≠ src) ∨
      ∀ other : Seat, Sits k net.ground other → other.ip ≠ dst) :
    between src dst net.inFlight = [] := by
  apply between_eq_nil
  intro packet mem own own'
  obtain ⟨event, waits, shown⟩ := List.mem_filterMap.mp mem
  obtain ⟨a, b, ha, hb, author, bound⟩ := (legit.queued event waits).parties shown
  rcases nobody with nobody | nobody
  · exact nobody a ha (author.trans own)
  · exact nobody b hb (bound.trans own')

/-- Nothing has been sent from an address that nobody has. -/
theorem Ordered.between_log (ordered : Ordered k log net) {src : Ipv4Address}
    (nobody : ∀ other : Seat, Sits k net.ground other → other.ip ≠ src) (dst : Ipv4Address) :
    between src dst log = [] := by
  apply between_eq_nil
  intro packet mem own
  obtain ⟨author, ha, sent⟩ := ordered.authors packet mem
  exact absurd (sent.trans own) (nobody author ha)

/-- **A host that joins finds its data waiting.** -/
theorem Ordered.join (ordered : Ordered k log net) (legit : Legit k net)
    (joins : Joins k net net' seat) (distinct : net'.DistinctHosts) : Ordered k log net' := by
  have fabric := legit.fabric
  have housed := legit.housed
  have apart := fun {other : Seat} (ho : Sits k net.ground other) => joins.apart fabric distinct ho
  have fresh : ∀ {other : Seat}, Sits k net.ground other → other.ip ≠ seat.ip :=
    fun ho same => (apart ho).1 same.symm
  have number : ∀ {other : Seat}, Sits k net.ground other → other.id ≠ seat.id := by
    intro other ho same
    cases ((ho.join fabric joins).eq_of_id (joins.sits fabric) same)
    exact fresh ho rfl
  have queue : net'.queue = net.queue := joins.joined.traffic.queue
  have newcomer : net'.hostAt? seat.id = some (seat.newcomer k) := by
    rw [joins.joined.hosts]
    exact if_pos rfl
  have unsent : ∀ ip, between seat.ip ip log = [] := ordered.between_log fun _ ho => fresh ho
  have unasked : ∀ ip, waiting seat net'.hostAt? ip = [] := by
    intro ip
    rw [waiting, newcomer, Option.elim_some, Host.pendingFor]
    exact congrArg (Option.getD · []) Std.TreeMap.getElem?_emptyc
  have others : ∀ {other : Seat}, Sits k net.ground other →
      net'.hostAt? other.id = net.hostAt? other.id := by
    intro other ho
    rw [joins.joined.hosts]
    exact if_neg (number ho)
  have grounded : ∀ {a b : Seat}, a.ip = seat.ip ∨ b.ip = seat.ip →
      flying k a b net'.queue.toList = [] := by
    intro a b new
    have silent : between a.ip b.ip net.inFlight = [] := by
      apply legit.between_inFlight
      rcases new with own | own
      · exact .inl fun _ ho => own ▸ fresh ho
      · exact .inr fun _ ho => own ▸ fresh ho
    have nothing : loads k a b net.queue.toList = [] :=
      List.map_eq_nil_iff.mp ((map_loads net.queue.toList).trans silent)
    rw [queue, flying, nothing, inOrder_nil]
  refine ⟨?_, ?_, ?_⟩
  · intro packet mem
    obtain ⟨author, ha, own⟩ := ordered.authors packet mem
    exact ⟨author, ha.join fabric joins, own⟩
  · intro a b ha hb
    have empty : b.ip = seat.ip → arrived a b net'.hostAt? = [] := by
      intro own
      cases (housed.join fabric joins apart).eq_of_ip hb (joins.sits fabric) own
      rw [arrived, received, newcomer]
      rfl
    rcases housed.sits_join fabric joins ha with rfl | ha
    · rw [FatTree.account, unsent, grounded (.inl rfl), unasked, List.append_nil, List.append_nil]
      rcases housed.sits_join fabric joins hb with rfl | hb
      · exact (empty rfl).symm
      · obtain ⟨host, here, _⟩ := hb.host
        rw [arrived, received, others hb, here, Option.elim_some]
        symm
        apply between_eq_nil
        intro packet mem src
        obtain ⟨_, author, hc, own⟩ := (legit.hosts here).inbox packet (Array.mem_toList_iff.mp mem)
        exact absurd (own.trans src) (fresh hc)
    · rcases housed.sits_join fabric joins hb with rfl | hb
      · rw [FatTree.account, empty rfl, grounded (.inr rfl), ordered.beyond ha fun b hb => fresh hb,
          waiting, waiting, others ha]
        rfl
      · rw [ordered.account ha hb, FatTree.account, FatTree.account, queue, arrived, arrived,
          received, received, waiting, waiting, others ha, others hb]
  · intro a ip ha nobody
    have nobody : ∀ b : Seat, Sits k net.ground b → b.ip ≠ ip :=
      fun b hb => nobody b (hb.join fabric joins)
    rcases housed.sits_join fabric joins ha with rfl | ha
    · rw [unsent, unasked]
    · rw [ordered.beyond ha nobody, waiting, waiting, others ha]

end Join

/-! ## Runs -/

/-- A new fat-tree has nothing to put in order. -/
theorem ordered_new {k : Nat} {config : FabricConfig} {streams : DeviceId → Choice.Stream}
    {tree : FatTree} (h : new k config streams = .ok tree) : Ordered k [] tree.net := by
  obtain ⟨net, done, _, pristine, _⟩ := new_ok (accepts_of_new_ok h) config streams
  cases h.symm.trans done
  have homeless : ∀ {seat : Seat}, ¬ Sits k net.ground seat := by
    intro seat sits
    obtain ⟨host, here, _⟩ := sits.host
    rw [pristine.1] at here
    cases here
  exact ⟨List.forall_mem_nil _, fun ha => absurd ha homeless, fun ha => absurd ha homeless⟩

/-- **Every state of a run accounts for all packets.** -/
theorem Reached.ordered {k : Nat} {log : List Ipv4Packet} {tree : FatTree}
    (reached : Reached k log tree) : Ordered k log tree.net := by
  induction reached with
  | new made => exact ordered_new made
  | addHost place amac ip before distinct ih =>
    obtain ⟨rfl, legit, slotted⟩ := before.legit
    rcases addHost_cases legit.fabric legit.housed slotted place amac ip with
      ⟨e, same⟩ | ⟨net, slot, hslot, done, joins⟩
    · rw [same]
      exact ih
    · rw [done] at distinct ⊢
      exact ih.join legit joins distinct
  | setStopAfter stopAfter before ih => exact ⟨ih.authors, ih.account, ih.beyond⟩
  | post before posted ih =>
    obtain ⟨_, legit, _⟩ := before.legit
    obtain ⟨seat, host, events, posts, rfl⟩ := post_cases legit.toSane posted
    exact ih.post legit.toSane posts
  | event before stepped ih =>
    obtain ⟨_, legit, _⟩ := before.legit
    rcases legit.step with ⟨_, stuck⟩ | ⟨net', _, _, _, _, _, done, steps, _⟩
    · rw [stuck] at stepped
      cases stepped
    · cases done.symm.trans stepped
      exact ih.step legit.housed steps

/-- **Data is neither lost, nor duplicated, nor reordered.** In every state of a run, also between two
events and after operations that were cut off, the data that a host has been asked to send to an
address is what has been delivered, followed by what is carried by one frame each, followed by what
waits at the host. Nothing else is carried or delivered, and no switch keeps a packet. -/
theorem data_neither_lost_nor_reordered {k : Nat} {log : List Ipv4Packet} {tree : FatTree}
    (reached : Reached k log tree) :
    (∀ id sender dst, tree.net.getHost id = .ok sender →
      ∃ block, between sender.ip dst log =
          tree.net.delivered sender.ip dst ++ block ++ sender.pendingFor dst ∧
        block.Perm (between sender.ip dst tree.net.inFlight)) ∧
    (∀ packet ∈ tree.net.inFlight,
      ∃ id sender, tree.net.getHost id = .ok sender ∧ sender.ip = packet.src) ∧
    (∀ id host, tree.net.getHost id = .ok host → ∀ packet ∈ host.inbox,
      packet.dst = host.ip ∧
        ∃ id sender, tree.net.getHost id = .ok sender ∧ sender.ip = packet.src) ∧
    ∀ id switch, tree.net.getSwitch id = .ok switch → switch.inbox = #[] := by
  obtain ⟨-, legit, -⟩ := reached.legit
  have sane := legit.toSane
  have ordered := reached.ordered
  have author : ∀ {seat : Seat}, Sits k tree.net.ground seat →
      ∃ id sender, tree.net.getHost id = .ok sender ∧ sender.ip = seat.ip := by
    intro seat sits
    obtain ⟨host, here, card⟩ := sits.host
    exact ⟨seat.id, host, Network.getHost_eq_ok_iff.mpr here, congrArg Host.Card.ip card⟩
  refine ⟨?_, ?_, ?_, ?_⟩
  · intro id sender dst found
    have here := Network.getHost_eq_ok_iff.mp found
    obtain ⟨a, ha, rfl, card⟩ := sane.housed.seated (Network.ground_card here)
    have own : sender.ip = a.ip := congrArg Host.Card.ip card
    have held : waiting a tree.net.hostAt? dst = sender.pendingFor dst := by
      rw [waiting, here, Option.elim_some]
    rw [own]
    by_cases seated : ∃ b : Seat, Sits k tree.net.ground b ∧ b.ip = dst
    · obtain ⟨b, hb, rfl⟩ := seated
      obtain ⟨host, there, _⟩ := hb.host
      refine ⟨flying k a b tree.net.queue.toList, ?_, ?_⟩
      · rw [ordered.account ha hb, account, held, Network.delivered, sane.hostOf? hb there, arrived,
          received, there]
        rfl
      · have near : ∀ item ∈ loads k a b tree.net.queue.toList, item.1 ≤ distance a b := by
          intro item mem
          obtain ⟨event, waits, loaded⟩ := List.mem_filterMap.mp mem
          exact (legit.queued event waits).near sane.housed ha hb loaded
        have all := inOrder_perm near
        rw [map_loads] at all
        exact all
    · have nobody : ∀ b : Seat, Sits k tree.net.ground b → b.ip ≠ dst :=
        fun b hb same => seated ⟨b, hb, same⟩
      refine ⟨[], ?_, ?_⟩
      · rw [ordered.beyond ha nobody, held, Network.delivered, sane.hostOf?_eq_none nobody]
        rfl
      · exact .of_eq (legit.between_inFlight (.inr nobody)).symm
  · intro packet mem
    obtain ⟨event, waits, shown⟩ := List.mem_filterMap.mp mem
    obtain ⟨a, _, ha, _, src, _⟩ := (legit.queued event waits).parties shown
    exact src ▸ author ha
  · intro id host found packet mem
    obtain ⟨own, a, ha, src⟩ := (sane.hosts (Network.getHost_eq_ok_iff.mp found)).inbox packet mem
    exact ⟨own, src ▸ author ha⟩
  · intro id switch found
    have remembered : tree.net.memoryAt? id = some switch.memory :=
      congrArg (Option.map Switch.memory) (Network.getSwitch_eq_ok_iff.mp found)
    exact (sane.tables remembered).2

/-- Three greetings, each cut off after ten events. -/
def interrupted : List Operation :=
  [.addHost ⟨0, 0, 0⟩ ⟨2, 0, 0, 0, 0, 1⟩ ⟨10, 0, 0, 1⟩,
    .addHost ⟨1, 0, 0⟩ ⟨2, 0, 0, 0, 0, 2⟩ ⟨10, 0, 0, 2⟩,
    .setStopAfter (some 10), .send 5 ⟨10, 0, 0, 2⟩ [7], .send 5 ⟨10, 0, 0, 2⟩ [8],
    .send 5 ⟨10, 0, 0, 2⟩ [9]]

/-- Of three greetings that were cut off two have arrived, and the third is in a frame. -/
theorem interrupted_greetings_in_order :
    (smallest.performAll interrupted).2.net.delivered ⟨10, 0, 0, 1⟩ ⟨10, 0, 0, 2⟩ = [[7], [8]] ∧
      ∃ sender block, (smallest.performAll interrupted).2.net.getHost 5 = .ok sender ∧
        between sender.ip ⟨10, 0, 0, 2⟩ (handedAll smallest interrupted) =
          (smallest.performAll interrupted).2.net.delivered sender.ip ⟨10, 0, 0, 2⟩ ++ block ++
            sender.pendingFor ⟨10, 0, 0, 2⟩ ∧
        block.Perm
          (between sender.ip ⟨10, 0, 0, 2⟩ (smallest.performAll interrupted).2.net.inFlight) := by
  refine ⟨by decide +kernel, ?_⟩
  have reached := (Reached.new new_smallest).performAll interrupted (by decide +kernel)
  rw [List.nil_append] at reached
  have exists_sender : ((smallest.performAll interrupted).2.net.hostAt? 5).isSome = true := by
    decide +kernel
  obtain ⟨sender, here⟩ := Option.isSome_iff_exists.mp exists_sender
  have found := Network.getHost_eq_ok_iff.mpr here
  obtain ⟨block, all, flies⟩ :=
    (data_neither_lost_nor_reordered reached).1 5 sender ⟨10, 0, 0, 2⟩ found
  exact ⟨sender, block, found, all, flies⟩

end FatTree

end PmacFabric
