import PmacFabric.Proofs.Device.Meter
import PmacFabric.Proofs.Network.Topology

/-!
# Links conserve frames

On every link, and in both directions, what one end has sent and what was injected at the other is
what the other has received and what still waits for it. `Logged` keeps the injected frames of a run
beside its network, and `Balanced` states the equation for every link end at once, those without a
link included: they have nothing to receive but injected frames.

`Acts` says what an event or the beginning of an operation does to the two sides: the frames that
are taken are counted as received, and those that are raised are counted as sent, each by the only
end that leads to their target. Building moves no frames, and an end that gets linked has sent nothing
before. So all reached networks are balanced (`Logged.balanced`), and **`links_conserve`** reads the
equation at both ends of every link.
-/

namespace PmacFabric

/-- The counter of a host for a direction. -/
def Direction.ofHost : Direction → HostCounters → Nat
  | .sent, counters => counters.sent
  | .received, counters => counters.received

namespace Network

/-! ## Injected frames -/

/-- Whether moves lead to a network on the way to which just the given frames were injected, in
order. An injected frame is written as the event of its arrival. -/
inductive Logged : List Event → Network → Prop where
  | empty (config : FabricConfig) (streams : DeviceId → Choice.Stream) :
      Logged [] (.empty config streams)
  | build {log : List Event} {net after : Network} : Logged log net → Build net after →
      Logged log after
  | send {log : List Event} {net : Network} {id : DeviceId} {host after : Host}
      {dst : Ipv4Address} {data : Bytes} {events : List Event} : Logged log net →
      net.hostAt? id = some host → host.send dst data = .ok (events, after) →
      Logged log ((net.setHost id after).enqueue events)
  | retransmit {log : List Event} {net : Network} {id : DeviceId} {host after : Host}
      {events : List Event} : Logged log net → net.hostAt? id = some host →
      host.retransmit = .ok (events, after) → Logged log ((net.setHost id after).enqueue events)
  | inject {log : List Event} {net : Network} {id : DeviceId} {switch : Switch} (port : Port)
      (frame : Frame) : Logged log net → net.switchAt? id = some switch →
      Logged (log ++ [.frame ⟨id, port⟩ frame]) (net.enqueue [.frame ⟨id, port⟩ frame])
  | setStopAfter {log : List Event} {net : Network} (stopAfter : Option Nat) : Logged log net →
      Logged log (net.setStopAfter stopAfter)
  | watch {log : List Event} {net : Network} (trace : Option (Array String)) : Logged log net →
      Logged log { net with trace }
  | event {log : List Event} {net after : Network} {result : Except NetworkError Unit} :
      Logged log net → net.step = some (result, after) → Logged log after

section Logged

variable {log : List Event} {net : Network}

/-- A network with a log is one that users can bring about. -/
theorem Logged.reached (logged : Logged log net) : net.Reached := by
  induction logged with
  | empty config streams => exact ⟨config, streams, .refl⟩
  | build _ move ih => exact ih.leads (Leads.refl.build move)
  | send _ here posted ih => exact ih.leads (Work.send here posted).leads
  | retransmit _ here posted ih => exact ih.leads (Work.retransmit here posted).leads
  | inject port frame _ here ih => exact ih.leads (Work.inject port frame here).leads
  | setStopAfter stopAfter _ ih => exact ih.leads (Work.setStopAfter stopAfter).leads
  | watch trace _ ih => exact ih.leads (Work.watch trace).leads
  | event _ stepped ih => exact ih.leads (Work.event stepped).leads

/-- Every reached network has a log. -/
theorem Reached.logged (reached : net.Reached) : ∃ log, Logged log net := by
  obtain ⟨config, streams, leads⟩ := reached
  induction leads with
  | refl => exact ⟨[], .empty config streams⟩
  | build _ move ih =>
    obtain ⟨log, logged⟩ := ih
    exact ⟨log, logged.build move⟩
  | work _ move ih =>
    obtain ⟨log, logged⟩ := ih
    cases move with
    | send here posted => exact ⟨log, logged.send here posted⟩
    | retransmit here posted => exact ⟨log, logged.retransmit here posted⟩
    | inject port frame here => exact ⟨_, logged.inject port frame here⟩
    | setStopAfter stopAfter => exact ⟨log, logged.setStopAfter stopAfter⟩
    | watch trace => exact ⟨log, logged.watch trace⟩
    | event stepped => exact ⟨log, logged.event stepped⟩

/-- Processing events injects nothing, also if it is interrupted. -/
theorem Logged.run (logged : Logged log net) (n : Nat) : Logged log (Network.run n net).2 := by
  induction n generalizing net with
  | zero =>
    unfold Network.run
    split <;> exact logged
  | succ n ih =>
    unfold Network.run
    split
    · exact logged
    · rename_i stepped
      exact logged.event stepped
    · rename_i stepped
      exact ih (logged.event stepped)

/-- Sending data injects no frame. -/
theorem Logged.sends (logged : Logged log net) (id : DeviceId) (dst : Ipv4Address) (data : Bytes) :
    Logged log (net.send id dst data).2 := by
  unfold Network.send
  split
  · exact logged
  · rename_i found
    split
    · exact logged
    · rename_i posted
      exact (logged.send (getHost_eq_ok_iff.mp found) posted).run _

/-- Asking again injects no frame. -/
theorem Logged.retransmits (logged : Logged log net) (id : DeviceId) :
    Logged log (net.retransmit id).2 := by
  unfold Network.retransmit
  split
  · exact logged
  · rename_i found
    split
    · exact logged
    · rename_i posted
      exact (logged.retransmit (getHost_eq_ok_iff.mp found) posted).run _

/-- A frame that is not refused is injected, whatever becomes of the operation. -/
theorem Logged.injects (logged : Logged log net) {id : DeviceId} {switch : Switch}
    (here : net.getSwitch id = .ok switch) (port : Port) (frame : Frame) :
    Logged (log ++ [.frame ⟨id, port⟩ frame]) (net.inject id port frame).2 := by
  simp only [Network.inject, here]
  exact (logged.inject port frame (getSwitch_eq_ok_iff.mp here)).run _

end Logged

/-! ## What link ends have counted -/

/-- What a link end has counted: the counters of a port, or those of a host. A host counts frames
only, whatever the measure. -/
def counted (net : Network) (way : Direction) (m : Measure) (key : Endpoint) : Nat :=
  match net.getDevice? key.device with
  | some (.switch switch) => switch.meter key.port (m.field way)
  | some (.host host) => if key.port = .upper 0 then way.ofHost host.counters else 0
  | none => 0

section Counted

variable {net after : Network} {way : Direction} {m : Measure} {key : Endpoint}

/-- What a link end of a switch counts is in the meters of its port. -/
theorem counted_of_switchAt? {switch : Switch} (here : net.switchAt? key.device = some switch) :
    net.counted way m key = switch.meter key.port (m.field way) := by
  simp only [counted, getDevice?_of_switchAt? here]

/-- A host counts at its only link end. -/
theorem counted_of_hostAt? {host : Host} (here : net.hostAt? key.device = some host) :
    net.counted way m key = if key.port = .upper 0 then way.ofHost host.counters else 0 := by
  simp only [counted, getDevice?_of_hostAt? here]

/-- What a link end counts depends on its device only. -/
theorem counted_congr (same : after.getDevice? key.device = net.getDevice? key.device) :
    after.counted way m key = net.counted way m key := by
  simp only [counted, same]

/-- A switch that changes counts for its own link ends only. -/
theorem counted_setSwitch {id : DeviceId} {old : Switch} (here : net.switchAt? id = some old)
    (switch : Switch) (key : Endpoint) :
    (net.setSwitch id switch).counted way m key =
      if id = key.device then switch.meter key.port (m.field way) else net.counted way m key := by
  have within := lt_size_of_getDevice? (getDevice?_of_switchAt? here)
  have written : (net.setSwitch id switch).getDevice? key.device =
      if id = key.device then some (.switch switch) else net.getDevice? key.device := by
    simp only [getDevice?, setSwitch, Array.getElem?_setIfInBounds, within, if_true]
  by_cases same : id = key.device
  · rw [if_pos same] at written ⊢
    simp only [counted, written]
  · rw [if_neg same] at written ⊢
    exact counted_congr written

/-- A host that changes counts for its own link end only. -/
theorem counted_setHost {id : DeviceId} {old : Host} (here : net.hostAt? id = some old)
    (host : Host) (key : Endpoint) :
    (net.setHost id host).counted way m key =
      if id = key.device then if key.port = .upper 0 then way.ofHost host.counters else 0
      else net.counted way m key := by
  have within := lt_size_of_getDevice? (getDevice?_of_hostAt? here)
  have written : (net.setHost id host).getDevice? key.device =
      if id = key.device then some (.host host) else net.getDevice? key.device := by
    simp only [getDevice?, setHost, Array.getElem?_setIfInBounds, within, if_true]
  by_cases same : id = key.device
  · rw [if_pos same] at written ⊢
    simp only [counted, written]
  · rw [if_neg same] at written ⊢
    exact counted_congr written

/-- Making a link counts nothing. -/
theorem counted_setPeer (net : Network) (target peer : Endpoint) :
    (net.setPeer target peer).counted way m key = net.counted way m key := by
  by_cases same : target.device = key.device
  · simp only [counted, getDevice?, setPeer, modifySwitch, Array.getElem?_modify, if_pos same]
    cases net.devices[key.device]? with
    | none => rfl
    | some device =>
      cases device with
      | switch switch => exact switch.meter_setPeer target.port peer key.port (m.field way)
      | host host => rfl
  · simp only [counted, getDevice?, setPeer, modifySwitch, Array.getElem?_modify, if_neg same]

/-- A device that has counted nothing may be added unseen. -/
theorem counted_push {device : Device} (devices : after.devices = net.devices.push device)
    (fresh : after.getDevice? key.device = some device → after.counted way m key = 0) :
    after.counted way m key = net.counted way m key := by
  have written : after.getDevice? key.device =
      if key.device = net.devices.size then some device else net.getDevice? key.device := by
    rw [getDevice?, devices, Array.getElem?_push, getDevice?]
  by_cases last : key.device = net.devices.size
  · have absent : net.getDevice? key.device = none := by
      rw [last]
      exact Array.getElem?_eq_none (Nat.le_refl _)
    rw [if_pos last] at written
    rw [fresh written]
    simp only [counted, absent]
  · rw [if_neg last] at written
    exact counted_congr written

/-- **Building moves no counter**, and new devices have counted nothing. -/
theorem Build.counted (move : net.Build after) (way : Direction) (m : Measure) (key : Endpoint) :
    after.counted way m key = net.counted way m key := by
  cases move with
  | addSwitch name identity numLower numUpper =>
    refine counted_push rfl fun found => ?_
    simp only [Network.counted, found]
    exact Switch.meter_new ..
  | addHost name amac ip =>
    refine counted_push rfl fun found => ?_
    simp only [Network.counted, found]
    cases way <;> exact ite_self 0
  | addLink south north =>
    rcases net.addLink_cases south north with same | ⟨-, -, -, linked⟩
    · rw [same]
    · rw [linked]
      exact (counted_setPeer (net.setPeer south north) north south).trans
        (counted_setPeer net south north)
  | attachHost id switch port =>
    rcases net.attachHost_cases id switch port with same | ⟨host, here, -, -, attached⟩
    · rw [same]
    · rw [attached]
      have still : (net.setPeer ⟨switch, .lower port⟩ ⟨id, .upper 0⟩).hostAt? id = some host :=
        (hostAt?_modifySwitch net _ _ id).trans here
      refine (counted_setHost still _ key).trans ?_
      split
      · rename_i own
        rw [counted_of_hostAt? (own ▸ here)]
      · exact counted_setPeer net _ _

end Counted

/-! ## Balance -/

/-- Whether the ends of a link use one measure: the target is no missing port, and hosts, which count
frames only, are not asked for bytes. -/
structure Ground.Meters (ground : Ground) (m : Measure) (n : Endpoint) : Prop where
  port : ∀ {outline}, ground.outline n.device = some outline → outline.hasPort n.port
  target : ∀ {card}, ground.card n.device = some card → m = .packets
  source : ∀ {s card}, ground.opposite? n = some s → ground.card s.device = some card →
    m = .packets

/-- What was sent towards a link end. -/
def inflow (net : Network) (m : Measure) (n : Endpoint) : Nat :=
  (net.opposite? n).elim 0 (net.counted .sent m)

/-- Whether link ends got what was sent to them, what was injected apart. -/
structure Balanced (net : Network) (log : List Event) : Prop where
  idle : ∀ {m s}, net.opposite? s = none → net.counted .sent m s = 0
  balance : ∀ {m n}, net.ground.Meters m n →
    net.inflow m n + m.dueAt n log = net.counted .received m n + m.dueAt n net.queue.toList

/-- What taking some events and raising others does to the counters. -/
structure Acts (net after : Network) (taken raised : List Event) : Prop where
  ground : after.ground = net.ground
  received : ∀ {m : Measure} {n : Endpoint}, net.ground.Meters m n →
    after.counted .received m n = net.counted .received m n + m.dueAt n taken
  sent : ∀ {m : Measure} {s n : Endpoint}, net.opposite? s = some n → net.ground.Meters m n →
    after.counted .sent m s = net.counted .sent m s + m.dueAt n raised
  aimed : ∀ {m : Measure} {n : Endpoint}, net.opposite? n = none → m.dueAt n raised = 0
  idle : ∀ {m : Measure} {s : Endpoint}, net.opposite? s = none →
    after.counted .sent m s = net.counted .sent m s

section Acts

variable {net after : Network} {taken raised : List Event}

/-- A switch that counts what it takes and raises. -/
theorem acts_applySwitch (matched : net.Matched) {id : DeviceId} {switch : Switch}
    {outcome : Switch.Outcome} (here : net.switchAt? id = some switch)
    (ground : (net.applySwitch id outcome).ground = net.ground)
    (metered : switch.Metered id outcome.switch taken outcome.events)
    (own : ∀ n frame, Event.frame n frame ∈ taken → n.device = id) :
    Acts net (net.applySwitch id outcome) taken outcome.events := by
  have counted (way : Direction) (m : Measure) (key : Endpoint) :
      (net.applySwitch id outcome).counted way m key =
        if id = key.device then outcome.switch.meter key.port (m.field way)
        else net.counted way m key :=
    counted_setSwitch here outcome.switch key
  have leads (port : Port) : net.opposite? ⟨id, port⟩ = switch.peer? port :=
    opposite?_of_switchAt? here
  refine ⟨ground, fun {m n} meters => ?_, fun {m s n} toN meters => ?_, fun {m n} loose => ?_,
    fun {m s} loose => ?_⟩
  · rw [counted]
    split
    · rename_i same
      subst same
      have has := meters.port (ground_outline here)
      rw [metered.received ((switch.hasPort_outline _).mp has), counted_of_switchAt? here]
    · rename_i other
      have elsewhere : m.dueAt n taken = 0 :=
        Measure.dueAt_eq_zero fun frame mem => other (own n frame mem).symm
      rw [elsewhere, Nat.add_zero]
  · rw [counted]
    split
    · rename_i same
      obtain ⟨device, port⟩ := s
      cases same
      rw [leads] at toN
      rw [metered.sent toN ?_, counted_of_switchAt? here]
      intro other toN'
      have back := matched.symm ((leads port).trans toN)
      have back' := matched.symm ((leads other).trans toN')
      cases back.symm.trans back'
      rfl
    · rename_i other
      rw [metered.aimed fun port toN' => ?_, Nat.add_zero]
      cases (matched.symm toN).symm.trans (matched.symm ((leads port).trans toN'))
      exact other rfl
  · refine metered.aimed fun port toN => ?_
    cases loose.symm.trans (matched.symm ((leads port).trans toN))
  · rw [counted]
    split
    · rename_i same
      obtain ⟨device, port⟩ := s
      cases same
      rw [metered.loose ((leads port).symm.trans loose), counted_of_switchAt? here]
    · rfl

/-- A host that counts what it takes and raises. -/
theorem acts_setHost (matched : net.Matched) {id : DeviceId} {host later : Host}
    {uplink : Endpoint} (here : net.hostAt? id = some host) (attached : host.uplink = some uplink)
    (card : later.card = host.card) (metered : host.Metered later taken raised)
    (own : Host.AllAt ⟨id, .upper 0⟩ taken) (out : Host.AllAt uplink raised) :
    Acts net ((net.setHost id later).enqueue raised) taken raised := by
  have leads : net.opposite? ⟨id, .upper 0⟩ = some uplink := by
    rw [opposite?_of_hostAt? here, if_pos rfl, attached]
  have back := matched.symm leads
  have counted (way : Direction) (m : Measure) (key : Endpoint) :
      ((net.setHost id later).enqueue raised).counted way m key =
        if id = key.device then if key.port = .upper 0 then way.ofHost later.counters else 0
        else net.counted way m key :=
    counted_setHost here later key
  refine ⟨ground_setHost here card raised, fun {m n} meters => ?_, fun {m s n} toN meters => ?_,
    fun {m n} loose => ?_, fun {m s} loose => ?_⟩
  · obtain ⟨device, port⟩ := n
    rw [counted]
    split
    · rename_i same
      cases same
      cases meters.target (ground_card here)
      rw [counted_of_hostAt? here]
      split
      · rename_i interface
        cases interface
        rw [Measure.dueAt_packets own]
        exact metered.received
      · rename_i other
        rw [Measure.dueAt_of_allAt own fun same => other (by cases same; rfl)]
    · rename_i other
      rw [Measure.dueAt_of_allAt own fun same => other (by cases same; rfl), Nat.add_zero]
  · obtain ⟨device, port⟩ := s
    rw [counted]
    split
    · rename_i same
      cases same
      rw [opposite?_of_hostAt? here] at toN
      split at toN
      · rename_i interface
        cases interface
        cases attached.symm.trans toN
        have source := meters.source ((opposite?_eq net uplink).symm.trans back) (ground_card here)
        cases source
        rw [counted_of_hostAt? here, if_pos rfl, if_pos rfl, Measure.dueAt_packets out]
        exact metered.sent
      · cases toN
    · rename_i other
      have apart : uplink ≠ n := by
        rintro rfl
        cases back.symm.trans (matched.symm toN)
        exact other rfl
      rw [Measure.dueAt_of_allAt out apart, Nat.add_zero]
  · refine Measure.dueAt_of_allAt out ?_
    rintro rfl
    cases back.symm.trans loose
  · obtain ⟨device, port⟩ := s
    rw [counted]
    split
    · rename_i same
      cases same
      rw [counted_of_hostAt? here]
      split
      · rename_i interface
        cases interface
        cases leads.symm.trans loose
      · rfl
    · rfl

/-- Floods are messages. -/
theorem dueAt_raised {site : Site} {state state' : ForwardState} {port : Port} {frame : Frame}
    {verdict : Verdict} (ruling : Ruling site state port frame verdict state')
    (silent : state.raised = []) (m : Measure) (n : Endpoint) : m.dueAt n state'.raised = 0 := by
  cases ruling with
  | plain _ quiet => rw [quiet, silent, Measure.dueAt_nil]
  | admits _ _ _ _ quiet => rw [quiet, silent, Measure.dueAt_nil]
  | asks _ _ _ _ _ asked =>
    rw [asked, silent, List.nil_append]
    refine Measure.dueAt_eq_zero fun frame mem => ?_
    obtain ⟨_, _, message, -⟩ := registered_of_mem_floods mem
    cases message

/-- **Handling an event moves its frame from the line to the counters**, and puts new ones on it. -/
theorem deliver_acts (net : Network) (wired : net.ground.Wired net.links) (matched : net.Matched)
    {event : Event} (reaches : net.ground.Reaches event) :
    ∃ raised, Acts net (net.deliver event).2 [event] raised ∧
      (net.deliver event).2.queue.toList = net.queue.toList ++ raised := by
  have ground := ground_deliver net event
  cases event with
  | frame target frame =>
    obtain ⟨id, port⟩ := target
    rcases reaches with ⟨outline, found⟩ | ⟨card, found, up, interface⟩
    · obtain ⟨switch, here, rfl⟩ := Option.map_eq_some_iff.mp found
      have member := member_of_wired wired here
      rw [deliver_to_switch here] at ground ⊢
      refine ⟨_, acts_applySwitch matched here ground
        (switch.receive_metered _ _ port frame fun present =>
          dueAt_raised (switch.ruling_judge present member frame) rfl) ?_,
        EventQueue.toList_pushAll _ _⟩
      intro n frame' mem
      cases List.mem_singleton.mp mem
      rfl
    · obtain ⟨host, here, rfl⟩ := Option.map_eq_some_iff.mp found
      obtain ⟨uplink, attached⟩ := Option.isSome_iff_exists.mp up
      cases interface
      rw [deliver_to_host here]
      refine ⟨_, acts_setHost matched here attached (host.card_receive frame)
        (Host.receive_metered attached frame _) ?_ (Host.allAt_receive attached frame),
        EventQueue.toList_pushAll _ _⟩
      intro event mem
      exact ⟨frame, List.mem_singleton.mp mem⟩
  | control id message =>
    obtain ⟨outline, found⟩ := reaches
    obtain ⟨switch, here, rfl⟩ := Option.map_eq_some_iff.mp found
    rw [deliver_control here] at ground ⊢
    refine ⟨_, acts_applySwitch matched here ground (switch.receiveMessage_metered _ _ message) ?_,
      EventQueue.toList_pushAll _ _⟩
    intro n frame mem
    cases List.mem_singleton.mp mem

/-- What is sent towards a link end grows by what the events raised bring there. -/
theorem Acts.inflow (matched : net.Matched) (acts : Acts net after taken raised) {m : Measure}
    {n : Endpoint} (meters : net.ground.Meters m n) :
    after.inflow m n = net.inflow m n + m.dueAt n raised := by
  rw [Network.inflow, Network.inflow, opposite?_congr acts.ground]
  cases leads : net.opposite? n with
  | none => rw [acts.aimed leads]; rfl
  | some s => exact acts.sent (matched.symm leads) meters

end Acts

section Balanced

variable {net after : Network} {log taken rest raised : List Event}

/-- **Frames that are taken and raised keep the balance.** -/
theorem Balanced.act (balanced : net.Balanced log) (matched : net.Matched)
    (acts : Acts net after taken raised) (before : net.queue.toList = taken ++ rest)
    (queued : after.queue.toList = rest ++ raised) : after.Balanced log := by
  refine ⟨fun {m s} loose => ?_, fun {m n} meters => ?_⟩
  · rw [opposite?_congr acts.ground] at loose
    rw [acts.idle loose, balanced.idle loose]
  · rw [acts.ground] at meters
    have balance := balanced.balance meters
    rw [before, Measure.dueAt_append] at balance
    rw [acts.inflow matched meters, acts.received meters, queued, Measure.dueAt_append]
    omega

/-- A host stays a host. -/
theorem Build.card (move : net.Build after) {id : DeviceId} {card : Host.Card}
    (found : net.ground.card id = some card) : ∃ card', after.ground.card id = some card' := by
  cases move with
  | addSwitch =>
    rw [card_addSwitch]
    exact ⟨card, found⟩
  | addHost =>
    rw [card_addHost]
    split
    · exact ⟨_, rfl⟩
    · exact ⟨card, found⟩
  | addLink south north =>
    rcases net.addLink_cases south north with same | ⟨-, -, -, linked⟩
    · rw [same]
      exact ⟨card, found⟩
    · rw [linked, ground_linked]
      exact ⟨card, found⟩
  | attachHost host switch port =>
    rcases net.attachHost_cases host switch port with same | ⟨old, here, -, -, attached⟩
    · rw [same]
      exact ⟨card, found⟩
    · rw [attached, ground_attached here]
      dsimp only
      split
      · exact ⟨_, rfl⟩
      · exact ⟨card, found⟩

/-- Links stay while a network is built. -/
theorem Build.opposite? (move : net.Build after) {key peer : Endpoint}
    (leads : net.opposite? key = some peer) : after.opposite? key = some peer := by
  rcases move.couples with same | ⟨south, north, couples⟩
  · rw [same.opposite, leads]
  · exact (couples.opposite_old leads).2.2

/-- No link end changes its measure while a network is built. -/
theorem Build.meters (move : net.Build after) {m : Measure} {n : Endpoint}
    (meters : after.ground.Meters m n) : net.ground.Meters m n := by
  refine ⟨fun {outline} found => ?_, fun found => ?_, fun leads found => ?_⟩
  · obtain ⟨outline', found', same⟩ := move.grows.outline found
    have has := meters.port found'
    cases port : n.port with
    | lower i => rw [port] at has; exact Nat.lt_of_lt_of_eq has same.lower
    | upper i => rw [port] at has; exact Nat.lt_of_lt_of_eq has same.upper
  · obtain ⟨card', found'⟩ := move.card found
    exact meters.target found'
  · rw [← opposite?_eq] at leads
    obtain ⟨card', found'⟩ := move.card found
    have leads' := move.opposite? leads
    rw [opposite?_eq] at leads'
    exact meters.source leads' found'

/-- **Building keeps the balance**: an end that gets linked has sent nothing before. -/
theorem Balanced.build (balanced : net.Balanced log) (move : net.Build after) :
    after.Balanced log := by
  have counted := move.counted
  have loosened : ∀ {s}, after.opposite? s = none → net.opposite? s = none := by
    intro s loose
    cases leads : net.opposite? s with
    | none => rfl
    | some peer => cases (move.opposite? leads).symm.trans loose
  have inflow : ∀ m n, after.inflow m n = net.inflow m n := by
    intro m n
    rw [Network.inflow, Network.inflow]
    rcases move.couples with same | ⟨south, north, couples⟩
    · rw [same.opposite, funext (counted .sent m)]
    · rw [couples.opposite, funext (counted .sent m)]
      split
      · rename_i same
        rw [← same, couples.freeNorth]
        exact balanced.idle couples.freeSouth
      · split
        · rename_i same
          rw [← same, couples.freeSouth]
          exact balanced.idle couples.freeNorth
        · rfl
  refine ⟨fun loose => ?_, fun {m n} meters => ?_⟩
  · rw [counted, balanced.idle (loosened loose)]
  · rw [inflow, counted, move.queue]
    exact balanced.balance (move.meters meters)

/-- A host that begins to send keeps the balance. -/
theorem Balanced.post (balanced : net.Balanced log) (matched : net.Matched) {id : DeviceId}
    {host later : Host} {uplink : Endpoint} (here : net.hostAt? id = some host)
    (attached : host.uplink = some uplink) (card : later.card = host.card)
    (metered : host.Metered later [] raised) (out : Host.AllAt uplink raised) :
    ((net.setHost id later).enqueue raised).Balanced log :=
  balanced.act matched (acts_setHost matched here attached card metered nofun out)
    (List.nil_append _).symm (EventQueue.toList_pushAll _ _)

/-- **Reached networks are balanced**, at every link end and between any two events. -/
theorem Logged.balanced (logged : Logged log net) : net.Balanced log := by
  induction logged with
  | empty => exact ⟨fun _ => rfl, fun _ => rfl⟩
  | build _ move ih => exact ih.build move
  | send before here posted ih =>
    obtain ⟨uplink, attached, out⟩ := Host.allAt_send posted
    exact ih.post before.reached.matched here attached (Host.card_send posted)
      (Host.send_metered posted) out
  | retransmit before here posted ih =>
    obtain ⟨uplink, attached, out⟩ := Host.allAt_retransmit posted
    exact ih.post before.reached.matched here attached (Host.card_retransmit posted)
      (Host.retransmit_metered posted) out
  | inject port frame before here ih =>
    refine ⟨ih.idle, fun {m n} meters => ?_⟩
    rw [enqueue, EventQueue.toList_pushAll, Measure.dueAt_append, Measure.dueAt_append]
    exact (Nat.add_assoc ..).symm.trans
      ((congrArg (· + _) (ih.balance meters)).trans (Nat.add_assoc ..))
  | setStopAfter _ _ ih => exact ⟨ih.idle, ih.balance⟩
  | watch _ _ ih => exact ⟨ih.idle, ih.balance⟩
  | @event log net after result before stepped ih =>
    have sturdy := before.reached.sturdy
    have matched := before.reached.matched
    obtain ⟨event, queue, trace, taken, reaches, delivered⟩ := sturdy.delivers stepped
    obtain ⟨raised, acts, queued⟩ :=
      deliver_acts { net with queue, trace, handled := net.handled + 1 } sturdy.wired
        (matched.of_sameLinks ⟨fun _ => rfl, rfl, rfl⟩) reaches
    rw [← delivered] at acts queued
    exact ih.act matched ⟨acts.ground, acts.received, acts.sent, acts.aimed, acts.idle⟩ taken queued

end Balanced

/-! ## Links -/

section Links

variable {net : Network} {log : List Event}

/-- The ends of a link lead to each other, whichever comes first. -/
theorem Matched.opposite?_of_link (matched : net.Matched) {s n : Endpoint}
    (link : (s, n) ∈ net.links ∨ (n, s) ∈ net.links) : net.opposite? n = some s := by
  rcases link with along | against
  · exact (matched.ends along).2
  · exact (matched.ends against).1

/-- Frames are counted at both ends of a link, and bytes between switches. -/
theorem meters_of_opposite? {m : Measure} {s n : Endpoint} (leads : net.opposite? n = some s)
    (fits : m = .packets ∨ (∃ switch, net.getSwitch s.device = .ok switch) ∧
      ∃ switch, net.getSwitch n.device = .ok switch) : net.ground.Meters m n := by
  have packets : ∀ {id switch card}, net.getSwitch id = .ok switch →
      net.ground.card id = some card → m = .packets := by
    intro id switch card found listed
    have here := getSwitch_eq_ok_iff.mp found
    simp only [ground, hostAt?_of_switchAt? here, Option.map_none] at listed
    cases listed
  refine ⟨fun {outline} found => ?_, fun {card} listed => ?_, fun {s' card} leads' listed => ?_⟩
  · obtain ⟨switch, here, rfl⟩ := Option.map_eq_some_iff.mp found
    rw [opposite?_of_switchAt? here] at leads
    obtain ⟨state, present, -⟩ := Option.bind_eq_some_iff.mp leads
    rw [switch.hasPort_outline, present]
    rfl
  · rcases fits with frames | ⟨-, switch, north⟩
    · exact frames
    · exact packets north listed
  · rcases fits with frames | ⟨⟨switch, south⟩, -⟩
    · exact frames
    · rw [← opposite?_eq, leads] at leads'
      cases leads'
      exact packets south listed

/-- A port that occurs in no link has no peer. -/
theorem Ground.Wired.loose (wired : net.ground.Wired net.links) {id : DeviceId} {switch : Switch}
    {port : Port} (here : net.switchAt? id = some switch)
    (unlisted : ∀ link ∈ net.links, link.1 ≠ ⟨id, port⟩ ∧ link.2 ≠ ⟨id, port⟩) :
    net.opposite? ⟨id, port⟩ = none := by
  cases leads : net.opposite? ⟨id, port⟩ with
  | none => rfl
  | some peer =>
    have toPeer : net.ground.peer? ⟨id, port⟩ = some peer :=
      (peer?_of_switchAt? here port).trans ((opposite?_of_switchAt? here).symm.trans leads)
    cases port with
    | lower i => exact absurd rfl (unlisted _ (wired.lower toPeer)).2
    | upper j => exact absurd rfl (unlisted _ (wired.upper toPeer)).1

/-- **Every link conserves frames, in both directions**: what was sent at `s` and what was injected
at `n` is what was received at `n` and what still waits for it. Between switches this holds of
bytes as well. A port without a link has sent nothing. -/
theorem links_conserve (logged : Logged log net) :
    (∀ (m : Measure) (s n : Endpoint), (s, n) ∈ net.links ∨ (n, s) ∈ net.links →
      m = .packets ∨ (∃ switch, net.getSwitch s.device = .ok switch) ∧
        (∃ switch, net.getSwitch n.device = .ok switch) →
      net.counted .sent m s + m.dueAt n log =
        net.counted .received m n + m.dueAt n net.queue.toList) ∧
    ∀ id switch port state, net.getSwitch id = .ok switch → switch.port? port = some state →
      (∀ link ∈ net.links, link.1 ≠ ⟨id, port⟩ ∧ link.2 ≠ ⟨id, port⟩) →
      state.counters.txPackets = 0 := by
  have balanced := logged.balanced
  refine ⟨fun m s n link fits => ?_, fun id switch port state found present unlisted => ?_⟩
  · have leads := logged.reached.matched.opposite?_of_link link
    have balance := balanced.balance (meters_of_opposite? leads fits)
    rwa [inflow, leads, Option.elim_some] at balance
  · have here := getSwitch_eq_ok_iff.mp found
    have loose := logged.reached.sturdy.wired.loose here unlisted
    have idle : net.counted .sent .packets ⟨id, port⟩ = 0 := balanced.idle loose
    rw [counted_of_switchAt? here, Switch.meter, present, Option.elim_some] at idle
    exact idle

end Links

/-- A question that comes down to the edge switch of the cottage. -/
def rumour : Frame :=
  ⟨(Pmac.encode 1 0 0).mac, .broadcast,
    .arp (.request (Pmac.encode 1 0 0).mac ⟨10, 1, 0, 2⟩ ⟨10, 0, 0, 2⟩)⟩

/-- The cottage after one event of an injected frame: the host has not yet got its copy. -/
def overheard : Network := ((cottage.setStopAfter (some 1)).inject 0 (.upper 1) rumour).2

/-- The log of the overheard frame holds that frame alone. -/
theorem logged_overheard : Logged [.frame ⟨0, .upper 1⟩ rumour] overheard := by
  have built : Logged [] cottage :=
    (((((Logged.empty _ _).build (.addSwitch ..)).build (.addHost ..)).build
      (.addSwitch ..)).build (.attachHost ..)).build (.addLink ..)
  obtain ⟨switch, here⟩ : ∃ switch, (cottage.setStopAfter (some 1)).getSwitch 0 = .ok switch :=
    ⟨_, rfl⟩
  exact (built.setStopAfter (some 1)).injects here (.upper 1) rumour

/-- An interrupted flood: the injected frame is counted as received, and its copy waits. -/
theorem overheard_conserves :
    ((cottage.setStopAfter (some 1)).inject 0 (.upper 1) rumour).1 = .error .noConvergence ∧
      (overheard.counted .sent .packets ⟨0, .lower 0⟩ = 1 ∧
        overheard.counted .sent .packets ⟨0, .lower 0⟩ +
            Measure.packets.dueAt ⟨1, .upper 0⟩ [.frame ⟨0, .upper 1⟩ rumour] =
          overheard.counted .received .packets ⟨1, .upper 0⟩ +
            Measure.packets.dueAt ⟨1, .upper 0⟩ overheard.queue.toList) ∧
      overheard.counted .received .bytes ⟨0, .upper 1⟩ = rumour.size ∧
        overheard.counted .sent .bytes ⟨2, .lower 0⟩ +
            Measure.bytes.dueAt ⟨0, .upper 1⟩ [.frame ⟨0, .upper 1⟩ rumour] =
          overheard.counted .received .bytes ⟨0, .upper 1⟩ +
            Measure.bytes.dueAt ⟨0, .upper 1⟩ overheard.queue.toList := by
  obtain ⟨conserve, -⟩ := links_conserve logged_overheard
  refine ⟨by decide +kernel, ⟨by decide +kernel, ?_⟩, by decide +kernel, ?_⟩
  · exact conserve .packets _ _ (.inr (by decide +kernel)) (.inl rfl)
  · exact conserve .bytes _ _ (.inr (by decide +kernel)) (.inr ⟨⟨_, rfl⟩, ⟨_, rfl⟩⟩)

end Network

end PmacFabric
