import PmacFabric.Proofs.Event.Lanes
import PmacFabric.Proofs.FatTree.Invariant

/-!
# Where the data is

Data from one seat to another is in one of three places: delivered, in a frame, or still waiting at
its sender for an address. The **account** of two seats lists all of it, oldest first. It reads the
frames through the hops that they have ahead of them (`load?`), so that those that overtook others
in the queue stand where they belong. `Reaction.account` says that no event changes the account of
any two seats: it can only move data from one place to the next.
-/

namespace PmacFabric

/-- The data that packets carry from one address to another. -/
def between (src dst : Ipv4Address) (packets : List Ipv4Packet) : List Bytes :=
  (packets.filter fun packet => packet.src = src ∧ packet.dst = dst).map (·.data)

theorem between_append (src dst : Ipv4Address) (packets more : List Ipv4Packet) :
    between src dst (packets ++ more) = between src dst packets ++ between src dst more := by
  rw [between, List.filter_append, List.map_append]
  rfl

theorem between_cons (src dst : Ipv4Address) (packet : Ipv4Packet) (packets : List Ipv4Packet) :
    between src dst (packet :: packets) =
      between src dst [packet] ++ between src dst packets :=
  between_append src dst [packet] packets

/-- A packet carries its data from its source to its destination. -/
theorem between_singleton (src dst : Ipv4Address) (packet : Ipv4Packet) :
    between src dst [packet] =
      if packet.src = src ∧ packet.dst = dst then [packet.data] else [] := by
  unfold between
  rw [List.filter_cons]
  simp only [decide_eq_true_eq]
  split <;> rfl

/-- No data comes from an address that has sent nothing. -/
theorem between_eq_nil {src dst : Ipv4Address} {packets : List Ipv4Packet}
    (silent : ∀ packet ∈ packets, packet.src = src → packet.dst ≠ dst) :
    between src dst packets = [] := by
  rw [between, List.map_eq_nil_iff, List.filter_eq_nil_iff]
  intro packet mem both
  obtain ⟨src, dst⟩ := of_decide_eq_true both
  exact silent packet mem src dst

/-- The IPv4 packet that an event carries. -/
def Event.packet? : Event → Option Ipv4Packet
  | .frame _ ⟨_, _, .ipv4 packet⟩ => some packet
  | _ => none

namespace FatTree

open Network (Ground)

section Load

variable (k : Nat) (a b : Seat)

/-- The hops that a frame has ahead of it. -/
def ahead : Event → Nat
  | .frame target _ => remaining a b (.ofEndpoint k target)
  | .control _ _ => 0

/-- The data that an event carries from one seat to another, with the hops that it has ahead. -/
def load? (event : Event) : Option (Nat × Bytes) :=
  event.packet?.bind fun packet =>
    if packet.src = a.ip ∧ packet.dst = b.ip then some (ahead k a b event, packet.data) else none

/-- The data in frames from one seat to another, with the hops that it has ahead. -/
def loads (events : List Event) : List (Nat × Bytes) := events.filterMap (load? k a b)

/-- The data in frames from one seat to another, oldest first. -/
def flying (events : List Event) : List Bytes := inOrder (distance a b) (loads k a b events)

/-- The packets that have arrived at a seat. -/
def received (hosts : DeviceId → Option Host) : List Ipv4Packet :=
  (hosts b.id).elim [] fun host => host.inbox.toList

/-- The data that has arrived from one seat at another. -/
def arrived (hosts : DeviceId → Option Host) : List Bytes :=
  between a.ip b.ip (received b hosts)

/-- The data that waits at a seat for an address. -/
def waiting (hosts : DeviceId → Option Host) (ip : Ipv4Address) : List Bytes :=
  (hosts a.id).elim [] fun host => host.pendingFor ip

/-- **All data from one seat to another**, oldest first. -/
def account (hosts : DeviceId → Option Host) (events : List Event) : List Bytes :=
  arrived a b hosts ++ flying k a b events ++ waiting a hosts b.ip

variable {k a b}

theorem loads_append (events more : List Event) :
    loads k a b (events ++ more) = loads k a b events ++ loads k a b more :=
  List.filterMap_append

theorem loads_cons_none {event : Event} (empty : load? k a b event = none) (events : List Event) :
    loads k a b (event :: events) = loads k a b events :=
  List.filterMap_cons_none empty

theorem loads_cons_some {event : Event} {item : Nat × Bytes}
    (loaded : load? k a b event = some item) (events : List Event) :
    loads k a b (event :: events) = item :: loads k a b events :=
  List.filterMap_cons_some loaded

/-- Events that carry nothing between two seats are left out. -/
theorem loads_eq_nil {events : List Event} (empty : ∀ event ∈ events, load? k a b event = none) :
    loads k a b events = [] :=
  List.filterMap_eq_nil_iff.mpr empty

/-- The loads of two seats are the packets between their addresses. -/
theorem map_loads (events : List Event) :
    (loads k a b events).map (·.2) = between a.ip b.ip (events.filterMap Event.packet?) := by
  induction events with
  | nil => rfl
  | cons event rest ih =>
    cases shown : event.packet? with
    | none =>
      have empty : load? k a b event = none := by rw [load?, shown, Option.bind_none]
      rw [loads_cons_none empty, List.filterMap_cons_none shown, ih]
    | some packet =>
      rw [List.filterMap_cons_some shown, between_cons, between_singleton, ← ih]
      by_cases own : packet.src = a.ip ∧ packet.dst = b.ip
      · have loaded : load? k a b event = some (ahead k a b event, packet.data) := by
          rw [load?, shown, Option.bind_some, if_pos own]
        rw [loads_cons_some loaded, if_pos own]
        rfl
      · have empty : load? k a b event = none := by
          rw [load?, shown, Option.bind_some, if_neg own]
        rw [loads_cons_none empty, if_neg own, List.nil_append]

/-- Events that carry nothing between two seats leave alone what is flying. -/
theorem flying_idle {event : Event} {events : List Event} (rest : List Event)
    (empty : load? k a b event = none) (quiet : ∀ raised ∈ events, load? k a b raised = none) :
    flying k a b (event :: rest) = flying k a b (rest ++ events) := by
  rw [flying, flying, loads_cons_none empty, loads_append, loads_eq_nil quiet, List.append_nil]

/-- A hop leaves alone what is flying. -/
theorem flying_hop {event raised : Event} {n : Nat} {bytes : Bytes} (rest : List Event)
    (loaded : load? k a b event = some (n + 1, bytes))
    (later : load? k a b raised = some (n, bytes)) (near : n < distance a b) :
    flying k a b (event :: rest) = flying k a b (rest ++ [raised]) := by
  rw [flying, flying, loads_cons_some loaded, loads_append, inOrder_hop near,
    loads_cons_some later]
  rfl

/-- What arrives is the oldest of what is flying. -/
theorem flying_arrive {event : Event} {bytes : Bytes} (rest : List Event)
    (loaded : load? k a b event = some (0, bytes)) :
    flying k a b (event :: rest) = bytes :: flying k a b rest := by
  rw [flying, loads_cons_some loaded, inOrder_arrive]
  rfl

/-- What leaves its seat is the newest of what is flying. -/
theorem flying_leave {events : List Event} {data : List Bytes} (rest : List Event)
    (loaded : loads k a b events = data.map fun bytes => (distance a b, bytes)) :
    flying k a b (rest ++ events) = flying k a b rest ++ data := by
  rw [flying, loads_append, loaded, inOrder_append]
  rfl

end Load

/-! ## Letters -/

section Letters

variable {k : Nat} {ground : Ground} {a b seat dest : Seat}

/-- A datagram is a load between the two addresses that it names. -/
theorem load_data (target : Endpoint) (ip : Ipv4Address) (bytes : Bytes) (src : MacAddress)
    (srcIp : Ipv4Address) (dst : MacAddress) :
    load? k a b (.frame target ((Letter.data ip bytes).frame src srcIp dst)) =
      if srcIp = a.ip ∧ ip = b.ip then some (remaining a b (.ofEndpoint k target), bytes)
      else none :=
  rfl

/-- A letter between two seats is data that counts for them, or nothing that counts. -/
theorem load_cases (housed : Housed k ground) (ha : Sits k ground a) (hb : Sits k ground b)
    (hs : Sits k ground seat) (hd : Sits k ground dest) (letter : Letter)
    (bound : letter.dst = dest.ip) :
    (∃ bytes, a = seat ∧ b = dest ∧ letter = .data dest.ip bytes ∧ ∀ target src dst,
      load? k a b (.frame target (letter.frame src seat.ip dst)) =
        some (remaining seat dest (.ofEndpoint k target), bytes)) ∨
      ∀ target src dst, load? k a b (.frame target (letter.frame src seat.ip dst)) = none := by
  cases letter with
  | answer => exact .inr fun _ _ _ => rfl
  | question => exact .inr fun _ _ _ => rfl
  | data ip bytes =>
    have bound : ip = dest.ip := bound
    subst bound
    by_cases own : seat.ip = a.ip ∧ dest.ip = b.ip
    · cases housed.eq_of_ip hs ha own.1
      cases housed.eq_of_ip hd hb own.2
      exact .inl ⟨bytes, rfl, rfl, rfl, fun _ _ _ => if_pos own⟩
    · exact .inr fun _ _ _ => if_neg own

/-- Data in a sound event is no farther from its destination than it was at its start. -/
theorem Sound.near {directory : Directory} {event : Event} (sound : Sound k ground directory event)
    (housed : Housed k ground) (ha : Sits k ground a) (hb : Sits k ground b) {item : Nat × Bytes}
    (loaded : load? k a b event = some item) : item.1 ≤ distance a b := by
  cases sound with
  | addressed hs hd _ bound =>
    rcases load_cases housed ha hb hs hd _ bound with ⟨_, rfl, rfl, _, full⟩ | empty
    · rw [full, remaining_uplink b ha] at loaded
      cases loaded
      exact Nat.le_refl _
    · cases (empty _ _ _).symm.trans loaded
  | asking => cases loaded
  | carried hs hd _ _ bound way =>
    rcases load_cases housed ha hb hs hd _ bound with ⟨_, rfl, rfl, _, full⟩ | empty
    · rw [full, remaining_of_onWay hs hd way] at loaded
      cases loaded
      exact Nat.le_of_lt way.lt_distance
    · cases (empty _ _ _).symm.trans loaded
  | ordered => cases loaded
  | spreading => cases loaded

/-- Questions carry no data. -/
theorem load_question (target : Endpoint) (asked : Ipv4Address) (src dst : MacAddress)
    (ip : Ipv4Address) :
    load? k a b (.frame target ((Letter.question asked).frame src ip dst)) = none :=
  rfl

/-- What a host releases for a seat counts for these two. -/
theorem loads_released (host : Host) (housed : Housed k ground) (ha : Sits k ground a)
    (hb : Sits k ground b) (hs : Sits k ground seat) (hd : Sits k ground dest) :
    loads k a b (released k dest host seat) =
      if a = dest ∧ b = seat then
        (host.pendingFor seat.ip).map fun bytes => (distance a b, bytes)
      else [] := by
  unfold released
  split
  · rename_i own
    obtain ⟨rfl, rfl⟩ := own
    induction host.pendingFor b.ip with
    | nil => rfl
    | cons bytes rest ih =>
      have loaded : load? k a b (.frame (a.uplink k)
          ((Letter.data b.ip bytes).frame a.amac a.ip b.pmac.mac)) =
            some (distance a b, bytes) :=
        (if_pos ⟨rfl, rfl⟩).trans (congrArg (fun n => some (n, bytes)) (remaining_uplink b ha))
      rw [List.map_cons, List.map_cons, loads_cons_some loaded, ih]
  · rename_i other
    apply loads_eq_nil
    intro event mem
    obtain ⟨bytes, _, rfl⟩ := List.mem_map.mp mem
    refine if_neg fun own => other ?_
    exact ⟨(housed.eq_of_ip hd ha own.1).symm, (housed.eq_of_ip hs hb own.2).symm⟩

end Letters

/-! ## Hosts -/

section Hosts

variable {net : Network} {a b seat dest : Seat} {host : Host}

/-- A host that is handed nothing has received what it had. -/
theorem received_withHost (here : net.hostAt? dest.id = some host) (new : Host)
    (kept : new.inbox = host.inbox) :
    received b (withHost net dest.id new) = received b net.hostAt? := by
  unfold received withHost
  split
  · rename_i same
    rw [← same, here, Option.elim_some, Option.elim_some, kept]
  · rfl

/-- A host that is handed a packet has received one more, and no other host has. -/
theorem received_pushed {packet : Ipv4Packet} (here : net.hostAt? dest.id = some host) (new : Host)
    (pushed : new.inbox = host.inbox.push packet) :
    received b (withHost net dest.id new) =
      received b net.hostAt? ++ if dest.id = b.id then [packet] else [] := by
  unfold received withHost
  by_cases same : dest.id = b.id
  · rw [if_pos same, if_pos same, ← same, here, Option.elim_some, Option.elim_some, pushed,
      Array.toList_push]
  · rw [if_neg same, if_neg same, List.append_nil]

/-- A host that is handed nothing leaves what has arrived. -/
theorem arrived_withHost (here : net.hostAt? dest.id = some host) (new : Host)
    (kept : new.inbox = host.inbox) :
    arrived a b (withHost net dest.id new) = arrived a b net.hostAt? := by
  rw [arrived, received_withHost here new kept]
  rfl

/-- A host that puts nothing aside leaves what waits. -/
theorem waiting_withHost (here : net.hostAt? dest.id = some host) (new : Host)
    (kept : new.pending = host.pending) (ip : Ipv4Address) :
    waiting a (withHost net dest.id new) ip = waiting a net.hostAt? ip := by
  unfold waiting withHost
  split
  · rename_i same
    rw [← same, here, Option.elim_some, Option.elim_some, Host.pendingFor, Host.pendingFor, kept]
  · rfl

/-- Nothing waits at a host for an address that it has learned. -/
theorem waiting_learned (here : net.hostAt? dest.id = some host) (new : Host)
    (emptied : new.pending = host.pending.erase seat.ip) (ip : Ipv4Address) :
    waiting a (withHost net dest.id new) ip =
      if a.id = dest.id ∧ ip = seat.ip then [] else waiting a net.hostAt? ip := by
  unfold waiting withHost
  by_cases same : dest.id = a.id
  · rw [if_pos same, ← same, here, Option.elim_some, Option.elim_some, Host.pendingFor,
      Host.pendingFor, emptied, Std.TreeMap.getElem?_erase]
    by_cases own : ip = seat.ip
    · rw [if_pos (Std.compare_eq_iff_eq.mpr own.symm), if_pos ⟨rfl, own⟩]
      rfl
    · have other : ¬ compare seat.ip ip = .eq := fun h => own (Std.compare_eq_iff_eq.mp h).symm
      rw [if_neg other, if_neg fun both => own both.2]
  · rw [if_neg same, if_neg fun both => same both.1.symm]

/-- Data that has to wait is the newest of what waits for its address. -/
theorem waiting_added {ip : Ipv4Address} {bytes : Bytes} (here : net.hostAt? dest.id = some host)
    (new : Host) (added : new.pending = host.pending.insert ip (host.pendingFor ip ++ [bytes]))
    (other : Ipv4Address) :
    waiting a (withHost net dest.id new) other =
      waiting a net.hostAt? other ++ if dest.id = a.id ∧ ip = other then [bytes] else [] := by
  unfold waiting withHost
  by_cases same : dest.id = a.id
  · rw [if_pos same, ← same, here, Option.elim_some, Option.elim_some, Host.pendingFor, added,
      Std.TreeMap.getElem?_insert]
    by_cases own : ip = other
    · subst own
      rw [if_pos (Std.compare_eq_iff_eq.mpr rfl), if_pos ⟨rfl, rfl⟩]
      rfl
    · rw [if_neg fun h => own (Std.compare_eq_iff_eq.mp h), if_neg fun both => own both.2,
        List.append_nil]
      rfl
  · rw [if_neg same, if_neg fun both => same both.1, List.append_nil]

end Hosts

/-! ## Reactions -/

section Reaction

variable {k : Nat} {net : Network} {a b seat dest : Seat} {event : Event} {who : Option Seat}
  {hosts : DeviceId → Option Host} {events : List Event}

/-- Events that carry nothing between two seats leave their account alone. -/
theorem account_idle (empty : load? k a b event = none)
    (quiet : ∀ raised ∈ events, load? k a b raised = none) (rest : List Event) :
    account k a b hosts (event :: rest) = account k a b hosts (rest ++ events) := by
  rw [account, account, flying_idle rest empty quiet]

/-- A letter that is passed on leaves the account alone, if it comes one hop nearer. -/
theorem account_forward {letter : Letter} {here there : Endpoint} {src dst src' dst' : MacAddress}
    {n : Nat} (housed : Housed k net.ground) (ha : Sits k net.ground a) (hb : Sits k net.ground b)
    (hs : Sits k net.ground seat) (hd : Sits k net.ground dest) (bound : letter.dst = dest.ip)
    (before : remaining seat dest (.ofEndpoint k here) = n + 1)
    (after : remaining seat dest (.ofEndpoint k there) = n) (near : n < distance seat dest)
    (rest : List Event) :
    account k a b hosts (.frame here (letter.frame src seat.ip dst) :: rest) =
      account k a b hosts (rest ++ [.frame there (letter.frame src' seat.ip dst')]) := by
  rcases load_cases housed ha hb hs hd letter bound with ⟨bytes, rfl, rfl, _, loaded⟩ | empty
  · have first := loaded here src dst
    have later := loaded there src' dst'
    rw [before] at first
    rw [after] at later
    rw [account, account, flying_hop rest first later near]
  · apply account_idle (empty _ _ _)
    intro raised mem
    cases List.mem_singleton.mp mem
    exact empty _ _ _

/-- What a host releases moves from the waiting data to the flying. -/
theorem account_release {host : Host} {more : List Event} (new : Host) (housed : Housed k net.ground)
    (ha : Sits k net.ground a) (hb : Sits k net.ground b) (hs : Sits k net.ground seat)
    (hd : Sits k net.ground dest) (here : net.hostAt? dest.id = some host)
    (kept : new.inbox = host.inbox) (emptied : new.pending = host.pending.erase seat.ip)
    (empty : load? k a b event = none) (quiet : ∀ raised ∈ more, load? k a b raised = none)
    (rest : List Event) :
    account k a b net.hostAt? (event :: rest) =
      account k a b (withHost net dest.id new) (rest ++ (released k dest host seat ++ more)) := by
  have sent := loads_released host housed ha hb hs hd
  have idle : flying k a b (event :: rest) = flying k a b rest := by
    rw [flying, loads_cons_none empty]
    rfl
  have loaded : loads k a b (released k dest host seat ++ more) =
      loads k a b (released k dest host seat) := by
    rw [loads_append, loads_eq_nil quiet, List.append_nil]
  rw [account, account, arrived_withHost here new kept, waiting_learned here new emptied, idle]
  by_cases own : a = dest ∧ b = seat
  · obtain ⟨rfl, rfl⟩ := own
    have all : waiting a net.hostAt? b.ip = host.pendingFor b.ip := by
      rw [waiting, here, Option.elim_some]
    rw [if_pos ⟨rfl, rfl⟩] at sent
    rw [if_pos ⟨rfl, rfl⟩, flying_leave rest (loaded.trans sent), all, List.append_nil,
      List.append_assoc]
  · have other : ¬ (a.id = dest.id ∧ b.ip = seat.ip) := fun same =>
      own ⟨ha.eq_of_id hd same.1, housed.eq_of_ip hb hs same.2⟩
    rw [if_neg own] at sent
    have nothing : loads k a b (released k dest host seat ++ more) =
        ([] : List Bytes).map fun bytes => (distance a b, bytes) := loaded.trans sent
    rw [if_neg other, flying_leave rest nothing, List.append_nil]

/-- Data that is delivered moves from the flying data to the arrived. -/
theorem account_arrive {host : Host} {bytes : Bytes} (housed : Housed k net.ground)
    (ha : Sits k net.ground a) (hb : Sits k net.ground b) (hs : Sits k net.ground seat)
    (hd : Sits k net.ground dest) (here : net.hostAt? dest.id = some host) (rest : List Event) :
    account k a b net.hostAt?
        (.frame dest.line ((Letter.data dest.ip bytes).frame seat.pmac.mac seat.ip dest.amac) ::
          rest) =
      account k a b (withHost net dest.id (accepting host ⟨seat.ip, dest.ip, bytes⟩))
        (rest ++ []) := by
  have pushed : arrived a b (withHost net dest.id (accepting host ⟨seat.ip, dest.ip, bytes⟩)) =
      arrived a b net.hostAt? ++
        if dest.id = b.id ∧ seat.ip = a.ip ∧ dest.ip = b.ip then [bytes] else [] := by
    rw [arrived, received_pushed here (accepting host _) rfl, between_append]
    by_cases same : dest.id = b.id
    · rw [if_pos same, between_singleton]
      simp only [same, true_and]
      rfl
    · rw [if_neg same, if_neg fun both => same both.1]
      rfl
  rw [account, account, pushed, waiting_withHost here (accepting host _) rfl, List.append_nil]
  have loaded := load_data (k := k) (a := a) (b := b) dest.line dest.ip bytes seat.pmac.mac seat.ip
    dest.amac
  by_cases own : seat.ip = a.ip ∧ dest.ip = b.ip
  · cases housed.eq_of_ip hs ha own.1
    cases housed.eq_of_ip hd hb own.2
    rw [if_pos own, remaining_of_onWay hs hd .arrived] at loaded
    rw [if_pos ⟨rfl, rfl, rfl⟩, flying_arrive rest loaded]
    simp only [List.append_assoc, List.singleton_append]
  · rw [if_neg own] at loaded
    rw [if_neg fun all => own all.2, List.append_nil, flying, loads_cons_none loaded]
    rfl

/-- **No event changes the account of two seats.** -/
theorem Reaction.account (reaction : Reaction k net event who hosts events)
    (housed : Housed k net.ground) (ha : Sits k net.ground a) (hb : Sits k net.ground b)
    (rest : List Event) :
    account k a b net.hostAt? (event :: rest) = account k a b hosts (rest ++ events) := by
  cases reaction with
  | @enter seat dest letter dst n target hs hd _ bound way hops =>
    have before := (remaining_uplink dest hs).trans hops
    exact account_forward housed ha hb hs hd bound before (remaining_of_onWay hs hd way)
      way.lt_distance rest
  | miss hs =>
    refine account_idle (load_question _ _ _ _ _) ?_ rest
    intro raised mem
    obtain ⟨_, _, rfl⟩ := List.mem_map.mp mem
    rfl
  | @hop seat dest letter n target next hs hd _ _ bound way later =>
    exact account_forward housed ha hb hs hd bound (remaining_of_onWay hs hd way)
      (remaining_of_onWay hs hd later) (Nat.lt_of_succ_lt way.lt_distance) rest
  | order =>
    refine account_idle rfl ?_ rest
    intro raised mem
    obtain ⟨_, _, rfl⟩ := List.mem_map.mp mem
    exact load_question _ _ _ _ _
  | fan =>
    refine account_idle (load_question _ _ _ _ _) ?_ rest
    intro raised mem
    obtain ⟨_, _, rfl⟩ := List.mem_map.mp mem
    exact load_question _ _ _ _ _
  | offer =>
    refine account_idle (load_question _ _ _ _ _) ?_ rest
    intro raised mem
    obtain ⟨_, _, offered⟩ := List.mem_filterMap.mp mem
    obtain ⟨_, _, rfl⟩ := Option.map_eq_some_iff.mp offered
    exact load_question _ _ _ _ _
  | data hs hd _ _ here => exact account_arrive housed ha hb hs hd here rest
  | @answered seat dest host hs hd _ _ here =>
    have empty : load? k a b (.frame dest.line
        ((Letter.answer dest.ip).frame seat.pmac.mac seat.ip dest.amac)) = none := rfl
    have done := account_release (learned host seat) housed ha hb hs hd here rfl rfl empty
      (List.forall_mem_nil _) rest
    rw [List.append_nil] at done
    exact done
  | @asked seat dest host dst hs hd _ _ here =>
    refine account_release (learned host seat).countAnswered housed ha hb hs hd here rfl rfl
      (load_question _ _ _ _ _) ?_ rest
    intro raised mem
    cases List.mem_singleton.mp mem
    rfl
  | @ignored seat dest host asked hs hd _ _ here =>
    rw [FatTree.account, FatTree.account, arrived_withHost here host.countReceived rfl,
      waiting_withHost here host.countReceived rfl]
    refine congrArg (arrived a b net.hostAt? ++ · ++ waiting a net.hostAt? b.ip) ?_
    exact flying_idle rest (load_question _ _ _ _ _) (List.forall_mem_nil _)

end Reaction

end FatTree

end PmacFabric
