import PmacFabric.Network.Traffic
import PmacFabric.Proofs.Device.Host

/-!
# A host keeps what it cannot send yet

Data that a host accepts leaves at once, or waits until its address is resolved. A host is `Orderly`
if whatever waits is not resolved, is at least one item, and has a link to leave by; then learning an
address always releases what waits for it. A `Turn` is what an operation, or a sequence of them, makes
of a host, of the data that it accepted and of the events that it added, and turns follow one another
(`Turn.trans`). **`Host.outbox_faithful`** reads off, for every history of a host, where its data is,
what its counters say, and when it asks for an address.
-/

namespace PmacFabric

/-- The data that an event carries to an address. -/
def Event.dataFor? (ip : Ipv4Address) : Event → Option Bytes
  | .frame _ ⟨_, _, .ipv4 packet⟩ => if packet.dst = ip then some packet.data else none
  | _ => none

def Event.isData : Event → Bool
  | .frame _ ⟨_, _, .ipv4 _⟩ => true
  | _ => false

def Event.isQuestion : Event → Bool
  | .frame _ ⟨_, _, .arp arp⟩ => arp.isRequest
  | _ => false

def Event.isAnswer : Event → Bool
  | .frame _ ⟨_, _, .arp arp⟩ => !arp.isRequest
  | _ => false

/-- The data that events carry to an address, in order. -/
def dataTo (ip : Ipv4Address) (events : List Event) : List Bytes :=
  events.filterMap (Event.dataFor? ip)

/-- The data that was accepted for an address, in order. -/
def acceptedFor (ip : Ipv4Address) (accepted : List (Ipv4Address × Bytes)) : List Bytes :=
  accepted.filterMap fun item => if item.1 = ip then some item.2 else none

/-- What may be done to a host. -/
inductive HostOperation where
  | attach (uplink : Endpoint)
  | send (dst : Ipv4Address) (data : Bytes)
  | retransmit
  | receive (frame : Frame)

namespace Host

/-- An operation that changes nothing where it fails. -/
def Outcome.ofExcept (host : Host) : Except DeviceError (List Event × Host) → Outcome
  | .error e => ⟨.error e, host, []⟩
  | .ok (events, host) => ⟨.ok (), host, events⟩

def perform (host : Host) : HostOperation → Outcome
  | .attach uplink => .ofExcept host ((host.attach uplink).map ([], ·))
  | .send dst data => .ofExcept host (host.send dst data)
  | .retransmit => .ofExcept host host.retransmit
  | .receive frame => host.receive frame

/-- The data that an operation has a host accept. -/
def Outcome.accepted (outcome : Outcome) : HostOperation → List (Ipv4Address × Bytes)
  | .send dst data =>
    match outcome.result with
    | .ok () => [(dst, data)]
    | .error _ => []
  | _ => []

/-- A host, with the data that it has accepted and the events that it has added so far. -/
structure History where
  host : Host
  accepted : List (Ipv4Address × Bytes) := []
  enqueued : List Event := []

def History.perform (history : History) (operation : HostOperation) : History :=
  let outcome := history.host.perform operation
  { host := outcome.host
    accepted := history.accepted ++ outcome.accepted operation
    enqueued := history.enqueued ++ outcome.events }

def History.performAll (history : History) (operations : List HostOperation) : History :=
  operations.foldl History.perform history

/-- Whatever waits at a host is not resolved, is at least one item, and has a link to leave by. -/
def Orderly (host : Host) : Prop :=
  ∀ ip items, host.pending[ip]? = some items →
    items ≠ [] ∧ host.resolve? ip = none ∧ host.uplink.isSome

/-- Counters that have counted events. -/
structure Billed (before : HostCounters) (events : List Event) (after : HostCounters) : Prop where
  sent : after.sent = before.sent + events.length
  requests : after.arpRequests = before.arpRequests + events.countP Event.isQuestion
  replies : after.arpReplies = before.arpReplies + events.countP Event.isAnswer
  /-- Every event asks, answers or carries data. -/
  kinds : events.length =
    events.countP Event.isQuestion + events.countP Event.isAnswer + events.countP Event.isData

/-- What becomes of a host that accepts data and adds events. -/
structure Turn (host : Host) (accepted : List (Ipv4Address × Bytes)) (events : List Event)
    (after : Host) : Prop where
  orderly : after.Orderly
  /-- What waited or was accepted is sent or waits, in order. -/
  split : ∀ ip, host.pendingFor ip ++ acceptedFor ip accepted =
    dataTo ip events ++ after.pendingFor ip
  billed : Billed host.counters events after.counters

/-! ## Counting -/

theorem Billed.nil (counters : HostCounters) : Billed counters [] counters :=
  ⟨rfl, rfl, rfl, rfl⟩

/-- What is billed in turn adds up. -/
theorem Billed.append {before middle after : HostCounters} {events more : List Event}
    (first : Billed before events middle) (second : Billed middle more after) :
    Billed before (events ++ more) after where
  sent := by rw [second.sent, first.sent, List.length_append, Nat.add_assoc]
  requests := by rw [second.requests, first.requests, List.countP_append, Nat.add_assoc]
  replies := by rw [second.replies, first.replies, List.countP_append, Nat.add_assoc]
  kinds := by
    have := first.kinds
    have := second.kinds
    simp only [List.length_append, List.countP_append]
    omega

section Counting

variable {α : Type} {make : α → Event} {kind : Event → Bool}

/-- All events of a kind are counted. -/
theorem countP_all (all : ∀ x, kind (make x) = true) (xs : List α) :
    (xs.map make).countP kind = xs.length := by
  rw [List.countP_map]
  exact List.countP_eq_length.mpr fun x _ => all x

/-- No events of another kind are counted. -/
theorem countP_none (none : ∀ x, kind (make x) = false) (xs : List α) :
    (xs.map make).countP kind = 0 := by
  rw [List.countP_map]
  exact List.countP_eq_zero.mpr fun x _ => Bool.eq_false_iff.mp (none x)

variable (host : Host) (card : Card) (uplink : Endpoint)

/-- Datagrams are billed as frames that carry data. -/
theorem billed_datagrams (ip : Ipv4Address) (mac : MacAddress) (items : List Bytes) :
    Billed host.counters (items.map (datagram card uplink ip mac))
      (host.countSent items.length).counters where
  sent := by
    rw [List.length_map]
    rfl
  requests := by
    rw [countP_none fun _ => rfl]
    rfl
  replies := by
    rw [countP_none fun _ => rfl]
    rfl
  kinds := by
    rw [@countP_none _ _ Event.isQuestion fun _ => rfl, @countP_none _ _ Event.isAnswer fun _ => rfl,
      countP_all fun _ => rfl, List.length_map, Nat.zero_add]

/-- Questions are billed as such. -/
theorem billed_questions (targets : List Ipv4Address) :
    Billed host.counters (targets.map (question card uplink))
      (host.countAsked targets.length).counters where
  sent := by
    rw [List.length_map]
    rfl
  requests := by
    rw [countP_all fun _ => rfl]
    rfl
  replies := by
    rw [countP_none fun _ => rfl]
    rfl
  kinds := by
    rw [@countP_none _ _ Event.isAnswer fun _ => rfl, @countP_none _ _ Event.isData fun _ => rfl,
      countP_all fun _ => rfl, List.length_map]
    rfl

/-- An answer is billed as such. -/
theorem billed_reply (arp : ArpPacket) :
    Billed host.counters [reply card uplink arp] host.countAnswered.counters :=
  ⟨rfl, rfl, rfl, rfl⟩

end Counting

/-! ## What events carry -/

theorem dataTo_append (ip : Ipv4Address) (events more : List Event) :
    dataTo ip (events ++ more) = dataTo ip events ++ dataTo ip more :=
  List.filterMap_append

theorem acceptedFor_append (ip : Ipv4Address) (accepted more : List (Ipv4Address × Bytes)) :
    acceptedFor ip (accepted ++ more) = acceptedFor ip accepted ++ acceptedFor ip more :=
  List.filterMap_append

/-- Data is accepted for its own destination. -/
theorem acceptedFor_singleton (ip dst : Ipv4Address) (data : Bytes) :
    acceptedFor ip [(dst, data)] = if dst = ip then [data] else [] := by
  by_cases same : dst = ip
  · rw [if_pos same]
    exact List.filterMap_cons_some (if_pos same)
  · rw [if_neg same]
    exact List.filterMap_cons_none (if_neg same)

/-- Datagrams carry their items to their destination, and nothing to others. -/
theorem dataTo_datagrams (ip : Ipv4Address) (card : Card) (uplink : Endpoint) (dst : Ipv4Address)
    (mac : MacAddress) (items : List Bytes) :
    dataTo ip (items.map (datagram card uplink dst mac)) = if dst = ip then items else [] := by
  rw [dataTo, List.filterMap_map]
  by_cases same : dst = ip
  · have each : Event.dataFor? ip ∘ datagram card uplink dst mac = some := by
      funext data
      exact if_pos same
    rw [each, if_pos same, List.filterMap_some]
  · rw [if_neg same]
    exact List.filterMap_eq_nil_iff.mpr fun data _ => if_neg same

/-- Questions carry no data. -/
theorem dataTo_questions (ip : Ipv4Address) (card : Card) (uplink : Endpoint)
    (targets : List Ipv4Address) : dataTo ip (targets.map (question card uplink)) = [] := by
  rw [dataTo, List.filterMap_map]
  exact List.filterMap_eq_nil_iff.mpr fun _ _ => rfl

/-! ## What waits -/

/-- Nothing waits any more for an address that has been learned. -/
theorem pendingFor_knowing (host : Host) (learned : Ipv4Address) (mac : MacAddress)
    (ip : Ipv4Address) :
    (host.knowing learned mac).pendingFor ip = if learned = ip then [] else host.pendingFor ip := by
  simp only [pendingFor, knowing, Std.TreeMap.getElem?_erase, Std.LawfulEqOrd.compare_eq_iff_eq]
  split <;> rfl

/-- Data that is put aside for an address leaves what waits for others. -/
theorem pendingFor_insert (host : Host) (dst : Ipv4Address) (items : List Bytes)
    (ip : Ipv4Address) :
    { host with pending := host.pending.insert dst items }.pendingFor ip =
      if dst = ip then items else host.pendingFor ip := by
  simp only [pendingFor, Std.TreeMap.getElem?_insert, Std.LawfulEqOrd.compare_eq_iff_eq]
  split <;> rfl

/-- In an orderly host a list exists only if it holds something. -/
theorem Orderly.pending_eq_none {host : Host} (orderly : host.Orderly) {ip : Ipv4Address}
    (empty : host.pendingFor ip = []) : host.pending[ip]? = none := by
  cases waits : host.pending[ip]? with
  | none => rfl
  | some items =>
    have : items = [] := by rwa [pendingFor, waits, Option.getD_some] at empty
    exact absurd this (orderly ip items waits).1

/-- Nothing waits for an address that is resolved. -/
theorem Orderly.pending_of_resolved {host : Host} (orderly : host.Orderly) {ip : Ipv4Address}
    {mac : MacAddress} (known : host.resolve? ip = some mac) : host.pending[ip]? = none := by
  cases waits : host.pending[ip]? with
  | none => rfl
  | some items => cases known.symm.trans (orderly ip items waits).2.1

/-- Nothing waits at an orderly host that is not attached. -/
theorem Orderly.unattached {host : Host} (orderly : host.Orderly) (free : host.uplink = none)
    (ip : Ipv4Address) : host.pending[ip]? = none := by
  cases waits : host.pending[ip]? with
  | none => rfl
  | some items =>
    have attached := (orderly ip items waits).2.2
    rw [free] at attached
    cases attached

/-- A host that has learned an address is orderly: nothing waits for that one any more. -/
theorem Orderly.knowing {host : Host} (orderly : host.Orderly) (learned : Ipv4Address)
    (mac : MacAddress) : (host.knowing learned mac).Orderly := by
  intro ip items waits
  simp only [Host.knowing, Std.TreeMap.getElem?_erase, Std.LawfulEqOrd.compare_eq_iff_eq] at waits
  split at waits
  · cases waits
  · next other =>
    obtain ⟨some, unresolved, attached⟩ := orderly ip items waits
    refine ⟨some, ?_, attached⟩
    rw [resolve?, Host.knowing, Std.TreeMap.getElem?_insert,
      if_neg fun same => other (Std.LawfulEqOrd.compare_eq_iff_eq.mp same)]
    exact unresolved

/-! ## Turns -/

section Turns

variable {host : Host}

/-- **Turns follow one another.** -/
theorem Turn.trans {middle after : Host} {accepted more : List (Ipv4Address × Bytes)}
    {events others : List Event} (first : Turn host accepted events middle)
    (second : Turn middle more others after) :
    Turn host (accepted ++ more) (events ++ others) after where
  orderly := second.orderly
  split ip := by
    rw [acceptedFor_append, ← List.append_assoc, first.split, List.append_assoc, second.split,
      dataTo_append, List.append_assoc]
  billed := first.billed.append second.billed

/-- A change that concerns nothing that waits or was sent. -/
theorem Turn.quiet (orderly : host.Orderly) {after : Host} (pending : after.pending = host.pending)
    (cache : after.arpCache = host.arpCache) (uplink : host.uplink.isSome → after.uplink.isSome)
    (billed : Billed host.counters [] after.counters) : Turn host [] [] after where
  orderly ip items waits := by
    obtain ⟨some, unresolved, attached⟩ := orderly ip items (pending ▸ waits)
    refine ⟨some, ?_, uplink attached⟩
    rw [resolve?, cache]
    exact unresolved
  split ip := by
    rw [pendingFor, pendingFor, pending]
    exact List.append_nil _
  billed := billed

/-- Nothing happens. -/
theorem Turn.refl (orderly : host.Orderly) : Turn host [] [] host :=
  .quiet orderly rfl rfl (fun attached => attached) (.nil _)

/-- Attaching a host is a turn that sends nothing. -/
theorem turn_attach (orderly : host.Orderly) (uplink : Endpoint) :
    Turn host [] (host.perform (.attach uplink)).events (host.perform (.attach uplink)).host := by
  simp only [perform, attach]
  split
  · exact .refl orderly
  · exact .quiet orderly rfl rfl (fun _ => rfl) (.nil _)

/-- Learning an address releases what waits for it, attached or not. -/
theorem learn_released (orderly : host.Orderly) (ip : Ipv4Address) (mac : MacAddress) :
    (host.learn ip mac).result = .ok () ∧
      dataTo ip (host.learn ip mac).events = host.pendingFor ip ∧
      Turn host [] (host.learn ip mac).events (host.learn ip mac).host := by
  cases attached : host.uplink with
  | none =>
    have nothing := orderly.unattached attached ip
    have learned : host.learn ip mac = ⟨.ok (), host.knowing ip mac, []⟩ := by
      simp only [learn, nothing]
      rfl
    have empty : host.pendingFor ip = [] := by rw [pendingFor, nothing, Option.getD_none]
    rw [learned]
    refine ⟨rfl, empty.symm, orderly.knowing ip mac, fun other => ?_, .nil _⟩
    rw [pendingFor_knowing]
    split
    · next same =>
      rw [← same, empty]
      rfl
    · exact List.append_nil _
  | some uplink =>
    rw [learn_eq attached]
    refine ⟨rfl, ?_, orderly.knowing ip mac, fun other => ?_, ?_⟩
    · rw [dataTo_datagrams, if_pos rfl]
    · have kept := pendingFor_knowing host ip mac other
      change _ = _ ++ (host.knowing ip mac).pendingFor other
      rw [dataTo_datagrams, kept]
      split
      · next same => rw [same]; rfl
      · exact List.append_nil _
    · exact billed_datagrams host host.card uplink ip mac (host.pendingFor ip)

/-- Answering is a turn that accepts no data. -/
theorem turn_answer (orderly : host.Orderly) (arp : ArpPacket) :
    Turn host [] (host.answer arp).events (host.answer arp).host := by
  cases attached : host.uplink with
  | none =>
    have refused : host.answer arp = ⟨.error .notConnected, host, []⟩ := by
      simp only [answer, attached]
    rw [refused]
    exact .refl orderly
  | some uplink =>
    rw [answer_eq attached]
    exact
      { orderly := orderly
        split := fun ip => List.append_nil _
        billed := billed_reply host host.card uplink arp }

/-- Handling an ARP packet, which may release data that waits, is a turn that accepts no data. -/
theorem turn_receiveArp (orderly : host.Orderly) (arp : ArpPacket) :
    Turn host [] (host.receiveArp arp).events (host.receiveArp arp).host := by
  obtain ⟨learned, -, turn⟩ := learn_released orderly arp.senderIp arp.senderHw
  simp only [receiveArp, learned]
  split
  · exact turn.trans (turn_answer turn.orderly arp)
  · exact turn

/-- The arrival of any frame is a turn that accepts no data. -/
theorem turn_receive (orderly : host.Orderly) (frame : Frame) :
    Turn host [] (host.receive frame).events (host.receive frame).host := by
  have counted : Turn host [] [] host.countReceived :=
    .quiet orderly rfl rfl (fun attached => attached) ⟨rfl, rfl, rfl, rfl⟩
  unfold receive
  dsimp only
  -- Only ARP for the host, and data for its address, do more than count.
  split
  · exact counted
  · split
    · split
      · exact counted.trans (turn_receiveArp counted.orderly _)
      · exact counted
    · split
      · exact .quiet orderly rfl rfl (fun attached => attached) ⟨rfl, rfl, rfl, rfl⟩
      · exact counted
    · exact counted

/-- Data is accepted only by a host that is attached. -/
theorem turn_send (orderly : host.Orderly) (dst : Ipv4Address) (data : Bytes) :
    let outcome := host.perform (.send dst data)
    Turn host (outcome.accepted (.send dst data)) outcome.events outcome.host := by
  cases attached : host.uplink with
  | none =>
    have refused : host.send dst data = .error .notConnected := by simp only [send, attached]
    simp only [perform, refused]
    exact .refl orderly
  | some uplink =>
    cases known : host.resolve? dst with
    | some mac =>
      simp only [perform, send_eq_known attached known]
      refine ⟨orderly, fun ip => ?_, billed_datagrams host host.card uplink dst mac [data]⟩
      have sent := dataTo_datagrams ip host.card uplink dst mac [data]
      change host.pendingFor ip ++ acceptedFor ip [(dst, data)] =
        dataTo ip ([data].map (datagram host.card uplink dst mac)) ++ host.pendingFor ip
      rw [sent, acceptedFor_singleton]
      split
      · next same =>
        rw [← same, pendingFor, orderly.pending_of_resolved known]
        rfl
      · exact List.append_nil _
    | none =>
      have waits : ({ host with
          pending := host.pending.insert dst (host.pendingFor dst ++ [data]) } : Host).Orderly := by
        intro ip items found
        simp only [Std.TreeMap.getElem?_insert, Std.LawfulEqOrd.compare_eq_iff_eq] at found
        split at found
        · next same =>
          cases found
          refine ⟨List.append_ne_nil_of_right_ne_nil _ (List.cons_ne_nil _ _), same ▸ known, ?_⟩
          rw [attached]
          rfl
        · exact orderly ip items found
      have kept : ∀ ip, host.pendingFor ip ++ acceptedFor ip [(dst, data)] =
          ({ host with
            pending := host.pending.insert dst (host.pendingFor dst ++ [data]) } : Host).pendingFor
            ip := by
        intro ip
        rw [pendingFor_insert, acceptedFor_singleton]
        split
        · next same => rw [same]
        · exact List.append_nil _
      simp only [perform, send_eq_unknown attached known]
      split
      · exact ⟨waits, kept, billed_questions host host.card uplink [dst]⟩
      · exact ⟨waits, kept, .nil _⟩

/-- Asking again is a turn that accepts no data and releases none. -/
theorem turn_retransmit (orderly : host.Orderly) :
    Turn host [] (host.perform .retransmit).events (host.perform .retransmit).host := by
  cases attached : host.uplink with
  | none =>
    have refused : host.retransmit = .error .notConnected := by simp only [retransmit, attached]
    simp only [perform, refused]
    exact .refl orderly
  | some uplink =>
    simp only [perform, retransmit_eq attached]
    refine ⟨orderly, fun ip => ?_, billed_questions host host.card uplink host.pending.keys⟩
    change _ = dataTo ip (host.pending.keys.map (question host.card uplink)) ++ host.pendingFor ip
    rw [dataTo_questions]
    exact List.append_nil _

/-- **Whatever is done to an orderly host, it stays orderly and loses nothing.** -/
theorem turn_perform (orderly : host.Orderly) (operation : HostOperation) :
    Turn host ((host.perform operation).accepted operation) (host.perform operation).events
      (host.perform operation).host := by
  cases operation with
  | attach uplink => exact turn_attach orderly uplink
  | send dst data => exact turn_send orderly dst data
  | retransmit => exact turn_retransmit orderly
  | receive frame => exact turn_receive orderly frame

end Turns

/-- A history that began at a host is a turn of it, whatever follows. -/
theorem Turn.performAll {host : Host} {history : History} (operations : List HostOperation)
    (turn : Turn host history.accepted history.enqueued history.host) :
    Turn host (history.performAll operations).accepted (history.performAll operations).enqueued
      (history.performAll operations).host := by
  induction operations generalizing history with
  | nil => exact turn
  | cons operation rest ih => exact ih (turn.trans (turn_perform turn.orderly operation))

/-! ## What is promised -/

/-- **What a history promises**: for its past, for its host as it stands, and for whatever the host
is asked to do next. -/
structure Faithful (history : History) : Prop where
  /-- For each address, accepted data was sent or waits, in order. -/
  split : ∀ ip, acceptedFor ip history.accepted =
    dataTo ip history.enqueued ++ history.host.pendingFor ip
  resolved : ∀ ip mac, history.host.resolve? ip = some mac → history.host.pending[ip]? = none
  waiting : ∀ (ip : Ipv4Address) items, history.host.pending[ip]? = some items →
    items ≠ [] ∧ history.host.uplink.isSome
  /-- Learning an address never fails, and sends all that waits for it. -/
  learns : ∀ ip mac, (history.host.learn ip mac).result = .ok () ∧
    dataTo ip (history.host.learn ip mac).events = history.host.pendingFor ip
  sent : history.host.counters.sent = history.enqueued.length
  kinds : history.host.counters.sent =
    history.host.counters.arpRequests + history.host.counters.arpReplies +
      history.enqueued.countP Event.isData
  /-- Data has its address asked for just if nothing waited and now it does. -/
  asks : ∀ dst data events after, history.host.send dst data = .ok (events, after) →
    ∃ uplink, history.host.uplink = some uplink ∧
      events.filter Event.isQuestion =
        if history.host.pending[dst]? = none ∧ after.pending[dst]?.isSome then
          [question history.host.card uplink dst]
        else []
  /-- Every address with waiting data is asked for once, by increasing address. -/
  asksAgain : ∀ events after, history.host.retransmit = .ok (events, after) →
    ∃ uplink, ∃ targets : List Ipv4Address, history.host.uplink = some uplink ∧
      events = targets.map (question history.host.card uplink) ∧
      targets.Pairwise (fun a b => a.toNat < b.toNat) ∧
      (∀ ip, ip ∈ targets ↔ history.host.pendingFor ip ≠ []) ∧
      after.arpCache = history.host.arpCache ∧ after.pending = history.host.pending ∧
      after.inbox = history.host.inbox
  refused : ∀ e, history.host.retransmit = .error e → ∀ ip, history.host.pendingFor ip = []
  /-- In a network, asking again gives the number of questions. -/
  number : ∀ (net : Network) id n, net.getHost id = .ok history.host →
    (net.retransmit id).1 = .ok n →
    ∃ events after, history.host.retransmit = .ok (events, after) ∧ events.length = n

section Promises

variable {host : Host}

/-- A sending asks for the address just if it is the first whose data has to wait for it. -/
theorem Orderly.asks (orderly : host.Orderly) {dst : Ipv4Address} {data : Bytes}
    {events : List Event} {after : Host} (sent : host.send dst data = .ok (events, after)) :
    ∃ uplink, host.uplink = some uplink ∧
      events.filter Event.isQuestion =
        if host.pending[dst]? = none ∧ after.pending[dst]?.isSome then
          [question host.card uplink dst]
        else [] := by
  obtain ⟨uplink, attached, -⟩ := allAt_send sent
  refine ⟨uplink, attached, ?_⟩
  cases known : host.resolve? dst with
  | some mac =>
    rw [send_eq_known attached known] at sent
    cases sent
    have nothing := orderly.pending_of_resolved known
    rw [if_neg]
    · rfl
    · rintro ⟨-, starts⟩
      have kept : (host.countSent 1).pending[dst]? = none := nothing
      rw [kept] at starts
      cases starts
  | none =>
    have now : (host.pending.insert dst (host.pendingFor dst ++ [data]))[dst]?.isSome := by
      rw [Std.TreeMap.getElem?_insert_self]
      rfl
    rw [send_eq_unknown attached known] at sent
    split at sent
    · next empty =>
      cases sent
      rw [if_pos ⟨orderly.pending_eq_none (List.isEmpty_iff.mp empty), now⟩]
      rfl
    · next some =>
      cases sent
      rw [if_neg]
      · rfl
      · rintro ⟨nothing, -⟩
        rw [pendingFor, nothing] at some
        exact some rfl

/-- The addresses with waiting data, by increasing address. -/
theorem Orderly.mem_keys (orderly : host.Orderly) (ip : Ipv4Address) :
    ip ∈ host.pending.keys ↔ host.pendingFor ip ≠ [] := by
  rw [Std.TreeMap.mem_keys, Std.TreeMap.mem_iff_isSome_getElem?]
  constructor
  · intro listed empty
    rw [orderly.pending_eq_none empty] at listed
    cases listed
  · intro some
    cases waits : host.pending[ip]? with
    | none => exact absurd (by rw [pendingFor, waits]; rfl) some
    | some items => rfl

/-- The addresses that data waits for are listed by increasing number. -/
theorem pairwise_keys (host : Host) : host.pending.keys.Pairwise fun a b => a.toNat < b.toNat :=
  (Std.TreeMap.ordered_keys (t := host.pending)).imp fun before => Nat.compare_eq_lt.mp before

/-- The network reports as many questions as the host has asked. -/
theorem retransmit_number {net : Network} {id : DeviceId} {n : Nat}
    (here : net.getHost id = .ok host) (number : (net.retransmit id).1 = .ok n) :
    ∃ events after, host.retransmit = .ok (events, after) ∧ events.length = n := by
  unfold Network.retransmit at number
  simp only [here] at number
  cases asked : host.retransmit with
  | error e =>
    simp only [asked] at number
    cases number
  | ok made =>
    obtain ⟨events, after⟩ := made
    refine ⟨events, after, rfl, ?_⟩
    simp only [asked] at number
    generalize ((net.setHost id after).enqueue events).settle.1 = settled at number
    cases settled with
    | error e => cases number
    | ok done => exact Except.ok.inj number

/-- A turn from a new host is a faithful history. -/
theorem Turn.faithful {start : Host} {history : History}
    (turn : Turn start history.accepted history.enqueued history.host)
    (empty : ∀ ip, start.pendingFor ip = []) (zero : start.counters = {}) : Faithful history := by
  have billed := turn.billed
  rw [zero] at billed
  have orderly := turn.orderly
  have sent : history.host.counters.sent = history.enqueued.length :=
    billed.sent.trans (Nat.zero_add _)
  exact
    { split := fun ip => by rw [← turn.split, empty, List.nil_append]
      resolved := fun ip mac known => orderly.pending_of_resolved known
      waiting := fun ip items waits => ⟨(orderly ip items waits).1, (orderly ip items waits).2.2⟩
      learns := fun ip mac => by
        obtain ⟨learned, released, -⟩ := learn_released orderly ip mac
        exact ⟨learned, released⟩
      sent := sent
      kinds := by
        rw [sent, billed.kinds, billed.requests, billed.replies, Nat.zero_add, Nat.zero_add]
      asks := fun dst data events after => orderly.asks
      asksAgain := fun events after asked => by
        obtain ⟨uplink, attached, -⟩ := allAt_retransmit asked
        rw [retransmit_eq attached] at asked
        cases asked
        exact ⟨uplink, _, attached, rfl, pairwise_keys history.host, orderly.mem_keys, rfl, rfl, rfl⟩
      refused := fun e refused ip => by
        cases attached : history.host.uplink with
        | none => rw [pendingFor, orderly.unattached attached, Option.getD_none]
        | some uplink =>
          rw [retransmit_eq attached] at refused
          cases refused
      number := fun net id n => retransmit_number }

end Promises

/-- Nothing waits at a new host. -/
theorem orderly_new (name : String) (id : DeviceId) (amac : MacAddress) (ip : Ipv4Address) :
    (Host.new name id amac ip).Orderly := by
  intro other items waits
  cases Std.TreeMap.getElem?_emptyc.symm.trans waits

/-- **Whatever is done to a host, its data is sent or waits.** From a new host on, in every history:
for each address what was accepted is what was sent and what waits, in order; nothing waits that could
be sent; every event was counted; and an address is asked for just when its data begins to wait, and
again on demand. -/
theorem outbox_faithful (name : String) (id : DeviceId) (amac : MacAddress) (ip : Ipv4Address)
    (operations : List HostOperation) :
    Faithful (History.performAll { host := Host.new name id amac ip } operations) := by
  have nothing : ∀ dst, (Host.new name id amac ip).pendingFor dst = [] := fun dst => by
    rw [pendingFor, Host.new, Std.TreeMap.getElem?_emptyc, Option.getD_none]
  let start : History := { host := Host.new name id amac ip }
  have turn : Turn start.host start.accepted start.enqueued start.host :=
    .refl (orderly_new name id amac ip)
  exact (turn.performAll operations).faithful nothing rfl

end Host

end PmacFabric
