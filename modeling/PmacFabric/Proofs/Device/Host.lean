import PmacFabric.Device.Host

/-!
# What a host keeps, and what it sends

The **card** of a host is the part of it that no frame changes: its names, its addresses, and the
switch port it is attached to. The laws of this module write out, for a host that is attached, what
each of its functions does: `send_eq_known`, `send_eq_unknown`, `retransmit_eq`, and for arriving
frames `receive_eq_data`, `receive_eq_question`, `receive_eq_answer` and `receive_eq_ignored`.
-/

namespace PmacFabric.Host

/-- The part of a host that no frame changes. -/
structure Card where
  name : String
  id : DeviceId
  amac : MacAddress
  ip : Ipv4Address
  uplink : Option Endpoint
deriving DecidableEq

def card (host : Host) : Card := ⟨host.name, host.id, host.amac, host.ip, host.uplink⟩

/-- The event of a question for an address. -/
def question (card : Card) (uplink : Endpoint) (target : Ipv4Address) : Event :=
  .frame uplink ⟨card.amac, .broadcast, .arp (.request card.amac card.ip target)⟩

/-- By a question the host asks everybody for the hardware address of the target, which is left zero,
and names its own addresses. -/
theorem question_says (card : Card) (uplink : Endpoint) (target : Ipv4Address) :
    ∃ frame, question card uplink target = .frame uplink frame ∧
      frame.src = card.amac ∧ frame.dst = .broadcast ∧
      frame.arp? = some
        { operation := .request
          senderHw := card.amac
          senderIp := card.ip
          targetHw := .zero
          targetIp := target } :=
  ⟨_, rfl, rfl, rfl, rfl⟩

/-- The event of data for a resolved address. -/
def datagram (card : Card) (uplink : Endpoint) (dst : Ipv4Address) (mac : MacAddress)
    (data : Bytes) : Event :=
  .frame uplink ⟨card.amac, mac, .ipv4 ⟨card.ip, dst, data⟩⟩

/-- The event of the answer to a question. -/
def reply (card : Card) (uplink : Endpoint) (arp : ArpPacket) : Event :=
  .frame uplink
    ⟨card.amac, arp.senderHw, .arp (.reply card.amac card.ip arp.senderHw arp.senderIp)⟩

/-- Counts frames sent. -/
def countSent (host : Host) (n : Nat) : Host :=
  { host with counters := { host.counters with sent := host.counters.sent + n } }

/-- Counts questions sent. -/
def countAsked (host : Host) (n : Nat) : Host :=
  { host with
    counters :=
      { host.counters with
        arpRequests := host.counters.arpRequests + n
        sent := host.counters.sent + n } }

/-- Counts a frame received. -/
def countReceived (host : Host) : Host :=
  { host with counters := { host.counters with received := host.counters.received + 1 } }

/-- Counts an answer sent. -/
def countAnswered (host : Host) : Host :=
  { host with
    counters :=
      { host.counters with
        arpReplies := host.counters.arpReplies + 1
        sent := host.counters.sent + 1 } }

/-- What a host is after it has learned an address, apart from the frames it sends. -/
def knowing (host : Host) (ip : Ipv4Address) (mac : MacAddress) : Host :=
  { host with
    arpCache := host.arpCache.insert ip mac
    pending := host.pending.erase ip }

/-! ## Sending -/

/-- Data items leave as one datagram each, in order, and are counted. -/
theorem sendAll_eq (host : Host) (uplink : Endpoint) (dst : Ipv4Address) (mac : MacAddress)
    (items : List Bytes) :
    host.sendAll uplink dst mac items =
      (items.map (datagram host.card uplink dst mac), host.countSent items.length) := by
  induction items generalizing host with
  | nil => rfl
  | cons data rest ih =>
    simp only [sendAll, ih, List.map_cons, List.length_cons]
    simp only [sendData, transmit, datagram, card, countSent, Prod.mk.injEq, true_and,
      Host.mk.injEq, HostCounters.mk.injEq, and_true]
    omega

/-- Each address is asked for by one question, in order, and the questions are counted. -/
theorem askAll_eq (host : Host) (uplink : Endpoint) (targets : List Ipv4Address) :
    host.askAll uplink targets =
      (targets.map (question host.card uplink), host.countAsked targets.length) := by
  induction targets generalizing host with
  | nil => rfl
  | cons target rest ih =>
    simp only [askAll, ih, List.map_cons, List.length_cons]
    simp only [ask, transmit, question, card, countAsked, Prod.mk.injEq, true_and, Host.mk.injEq,
      HostCounters.mk.injEq, and_true]
    omega

/-- Data for a resolved address leaves at once. -/
theorem send_eq_known {host : Host} {uplink : Endpoint} {dst : Ipv4Address} {mac : MacAddress}
    (attached : host.uplink = some uplink) (known : host.resolve? dst = some mac) (data : Bytes) :
    host.send dst data = .ok ([datagram host.card uplink dst mac data], host.countSent 1) := by
  simp only [send, attached, known]
  rfl

/-- Data for an unresolved address waits, and the first item to wait is asked for. -/
theorem send_eq_unknown {host : Host} {uplink : Endpoint} {dst : Ipv4Address}
    (attached : host.uplink = some uplink) (unknown : host.resolve? dst = none) (data : Bytes) :
    host.send dst data =
      .ok
        (if (host.pendingFor dst).isEmpty then
          ([question host.card uplink dst],
            { host with pending := host.pending.insert dst (host.pendingFor dst ++ [data]) }.countAsked
              1)
        else
          ([], { host with pending := host.pending.insert dst (host.pendingFor dst ++ [data]) })) := by
  simp only [send, attached, unknown]
  split <;> rfl

/-- A host asks once more for each address that has data waiting. -/
theorem retransmit_eq {host : Host} {uplink : Endpoint} (attached : host.uplink = some uplink) :
    host.retransmit =
      .ok (host.pending.keys.map (question host.card uplink),
        host.countAsked host.pending.keys.length) := by
  simp only [retransmit, attached, askAll_eq]

/-! ## Receiving -/

/-- Learning an address sends all data that waits for it. -/
theorem learn_eq {host : Host} {uplink : Endpoint} (attached : host.uplink = some uplink)
    (ip : Ipv4Address) (mac : MacAddress) :
    host.learn ip mac =
      { result := .ok ()
        host := (host.knowing ip mac).countSent (host.pendingFor ip).length
        events := (host.pendingFor ip).map (datagram host.card uplink ip mac) } := by
  obtain ⟨name, id, amac, own, _, cache, pending, inbox, counters⟩ := host
  cases attached
  unfold learn pendingFor
  cases pending[ip]? with
  | none => rfl
  | some items =>
    simp only [sendAll_eq]
    rfl

/-- An answer goes to whoever asked. -/
theorem answer_eq {host : Host} {uplink : Endpoint} (attached : host.uplink = some uplink)
    (arp : ArpPacket) :
    host.answer arp =
      { result := .ok (), host := host.countAnswered, events := [reply host.card uplink arp] } := by
  obtain ⟨name, id, amac, own, _, cache, pending, inbox, counters⟩ := host
  cases attached
  rfl

/-- Whether a host takes a frame from its line. -/
def Takes (host : Host) (frame : Frame) : Prop := frame.dst = host.amac ∨ frame.dst = .broadcast

/-- A frame that is for the host is not ignored. -/
theorem not_ignored {host : Host} {frame : Frame} (takes : host.Takes frame) :
    ¬ (frame.dst ≠ host.amac ∧ ¬ frame.dst.isBroadcast) := by
  rintro ⟨other, alone⟩
  rcases takes with own | all
  · exact other own
  · exact alone (decide_eq_true all)

/-- A frame that is not ignored is for the host. -/
theorem takes_of_not_ignored {host : Host} {frame : Frame}
    (kept : ¬ (frame.dst ≠ host.amac ∧ ¬ frame.dst.isBroadcast)) : host.Takes frame := by
  by_cases own : frame.dst = host.amac
  · exact .inl own
  · exact .inr (of_decide_eq_true (Decidable.of_not_not fun other => kept ⟨own, other⟩))

/-- A packet for the host is delivered. -/
theorem receive_eq_data {host : Host} {frame : Frame} {packet : Ipv4Packet}
    (takes : host.Takes frame) (payload : frame.payload = .ipv4 packet)
    (own : packet.dst = host.ip) :
    host.receive frame =
      { result := .ok ()
        host := { host.countReceived with inbox := host.inbox.push packet }
        events := [] } := by
  have := not_ignored takes
  simp only [receive, if_neg this, payload, if_pos own]
  rfl

/-- An answer for the host resolves its sender. -/
theorem receive_eq_answer {host : Host} {uplink : Endpoint} {frame : Frame} {arp : ArpPacket}
    (attached : host.uplink = some uplink) (takes : host.Takes frame)
    (payload : frame.payload = .arp arp) (own : arp.targetIp = host.ip)
    (operation : arp.operation = .reply) :
    host.receive frame =
      { result := .ok ()
        host :=
          (host.countReceived.knowing arp.senderIp arp.senderHw).countSent
            (host.pendingFor arp.senderIp).length
        events :=
          (host.pendingFor arp.senderIp).map
            (datagram host.card uplink arp.senderIp arp.senderHw) } := by
  have kept := not_ignored takes
  have asks : arp.isRequest = false := by simp only [ArpPacket.isRequest, operation]; rfl
  have counted : host.countReceived.uplink = some uplink := attached
  have learned := learn_eq counted arp.senderIp arp.senderHw
  simp only [receive, if_neg kept, payload, if_pos own]
  change host.countReceived.receiveArp arp = _
  simp only [receiveArp, learned, asks, Bool.false_eq_true, if_false]
  rfl

/-- A question for the host resolves its sender, and is answered. -/
theorem receive_eq_question {host : Host} {uplink : Endpoint} {frame : Frame} {arp : ArpPacket}
    (attached : host.uplink = some uplink) (takes : host.Takes frame)
    (payload : frame.payload = .arp arp) (own : arp.targetIp = host.ip)
    (operation : arp.operation = .request) :
    host.receive frame =
      { result := .ok ()
        host :=
          ((host.countReceived.knowing arp.senderIp arp.senderHw).countSent
            (host.pendingFor arp.senderIp).length).countAnswered
        events :=
          (host.pendingFor arp.senderIp).map
            (datagram host.card uplink arp.senderIp arp.senderHw) ++
          [reply host.card uplink arp] } := by
  have kept := not_ignored takes
  have asks : arp.isRequest = true := by simp only [ArpPacket.isRequest, operation]; rfl
  have counted : host.countReceived.uplink = some uplink := attached
  have learned := learn_eq counted arp.senderIp arp.senderHw
  have sent : ((host.countReceived.knowing arp.senderIp arp.senderHw).countSent
      (host.countReceived.pendingFor arp.senderIp).length).uplink = some uplink := attached
  have answered := answer_eq sent arp
  simp only [receive, if_neg kept, payload, if_pos own]
  change host.countReceived.receiveArp arp = _
  simp only [receiveArp, learned, asks, if_true, answered]
  rfl

/-- An ARP packet for somebody else is only counted. -/
theorem receive_eq_ignored {host : Host} {frame : Frame} {arp : ArpPacket}
    (payload : frame.payload = .arp arp) (other : arp.targetIp ≠ host.ip) :
    host.receive frame = { result := .ok (), host := host.countReceived, events := [] } := by
  unfold receive
  dsimp only
  split
  · rfl
  · simp only [payload, if_neg other]
    rfl

/-- **All that an attached host does with a frame**: nothing that others notice, or it learns the
sender of an ARP packet, sends what waits for it, and answers if it was asked. -/
theorem receive_cases {host : Host} {uplink : Endpoint} (attached : host.uplink = some uplink)
    (frame : Frame) :
    (∃ after, host.receive frame = ⟨.ok (), after, []⟩ ∧ after.pending = host.pending) ∨
      ∃ arp after, frame.payload = .arp arp ∧
        host.receive frame =
          ⟨.ok (), after, (host.pendingFor arp.senderIp).map
              (datagram host.card uplink arp.senderIp arp.senderHw) ++
            if arp.isRequest then [reply host.card uplink arp] else []⟩ ∧
        after.pending = host.pending.erase arp.senderIp := by
  by_cases ignored : frame.dst ≠ host.amac ∧ ¬ frame.dst.isBroadcast
  · refine .inl ⟨host.countReceived, ?_, rfl⟩
    simp only [receive, if_pos ignored]
    rfl
  · have takes := takes_of_not_ignored ignored
    cases payload : frame.payload with
    | raw etherType data =>
      refine .inl ⟨host.countReceived, ?_, rfl⟩
      simp only [receive, if_neg ignored, payload]
      rfl
    | ipv4 packet =>
      by_cases own : packet.dst = host.ip
      · exact .inl ⟨_, receive_eq_data takes payload own, rfl⟩
      · refine .inl ⟨host.countReceived, ?_, rfl⟩
        simp only [receive, if_neg ignored, payload, if_neg own]
        rfl
    | arp arp =>
      by_cases own : arp.targetIp = host.ip
      · refine .inr ⟨arp, ?_⟩
        cases operation : arp.operation with
        | request =>
          have asks : arp.isRequest = true := by simp only [ArpPacket.isRequest, operation]; rfl
          rw [if_pos asks]
          exact ⟨_, rfl, receive_eq_question attached takes payload own operation, rfl⟩
        | reply =>
          have tells : ¬ arp.isRequest = true := by
            simp only [ArpPacket.isRequest, operation]
            exact Bool.false_ne_true
          rw [if_neg tells, List.append_nil]
          exact ⟨_, rfl, receive_eq_answer attached takes payload own operation, rfl⟩
      · exact .inl ⟨_, receive_eq_ignored payload own, rfl⟩

/-! ## The card stays -/

/-- Learning an address leaves the card. -/
theorem card_learn (host : Host) (ip : Ipv4Address) (mac : MacAddress) :
    (host.learn ip mac).host.card = host.card := by
  unfold learn
  dsimp only
  split
  · rfl
  · split
    · rfl
    · simp only [sendAll_eq]
      rfl

/-- Answering leaves the card. -/
theorem card_answer (host : Host) (arp : ArpPacket) : (host.answer arp).host.card = host.card := by
  unfold answer
  split <;> rfl

/-- **Frames never change the card of a host.** -/
theorem card_receive (host : Host) (frame : Frame) : (host.receive frame).host.card = host.card := by
  unfold receive
  dsimp only
  split
  · rfl
  · split
    · split
      · unfold receiveArp
        dsimp only
        split
        · exact card_learn _ _ _
        · split
          · exact (card_answer _ _).trans (card_learn _ _ _)
          · exact card_learn _ _ _
      · rfl
    · split <;> rfl
    · rfl

/-- Sending leaves the card. -/
theorem card_send {host host' : Host} {dst : Ipv4Address} {data : Bytes} {events : List Event}
    (h : host.send dst data = .ok (events, host')) : host'.card = host.card := by
  unfold send at h
  split at h
  · cases h
  · split at h
    · cases h
      rfl
    · dsimp only at h
      split at h <;> cases h <;> rfl

/-- Asking again leaves the card. -/
theorem card_retransmit {host host' : Host} {events : List Event}
    (h : host.retransmit = .ok (events, host')) : host'.card = host.card := by
  unfold retransmit at h
  split at h
  · cases h
  · rw [askAll_eq] at h
    cases h
    rfl

/-! ## Everything leaves through the uplink -/

/-- Whether events are frames at one link end. -/
def AllAt (target : Endpoint) (events : List Event) : Prop :=
  ∀ event ∈ events, ∃ frame, event = .frame target frame

/-- All that a host sends goes over its link. -/
theorem allAt_send {host host' : Host} {dst : Ipv4Address} {data : Bytes} {events : List Event}
    (h : host.send dst data = .ok (events, host')) :
    ∃ uplink, host.uplink = some uplink ∧ AllAt uplink events := by
  cases attached : host.uplink with
  | none =>
    simp only [send, attached] at h
    cases h
  | some uplink =>
    refine ⟨uplink, rfl, ?_⟩
    cases known : host.resolve? dst with
    | some mac =>
      rw [send_eq_known attached known] at h
      cases h
      intro event mem
      exact ⟨_, List.mem_singleton.mp mem⟩
    | none =>
      rw [send_eq_unknown attached known] at h
      split at h
      · cases h
        intro event mem
        exact ⟨_, List.mem_singleton.mp mem⟩
      · cases h
        exact nofun

/-- All that a host asks again goes over its link. -/
theorem allAt_retransmit {host host' : Host} {events : List Event}
    (h : host.retransmit = .ok (events, host')) :
    ∃ uplink, host.uplink = some uplink ∧ AllAt uplink events := by
  cases attached : host.uplink with
  | none =>
    simp only [retransmit, attached] at h
    cases h
  | some uplink =>
    rw [retransmit_eq attached] at h
    cases h
    refine ⟨uplink, rfl, fun event mem => ?_⟩
    obtain ⟨target, -, rfl⟩ := List.mem_map.mp mem
    exact ⟨_, rfl⟩

/-- All that an arriving frame has a host send goes over its link. -/
theorem allAt_receive {host : Host} {uplink : Endpoint} (attached : host.uplink = some uplink)
    (frame : Frame) : AllAt uplink (host.receive frame).events := by
  rcases receive_cases attached frame with ⟨after, quiet, -⟩ | ⟨arp, after, -, received, -⟩
  · rw [quiet]
    exact nofun
  · rw [received]
    intro event mem
    rcases List.mem_append.mp mem with sent | answered
    · obtain ⟨data, -, rfl⟩ := List.mem_map.mp sent
      exact ⟨_, rfl⟩
    · split at answered
      · exact ⟨_, List.mem_singleton.mp answered⟩
      · cases answered

end PmacFabric.Host
