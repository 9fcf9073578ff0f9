import PmacFabric.Proofs.Network.Backlog
import PmacFabric.Proofs.Network.Guarded

/-!
# What an event may still lead to

One event can raise many: floods multiply, hosts answer every copy of a question and release the data
that waits for its sender, and answers and data may be asked about in turn. This ends because links
have a direction. A `Scale` ranks the devices so that every link leads from a lower to a higher rank.
A frame from below goes up some ranks and then only down, where it may be copied once at each rank;
and what a host sends in return is of a simpler kind, as the order of the definitions in `Scale` shows:

* a frame that is no question, for a registered destination, raises nothing that is asked or answered;
* a question of a registered sender raises such frames, and an order to flood such questions, because
  floods are on behalf of registered senders only;
* a frame that is no question may have each core switch ordered to flood once, if its destination is
  not registered;
* and a question of an unregistered sender raises frames of the last kind.

Data that waits at a host counts as a frame of the third kind. **`Reacts.weight_lt`** says that an
event weighs more than all that it raises and releases, whatever switches choose.
-/

namespace PmacFabric.Network

/-- What weights depend on: a rank for every device, and bounds of a network. -/
structure Scale where
  rank : DeviceId → Nat
  /-- The north end of a link has at most this rank. -/
  top : Nat
  /-- A switch has at most this many lower ports. -/
  width : Nat
  /-- At most this many switches are registered. -/
  cores : Nat

namespace Scale

/-! ## Weights -/

section Weights

variable (scale : Scale) (manager : FabricManager)

/-- The weight of a frame on its way down from rank `n`, with the weight that it has at a host. -/
def spread : Nat → Nat → Nat
  | 0, cost => cost
  | n + 1, cost => scale.width * spread n cost + spread n cost

/-- Bounds a frame from a host that is no question, for a registered destination. -/
def plain : Nat := scale.top + 1 + scale.spread scale.top 1

/-- A question of a registered sender, at a host. -/
def question : Nat := scale.plain + 1

/-- An order to flood. -/
def order : Nat := scale.width * scale.spread scale.top scale.question + 1

/-- Bounds any frame from a host that is no question. -/
def stray : Nat := scale.plain + scale.cores * scale.order

/-- A question of a sender that is not registered, at a host. -/
def riddle : Nat := scale.stray + 1

/-- The weight of a frame at a host. -/
def landing : Option (Ipv4Address × Ipv4Address) × Bool → Nat
  | (some (src, _), true) => if manager.isRegistered src then scale.question else scale.riddle
  | _ => 1

/-- A bound of the weight at a host that does not depend on who is registered. -/
def worst (talk : Option (Ipv4Address × Ipv4Address) × Bool) : Nat :=
  if talk.2 then scale.riddle else 1

/-- Whether a frame from below may be asked about. -/
def Open : Option (Ipv4Address × Ipv4Address) × Bool → Prop
  | (_, true) => True
  | (some (_, dst), false) => manager.isRegistered dst = false
  | (none, false) => True

instance (talk : Option (Ipv4Address × Ipv4Address) × Bool) : Decidable (Open manager talk) :=
  match talk with
  | (_, true) => inferInstanceAs (Decidable True)
  | (some (_, dst), false) => inferInstanceAs (Decidable (manager.isRegistered dst = false))
  | (none, false) => inferInstanceAs (Decidable True)

/-- The weight of a frame at a lower port of rank `n`. -/
def climb (n : Nat) (talk : Option (Ipv4Address × Ipv4Address) × Bool) : Nat :=
  (scale.top - n) + 1 + scale.spread scale.top (scale.worst talk) +
    if Open manager talk then scale.cores * scale.order else 0

/-- The weight of an event. -/
def weight : Event → Nat
  | .frame ⟨id, .lower _⟩ frame => scale.climb manager (scale.rank id) frame.talk
  | .frame ⟨id, .upper _⟩ frame =>
    scale.spread (scale.rank id) (scale.landing manager frame.talk)
  | .control _ _ => scale.order

end Weights

section Laws

variable {scale : Scale} {manager manager' : FabricManager}

/-- No frame weighs less than what it weighs at a host. -/
theorem le_spread (n cost : Nat) : cost ≤ scale.spread n cost := by
  induction n with
  | zero => exact Nat.le_refl cost
  | succ n ih => exact Nat.le_trans ih (Nat.le_add_left _ _)

/-- A frame weighs more from a higher rank, or if it weighs more at a host. -/
theorem spread_mono {n m cost cost' : Nat} (up : n ≤ m) (more : cost ≤ cost') :
    scale.spread n cost ≤ scale.spread m cost' := by
  have same (n : Nat) : scale.spread n cost ≤ scale.spread n cost' := by
    induction n with
    | zero => exact more
    | succ n ih => exact Nat.add_le_add (Nat.mul_le_mul_left scale.width ih) ih
  induction up with
  | refl => exact same n
  | step _ ih => exact Nat.le_trans ih (Nat.le_add_left _ _)

/-- A frame weighs more than one copy for each lower port, one rank further down. -/
theorem copies_lt_spread (n : Nat) {cost : Nat} (some_cost : 0 < cost) :
    scale.width * scale.spread n cost < scale.spread (n + 1) cost :=
  Nat.lt_add_of_pos_right (Nat.lt_of_lt_of_le some_cost (le_spread n cost))

/-- Every frame weighs something at a host. -/
theorem landing_pos (talk : Option (Ipv4Address × Ipv4Address) × Bool) :
    0 < scale.landing manager talk := by
  unfold landing
  split
  · split <;> exact Nat.succ_pos _
  · exact Nat.one_pos

/-- The worst case at a host bounds all others. -/
theorem landing_le_worst (talk : Option (Ipv4Address × Ipv4Address) × Bool) :
    scale.landing manager talk ≤ scale.worst talk := by
  have fewer : scale.question ≤ scale.riddle :=
    Nat.succ_le_succ (Nat.le_add_right scale.plain _)
  unfold landing worst
  split
  · split
    · exact fewer
    · exact Nat.le_refl _
  · split
    · exact Nat.succ_le_succ (Nat.zero_le _)
    · exact Nat.le_refl 1

/-- Questions get lighter as their senders are registered. -/
theorem landing_mono
    (grown : ∀ ip, manager.isRegistered ip = true → manager'.isRegistered ip = true)
    (talk : Option (Ipv4Address × Ipv4Address) × Bool) :
    scale.landing manager' talk ≤ scale.landing manager talk := by
  have fewer : scale.question ≤ scale.riddle :=
    Nat.succ_le_succ (Nat.le_add_right scale.plain _)
  unfold landing
  split
  · rename_i src _
    by_cases before : manager.isRegistered src = true
    · exact Nat.le_of_eq ((if_pos (grown src before)).trans (if_pos before).symm)
    · rw [if_neg before]
      split
      · exact fewer
      · exact Nat.le_refl _
  · exact Nat.le_refl 1

/-- What may be asked about later might have been before. -/
theorem Open.of_grown
    (grown : ∀ ip, manager.isRegistered ip = true → manager'.isRegistered ip = true)
    {talk : Option (Ipv4Address × Ipv4Address) × Bool} (later : Open manager' talk) :
    Open manager talk := by
  obtain ⟨ips, asks⟩ := talk
  cases asks with
  | true => trivial
  | false =>
    cases ips with
    | none => trivial
    | some pair =>
      have later : manager'.isRegistered pair.2 = false := later
      cases before : manager.isRegistered pair.2 with
      | false => exact before
      | true =>
        rw [grown _ before] at later
        cases later

/-- Frames from below get lighter as their destinations are registered. -/
theorem climb_mono
    (grown : ∀ ip, manager.isRegistered ip = true → manager'.isRegistered ip = true) (n : Nat)
    (talk : Option (Ipv4Address × Ipv4Address) × Bool) :
    scale.climb manager' n talk ≤ scale.climb manager n talk := by
  refine Nat.add_le_add_left ?_ _
  split
  · rename_i later
    exact Nat.le_of_eq (if_pos (Open.of_grown grown later)).symm
  · exact Nat.zero_le _

/-- **Events get lighter as more addresses are registered.** -/
theorem weight_mono (scale : Scale)
    (grown : ∀ ip, manager.isRegistered ip = true → manager'.isRegistered ip = true)
    (event : Event) : scale.weight manager' event ≤ scale.weight manager event := by
  cases event with
  | frame target frame =>
    obtain ⟨id, port⟩ := target
    cases port with
    | lower i => exact climb_mono grown _ _
    | upper j => exact spread_mono (Nat.le_refl _) (landing_mono grown _)
  | control id message => exact Nat.le_refl _

/-- A frame weighs at least as much as it would at a host. -/
theorem landing_le_weight (target : Endpoint) (frame : Frame) :
    scale.landing manager frame.talk ≤ scale.weight manager (.frame target frame) := by
  obtain ⟨id, port⟩ := target
  cases port with
  | lower i =>
    have least := @landing_le_worst scale manager frame.talk
    have spread := @le_spread scale scale.top (scale.worst frame.talk)
    show _ ≤ (scale.top - _) + 1 + _ + _
    omega
  | upper j => exact le_spread _ _

/-- Every event weighs something. -/
theorem weight_pos (event : Event) : 0 < scale.weight manager event := by
  cases event with
  | frame target frame => exact Nat.lt_of_lt_of_le (landing_pos _) (landing_le_weight target frame)
  | control id message => exact Nat.succ_pos _

end Laws

/-! ## Networks on a scale -/

/-- A scale for a network: links climb, and the bounds hold. -/
structure Fits (scale : Scale) (net : Network) : Prop where
  climbs : ∀ link ∈ net.links,
    scale.rank link.1.device < scale.rank link.2.device ∧ scale.rank link.2.device ≤ scale.top
  width : ∀ {id outline}, net.ground.outline id = some outline →
    outline.lower.length ≤ scale.width
  cores : net.ground.registry.size ≤ scale.cores

section Sent

variable {scale : Scale} {net : Network} {id : DeviceId} {switch : Switch}

/-- A lower port leads down. -/
theorem weight_below (fits : scale.Fits net) (wired : net.ground.Wired net.links)
    (here : net.switchAt? id = some switch) {i : Nat} {peer : Endpoint}
    (leads : switch.peer? (.lower i) = some peer) (manager : FabricManager) (frame : Frame) :
    scale.rank peer.device < scale.rank id ∧ scale.rank id ≤ scale.top ∧
      scale.weight manager (.frame peer frame) =
        scale.spread (scale.rank peer.device) (scale.landing manager frame.talk) := by
  have mem := wired.lower ((peer?_of_switchAt? here (.lower i)).trans leads)
  obtain ⟨climbs, top⟩ := fits.climbs _ mem
  obtain ⟨j, up⟩ := (wired.joins mem).up
  obtain ⟨device, port⟩ := peer
  cases up
  exact ⟨climbs, top, rfl⟩

/-- An upper port leads up. -/
theorem weight_above (fits : scale.Fits net) (wired : net.ground.Wired net.links)
    (here : net.switchAt? id = some switch) {j : Nat} {peer : Endpoint}
    (leads : switch.peer? (.upper j) = some peer) (manager : FabricManager) (frame : Frame) :
    scale.rank id < scale.rank peer.device ∧ scale.rank peer.device ≤ scale.top ∧
      scale.weight manager (.frame peer frame) =
        scale.climb manager (scale.rank peer.device) frame.talk := by
  have mem := wired.upper ((peer?_of_switchAt? here (.upper j)).trans leads)
  obtain ⟨climbs, top⟩ := fits.climbs _ mem
  obtain ⟨i, down⟩ := (wired.joins mem).down
  obtain ⟨device, port⟩ := peer
  cases down
  exact ⟨climbs, top, rfl⟩

/-- The width of a scale bounds the lower ports of every switch. -/
theorem numLower_le (fits : scale.Fits net) (here : net.switchAt? id = some switch) :
    switch.numLower ≤ scale.width := by
  rw [← switch.outline_numLower]
  exact fits.width (ground_outline here)

/-- Copies for all lower ports are as many as the scale is wide, each at a lower rank. -/
theorem weight_flooded (fits : scale.Fits net) (wired : net.ground.Wired net.links)
    (here : net.switchAt? id = some switch) {n : Nat} (low : scale.rank id ≤ n + 1 ∨ scale.top ≤ n)
    (stream : Choice.Stream) (manager : FabricManager) (frame : Frame) :
    totalOf (scale.weight manager)
        (switch.verdictEvents (.ok ((switch.site stream).floodLower frame))) ≤
      scale.width * scale.spread n (scale.landing manager frame.talk) := by
  have each : ∀ event ∈ switch.verdictEvents (.ok ((switch.site stream).floodLower frame)),
      scale.weight manager event ≤ scale.spread n (scale.landing manager frame.talk) := by
    intro event mem
    obtain ⟨frames, port, copy, peer, same, out, leads, rfl⟩ := mem_verdictEvents mem
    cases same
    obtain ⟨i, -, same⟩ := List.mem_map.mp out
    cases same
    obtain ⟨below, top, weight⟩ := weight_below fits wired here leads manager frame
    have below : scale.rank peer.device ≤ n := by omega
    rw [weight]
    exact spread_mono below (Nat.le_refl _)
  have few : (switch.verdictEvents (.ok ((switch.site stream).floodLower frame))).length ≤
      scale.width := by
    refine Nat.le_trans (List.length_filterMap_le _ _) ?_
    rw [Site.floodLower, List.length_map, List.length_range]
    exact numLower_le fits here
  exact Nat.le_trans (totalOf_le each) (Nat.mul_le_mul_right _ few)

end Sent

/-! ## What a switch sends -/

section Passage

variable {scale : Scale} {net : Network} {id : DeviceId} {switch : Switch}

/-- A single frame leads to one event at the peer of its port, or to none. -/
theorem verdictEvents_single (switch : Switch) (port : Port) (frame : Frame) :
    switch.verdictEvents (.ok [(port, frame)]) = [] ∨
      ∃ peer, switch.peer? port = some peer ∧
        switch.verdictEvents (.ok [(port, frame)]) = [.frame peer frame] := by
  cases leads : switch.peer? port with
  | none => exact .inl (List.filterMap_cons_none (by rw [Switch.sent?, leads]; rfl))
  | some peer =>
    exact .inr ⟨peer, rfl, List.filterMap_cons_some (by rw [Switch.sent?, leads]; rfl)⟩

/-- **What becomes of a frame weighs less than the frame.** -/
theorem weight_passage (fits : scale.Fits net) (wired : net.ground.Wired net.links)
    (here : net.switchAt? id = some switch) {stream : Choice.Stream} {port : Port} {frame : Frame}
    {verdict : Verdict} (passage : Passage (switch.site stream) port frame verdict)
    (manager : FabricManager) :
    totalOf (scale.weight manager) (switch.verdictEvents verdict) <
      scale.weight manager (.frame ⟨id, port⟩ frame) := by
  have positive := @weight_pos scale manager (.frame ⟨id, port⟩ frame)
  cases passage with
  | dropped reason => exact positive
  | nothing => exact positive
  | @down port frame copy i within talk =>
    rcases verdictEvents_single switch (.lower i) copy with none | ⟨peer, leads, sent⟩
    · rw [none]
      exact positive
    · obtain ⟨below, top, weight⟩ := weight_below fits wired here leads manager copy
      rw [sent, totalOf_cons, totalOf_nil, weight, talk, Nat.add_zero]
      cases port with
      | lower i =>
        have least : scale.spread (scale.rank peer.device) (scale.landing manager frame.talk) ≤
            scale.spread scale.top (scale.worst frame.talk) :=
          spread_mono (Nat.le_trans (Nat.le_of_lt below) top) (landing_le_worst _)
        show _ < (scale.top - _) + 1 + _ + _
        omega
      | upper j =>
        have fewer := @copies_lt_spread scale (scale.rank peer.device) _
          (@landing_pos scale manager frame.talk)
        have step : scale.spread (scale.rank peer.device) (scale.landing manager frame.talk) <
            scale.spread (scale.rank peer.device + 1) (scale.landing manager frame.talk) := by
          have wide : 0 < scale.width :=
            Nat.lt_of_lt_of_le (Nat.zero_lt_of_lt within) (numLower_le fits here)
          exact Nat.lt_of_le_of_lt (Nat.le_mul_of_pos_left _ wide) fewer
        exact Nat.lt_of_lt_of_le step (spread_mono below (Nat.le_refl _))
  | @up i j frame copy _ talk =>
    rcases verdictEvents_single switch (.upper j) copy with none | ⟨peer, leads, sent⟩
    · rw [none]
      exact positive
    · obtain ⟨above, top, weight⟩ := weight_above fits wired here leads manager copy
      rw [sent, totalOf_cons, totalOf_nil, weight, talk, Nat.add_zero]
      show (scale.top - _) + 1 + _ + _ < (scale.top - _) + 1 + _ + _
      omega
  | @copied j frame =>
    cases rank : scale.rank id with
    | zero =>
      -- Nothing is below the lowest rank.
      have none : switch.verdictEvents (.ok ((switch.site stream).floodLower frame)) = [] := by
        refine List.eq_nil_iff_forall_not_mem.mpr fun event mem => ?_
        obtain ⟨frames, port, copy, peer, same, out, leads, -⟩ := mem_verdictEvents mem
        cases same
        obtain ⟨i, -, same⟩ := List.mem_map.mp out
        cases same
        have below := (weight_below fits wired here leads manager frame).1
        rw [rank] at below
        cases below
      rw [none]
      exact positive
    | succ n =>
      have total := weight_flooded fits wired here (.inl (Nat.le_of_eq rank)) stream manager frame
      have fewer := @copies_lt_spread scale n _ (@landing_pos scale manager frame.talk)
      show _ < scale.spread (scale.rank id) (scale.landing manager frame.talk)
      rw [rank]
      exact Nat.lt_of_le_of_lt total fewer

/-- A flood is ordered from as many switches as the scale allows for. -/
theorem weight_floods (manager : FabricManager) (site : Site) {state : ForwardState}
    (cores : state.manager.switches.size ≤ scale.cores) (dst src : Ipv4Address) (srcPmac : Pmac) :
    totalOf (scale.weight manager) (state.floods site dst src srcPmac) ≤
      scale.cores * scale.order := by
  have each : ∀ event ∈ state.floods site dst src srcPmac,
      scale.weight manager event ≤ scale.order := by
    intro event mem
    obtain ⟨key, -, rfl⟩ := List.mem_map.mp mem
    exact Nat.le_refl _
  have few : (state.floods site dst src srcPmac).length ≤ scale.cores := by
    rw [ForwardState.floods, List.length_map, FabricManager.floodRecipients, List.length_map]
    refine Nat.le_trans (List.length_filter_le _ _) ?_
    rwa [Std.TreeMap.length_toList]
  exact Nat.le_trans (totalOf_le each) (Nat.mul_le_mul_right _ few)

/-- **What a switch raises for a frame weighs less than the frame.** -/
theorem weight_ruling (fits : scale.Fits net) (wired : net.ground.Wired net.links)
    (here : net.switchAt? id = some switch) {port : Port} {frame : Frame} {verdict : Verdict}
    {state : ForwardState}
    (ruling : Ruling (switch.site (net.streams id)) (switch.forwardState net.manager) port frame
      verdict state) :
    totalOf (scale.weight state.manager) (state.raised ++ switch.verdictEvents verdict) <
      scale.weight net.manager (.frame ⟨id, port⟩ frame) := by
  have grown := ruling.grown
  have lighter := weight_mono scale grown (.frame ⟨id, port⟩ frame)
  cases ruling with
  | plain _ quiet passage =>
    rw [quiet]
    exact Nat.lt_of_lt_of_le (weight_passage fits wired here passage _) lighter
  | admits _ _ _ _ quiet passage =>
    rw [quiet]
    exact Nat.lt_of_lt_of_le (weight_passage fits wired here passage _) lighter
  | @asks i frame src dst srcPmac _ _ _ ips _ unlisted asked =>
    have registered : (switch.forwardState net.manager).manager.switches.size ≤ scale.cores :=
      fits.cores
    have floods := weight_floods state.manager (switch.site (net.streams id)) registered dst src
      srcPmac
    have unknown : state.manager.isRegistered dst = false := by
      rw [FabricManager.isRegistered, Std.TreeMap.contains_eq_isSome_getElem?, unlisted]
      rfl
    have opened : Open net.manager frame.talk := by
      refine Open.of_grown grown ?_
      rw [Frame.talk, ips]
      cases frame.headers.isArpRequest
      · exact unknown
      · trivial
    rw [asked]
    show totalOf _ (([] ++ _) ++ []) < (scale.top - _) + 1 + _ + (if _ then _ else _)
    rw [List.nil_append, List.append_nil, if_pos opened]
    omega

/-- **What a switch raises for a message weighs less than the message.** -/
theorem weight_obeyed (fits : scale.Fits net) (wired : net.ground.Wired net.links)
    (here : net.switchAt? id = some switch) {message : ControlMessage}
    (asked : ∀ {dst src srcPmac}, message = .arpFlood dst src srcPmac →
      net.manager.isRegistered src = true) (stream : Choice.Stream) :
    totalOf (scale.weight net.manager)
        (switch.verdictEvents (Policy.onMessage switch.tier (switch.site stream) message)) <
      scale.weight net.manager (.control id message) := by
  rcases Policy.onMessage_cases switch.tier (switch.site stream) message with
    ⟨reason, refused⟩ | ignored | ⟨dst, src, srcPmac, told, floods⟩
  · rw [refused]
    exact Nat.succ_pos _
  · rw [ignored]
    exact Nat.succ_pos _
  · have total := weight_flooded fits wired here (.inr (Nat.le_refl _)) stream net.manager
      (Transit.floodFrame dst src srcPmac)
    have landing : scale.landing net.manager (some (src, dst), true) = scale.question :=
      if_pos (asked told)
    rw [Transit.talk_floodFrame, landing] at total
    rw [floods]
    exact Nat.lt_succ_of_le total

end Passage

/-! ## What a host sends -/

section Host

variable {scale : Scale} {net : Network} {id : DeviceId} {host : Host} {uplink : Endpoint}

/-- What a host sends that is no question is plain, or it may be asked about. -/
theorem weight_uplink (wired : net.ground.Wired net.links) (here : net.hostAt? id = some host)
    (attached : host.uplink = some uplink) (manager : FabricManager) {frame : Frame}
    {ips : Option (Ipv4Address × Ipv4Address)} (talk : frame.talk = (ips, false)) :
    scale.weight manager (.frame uplink frame) ≤
      scale.plain + if Open manager frame.talk then scale.cores * scale.order else 0 := by
  obtain ⟨i, down⟩ := (wired.joins (wired.uplink (ground_card here) attached)).down
  obtain ⟨device, port⟩ := uplink
  cases down
  have one : scale.worst frame.talk = 1 := by rw [talk]; rfl
  show (scale.top - _) + 1 + scale.spread scale.top (scale.worst frame.talk) + _ ≤
    scale.top + 1 + scale.spread scale.top 1 + _
  rw [one]
  omega

/-- Such a frame is never more than a stray one. -/
theorem weight_uplink_le (wired : net.ground.Wired net.links) (here : net.hostAt? id = some host)
    (attached : host.uplink = some uplink) (manager : FabricManager) {frame : Frame}
    {ips : Option (Ipv4Address × Ipv4Address)} (talk : frame.talk = (ips, false)) :
    scale.weight manager (.frame uplink frame) ≤ scale.stray := by
  refine Nat.le_trans (weight_uplink wired here attached manager talk) (Nat.add_le_add_left ?_ _)
  split
  · exact Nat.le_refl _
  · exact Nat.zero_le _

/-- The answer to a question weighs less than the question. -/
theorem weight_reply (wired : net.ground.Wired net.links) (here : net.hostAt? id = some host)
    (attached : host.uplink = some uplink) (manager : FabricManager) {frame : Frame}
    {arp : ArpPacket} (payload : frame.payload = .arp arp) (asks : arp.isRequest = true) :
    scale.weight manager (Host.reply host.card uplink arp) <
      scale.landing manager frame.talk := by
  have told : frame.talk = (some (arp.senderIp, arp.targetIp), true) := by
    rw [Frame.talk, Frame.headers, payload]
    exact congrArg _ asks
  rw [told]
  show _ < if _ then scale.question else scale.riddle
  split
  · rename_i known
    refine Nat.lt_succ_of_le (Nat.le_trans (weight_uplink wired here attached manager rfl) ?_)
    have answered : ¬ Open manager (some (host.ip, arp.senderIp), false) := by
      intro unknown
      have unknown : manager.isRegistered arp.senderIp = false := unknown
      rw [known] at unknown
      cases unknown
    exact Nat.le_of_eq (congrArg (scale.plain + ·) (if_neg answered))
  · exact Nat.lt_succ_of_le (weight_uplink_le wired here attached manager rfl)

/-- **What a host sends for a frame weighs less than the frame and the data that it releases.** -/
theorem weight_received (wired : net.ground.Wired net.links) (here : net.hostAt? id = some host)
    (attached : host.uplink = some uplink) (port : Port) (frame : Frame) :
    totalOf (scale.weight net.manager) (host.receive frame).events +
        scale.stray * (host.receive frame).host.totalPending <
      scale.weight net.manager (.frame ⟨id, port⟩ frame) + scale.stray * host.totalPending := by
  have positive := @weight_pos scale net.manager (.frame ⟨id, port⟩ frame)
  rcases Host.receive_cases attached frame with
    ⟨after, quiet, kept⟩ | ⟨arp, after, payload, received, emptied⟩
  · have same : after.totalPending = host.totalPending := by
      rw [Host.totalPending, kept, Host.totalPending]
    rw [quiet, totalOf_nil, same]
    omega
  · have released : totalOf (scale.weight net.manager) ((host.pendingFor arp.senderIp).map
        (Host.datagram host.card uplink arp.senderIp arp.senderHw)) ≤
        scale.stray * (host.pendingFor arp.senderIp).length := by
      rw [Nat.mul_comm, ← List.length_map (Host.datagram host.card uplink arp.senderIp arp.senderHw)]
      refine totalOf_le fun event mem => ?_
      obtain ⟨data, -, rfl⟩ := List.mem_map.mp mem
      exact weight_uplink_le wired here attached net.manager rfl
    have answered : totalOf (scale.weight net.manager)
        (if arp.isRequest then [Host.reply host.card uplink arp] else []) <
        scale.weight net.manager (.frame ⟨id, port⟩ frame) := by
      split
      · rename_i asks
        exact Nat.lt_of_lt_of_le (weight_reply wired here attached net.manager payload asks)
          (landing_le_weight _ frame)
      · exact positive
    rw [received, Host.totalPending_learned emptied, totalOf_append, Nat.mul_add]
    show _ + scale.stray * after.totalPending < _
    omega

end Host

end Scale

/-- **Handling an event costs less than the event weighs**: whatever is raised and released. -/
theorem Reacts.weight_lt {scale : Scale} {net after : Network} {event : Event}
    {raised : List Event} (fits : scale.Fits net) (wired : net.ground.Wired net.links)
    (asked : ∀ {id dst src srcPmac}, event = .control id (.arpFlood dst src srcPmac) →
      net.manager.isRegistered src = true) (reacts : net.Reacts event raised after) :
    totalOf (scale.weight after.manager) raised + scale.stray * after.backlog <
      scale.weight net.manager event + scale.stray * net.backlog := by
  cases reacts with
  | @rules id port frame switch verdict state outcome here ruling carried =>
    have lighter := Scale.weight_ruling fits wired here ruling
    have kept : (net.applySwitch id outcome).backlog = net.backlog := backlog_setSwitch here _
    have manager : (net.applySwitch id outcome).manager = state.manager := carried.manager
    rw [kept, manager]
    exact Nat.add_lt_add_right lighter _
  | @obeys id message switch verdict outcome here same carried =>
    have told : ∀ {dst src srcPmac}, message = .arpFlood dst src srcPmac →
        net.manager.isRegistered src = true := fun told => asked (congrArg (Event.control id) told)
    have lighter := Scale.weight_obeyed fits wired here told (net.streams id)
    have kept : (net.applySwitch id outcome).backlog = net.backlog := backlog_setSwitch here _
    have manager : (net.applySwitch id outcome).manager = net.manager := carried.manager
    rw [kept, manager, same]
    exact Nat.add_lt_add_right lighter _
  | @host id port frame host uplink here attached =>
    have lighter := @Scale.weight_received scale _ _ _ _ wired here attached port frame
    have moved := backlog_setHost here (host.receive frame).host
    have total := congrArg (scale.stray * ·) moved
    simp only [Nat.mul_add] at total
    show totalOf (scale.weight net.manager) _ + scale.stray * Network.backlog (net.setHost id _) < _
    omega

end PmacFabric.Network
