import PmacFabric.Proofs.Forwarding.Likeness

/-!
# A local delivery is a shortcut

An edge switch that finds the destination of a frame among its own hosts delivers the frame at once.
Any other edge switch sends it up, and the switch of the destination delivers it when it comes down.
The two ways are written in two functions, and each rewrites other fields under other conditions.
**`local_eq_remote`** says that the host sees no difference: the same frame leaves on the same port.

The reason is one equation on frames, `outbound_inbound`: entering the fabric for a PMAC and leaving
it for a hardware address is entering it for the hardware address.
-/

namespace PmacFabric.Edge

/-- Entering the fabric for some address and leaving it for `amac` is entering it for `amac`. -/
theorem outbound_inbound (frame : Frame) (srcPmac : Pmac) (dst amac : MacAddress) :
    outbound (inbound frame srcPmac dst) amac = inbound frame srcPmac amac := by
  obtain ⟨src, old, payload⟩ := frame
  cases payload with
  | arp arp =>
    obtain ⟨operation, senderHw, senderIp, targetHw, targetIp⟩ := arp
    cases operation <;> rfl
  | _ => rfl

/-- Both addresses of a frame from below are resolved: its source to `src`, its destination to
`dst`. -/
def Resolves (site : Site) (inPort : Nat) (frame : Frame) (src dst : Pmac)
    (state resolved : ForwardState) : Prop :=
  ∃ srcIp dstIp sourced, frame.headers.ips = some (srcIp, dstIp) ∧
    sourcePmac site inPort frame.src srcIp state = (.ok src, sourced) ∧
    destinationPmac site dstIp srcIp src sourced = (dst, resolved)

section Resolves

/-- Both addresses are in the table of the switch. -/
theorem Resolves.of_table {site : Site} {frame : Frame} {srcIp dstIp : Ipv4Address} {src dst : Pmac}
    {state : ForwardState} (ips : frame.headers.ips = some (srcIp, dstIp))
    (source : state.table.pmacOfIp? srcIp = some src)
    (destination : state.table.pmacOfIp? dstIp = some dst) (inPort : Nat) :
    Resolves site inPort frame src dst state state := by
  refine ⟨srcIp, dstIp, state, ips, ?_, ?_⟩
  · simp only [sourcePmac, source]
  · simp only [destinationPmac, destination]

variable {site : Site} {inPort : Nat} {frame : Frame} {src : Pmac} {state resolved : ForwardState}

/-- A frame whose addresses are resolved is forwarded. -/
theorem Resolves.fromBelow {dst : Pmac} (found : Resolves site inPort frame src dst state resolved)
    (alone : dst.isBroadcast = false) :
    fromBelow site inPort frame state = forward site frame src dst resolved := by
  obtain ⟨srcIp, dstIp, sourced, ips, source, destination⟩ := found
  simp only [Edge.fromBelow, ips, source, destination, alone, Bool.false_eq_true, if_false]

/-- No PMAC that is encoded from a place is the broadcast address. -/
theorem not_isBroadcast_encode (pod position port : UInt8) :
    (Pmac.encode pod position port).isBroadcast = false :=
  decide_eq_false (Pmac.mac_encode_ne_broadcast pod position port)

/-- An edge switch finds the port of a PMAC of its own. -/
theorem route_own (edge : site.identity.tier = .edge) {port : UInt8}
    (within : port.toNat < site.numLower) (state : ForwardState) :
    (state.route site (.encode site.identity.pod site.identity.position port)).1 =
      some (.lower port.toNat) := by
  have has : site.hasPort (.lower port.toNat) = true := decide_eq_true within
  have port' : outputPort site.identity (.encode site.identity.pod site.identity.position port)
      site.numUpper (site.stream state.drawn) = some (.lower port.toNat) := by
    simp only [outputPort, edge]
    exact if_pos ⟨rfl, rfl⟩
  rw [ForwardState.route, port', Option.filter_some, if_pos has]

/-- An edge switch sends up for a PMAC of another one. -/
theorem route_foreign (edge : site.identity.tier = .edge) {pod position : UInt8}
    (apart : ¬ (site.identity.pod = pod ∧ site.identity.position = position))
    (up : 0 < site.numUpper) (port : UInt8) (state : ForwardState) :
    ∃ j, j < site.numUpper ∧
      (state.route site (.encode pod position port)).1 = some (.upper j) := by
  have any : outputPort site.identity (.encode pod position port) site.numUpper
      (site.stream state.drawn) = anyUpper site.numUpper (site.stream state.drawn) := by
    simp only [outputPort, edge]
    exact if_neg apart
  rcases filter_anyUpper site (site.stream state.drawn) with ⟨closed, -⟩ | ⟨j, hj, chosen⟩
  · exact absurd closed (Nat.ne_of_gt up)
  · exact ⟨j, hj, by rw [ForwardState.route, any, chosen]⟩

/-- The local way: the frame goes down to the host, addressed to it. -/
theorem Resolves.local (edge : site.identity.tier = .edge) {port : UInt8}
    (within : port.toNat < site.numLower) {entry : PmacEntry}
    (found : Resolves site inPort frame src
      (.encode site.identity.pod site.identity.position port) state resolved)
    (listed : resolved.table.lookup? (.encode site.identity.pod site.identity.position port) =
      some entry) :
    (Edge.fromBelow site inPort frame state).1 =
      .ok [(.lower port.toNat, inbound frame src entry.amac)] := by
  have routed := route_own edge within resolved
  have amac : (resolved.route site
      (.encode site.identity.pod site.identity.position port)).2.table.amac?
        (.encode site.identity.pod site.identity.position port) = some entry.amac := by
    show (resolved.table.lookup? _).map PmacEntry.amac = _
    rw [listed, Option.map_some]
  rw [found.fromBelow (not_isBroadcast_encode ..), forward]
  cases chosen : resolved.route site (.encode site.identity.pod site.identity.position port)
  rw [chosen] at routed amac
  cases routed
  simp only [amac]

/-- The first half of the remote way: the frame goes up, addressed to the PMAC. -/
theorem Resolves.remote (edge : site.identity.tier = .edge) {pod position port : UInt8}
    (apart : ¬ (site.identity.pod = pod ∧ site.identity.position = position))
    (up : 0 < site.numUpper)
    (found : Resolves site inPort frame src (.encode pod position port) state resolved) :
    ∃ j, j < site.numUpper ∧ (Edge.fromBelow site inPort frame state).1 =
      .ok [(.upper j, inbound frame src (Pmac.encode pod position port).mac)] := by
  obtain ⟨j, hj, routed⟩ := route_foreign edge apart up port resolved
  refine ⟨j, hj, ?_⟩
  rw [found.fromBelow (not_isBroadcast_encode ..), forward]
  cases chosen : resolved.route site (.encode pod position port)
  rw [chosen] at routed
  cases routed
  rfl

end Resolves

/-- The second half of the remote way: a frame for a PMAC of the switch goes down to its host. -/
theorem fromAbove_own {site : Site} (edge : site.identity.tier = .edge) {port : UInt8}
    (within : port.toNat < site.numLower) {entry : PmacEntry} {state : ForwardState}
    (listed : state.table.lookup? (.encode site.identity.pod site.identity.position port) =
      some entry) {frame : Frame}
    (towards : frame.dst = (Pmac.encode site.identity.pod site.identity.position port).mac) :
    (fromAbove site frame state).1 = .ok [(.lower port.toNat, outbound frame entry.amac)] := by
  have alone : frame.dst.isBroadcast = false := towards ▸ not_isBroadcast_encode ..
  have read : (⟨frame.dst⟩ : Pmac) = .encode site.identity.pod site.identity.position port :=
    congrArg Pmac.mk towards
  have amac : state.table.amac? (.encode site.identity.pod site.identity.position port) =
      some entry.amac := by
    rw [PmacTable.amac?, listed, Option.map_some]
  have routed := route_own edge within state
  simp only [fromAbove, alone, Bool.false_eq_true, if_false, read, amac]
  cases chosen : state.route site (.encode site.identity.pod site.identity.position port)
  rw [chosen] at routed
  cases routed
  rfl

/-- **A host cannot tell a local delivery from a remote one.** Let `home` be an edge switch with an
entry for the PMAC of one of its lower ports, and `away` one at another place. If both resolve the
addresses of a frame alike, then the frame that `home` puts on the port is the frame that it puts
there when the frame of `away` has come down to it. -/
theorem local_eq_remote {home away : Site} {frame : Frame} {src : Pmac} {amac : MacAddress}
    {ip : Ipv4Address} {port : UInt8} {inPort inPort' : Nat}
    {state resolved state' resolved' holder : ForwardState}
    (edge : home.identity.tier = .edge) (edge' : away.identity.tier = .edge)
    (apart : ¬ (away.identity.pod = home.identity.pod ∧
      away.identity.position = home.identity.position))
    (within : port.toNat < home.numLower) (up : 0 < away.numUpper)
    (here : Resolves home inPort frame src
      (.encode home.identity.pod home.identity.position port) state resolved)
    (there : Resolves away inPort' frame src
      (.encode home.identity.pod home.identity.position port) state' resolved')
    (listed : resolved.table.lookup? (.encode home.identity.pod home.identity.position port) =
      some ⟨.encode home.identity.pod home.identity.position port, amac, ip, port.toNat⟩)
    (held : holder.table.lookup? (.encode home.identity.pod home.identity.position port) =
      some ⟨.encode home.identity.pod home.identity.position port, amac, ip, port.toNat⟩) :
    ∃ delivered travelling j, j < away.numUpper ∧
      (fromBelow home inPort frame state).1 = .ok [(.lower port.toNat, delivered)] ∧
      (fromBelow away inPort' frame state').1 = .ok [(.upper j, travelling)] ∧
      (fromAbove home travelling holder).1 = .ok [(.lower port.toNat, delivered)] := by
  obtain ⟨j, hj, sent⟩ := there.remote edge' apart up
  refine ⟨inbound frame src amac, _, j, hj, here.local edge within listed, sent, ?_⟩
  rw [fromAbove_own edge within held rfl, outbound_inbound]

/-- An edge switch that has entered two hosts. -/
def twoHosts : ForwardState :=
  { table := (PmacTable.empty.add ⟨.encode 0 0 0, ⟨2, 0, 0, 0, 0, 1⟩, ⟨10, 0, 0, 1⟩, 0⟩).add
      ⟨.encode 0 0 1, ⟨2, 0, 0, 0, 0, 2⟩, ⟨10, 0, 0, 2⟩, 1⟩
    manager := .empty }

/-- A reply from the first host to the second, with outdated hardware addresses. -/
def staleReply : Frame :=
  ⟨⟨2, 0, 0, 0, 0, 9⟩, .zero,
    .arp (.reply ⟨2, 0, 0, 0, 0, 8⟩ ⟨10, 0, 0, 1⟩ ⟨2, 0, 0, 0, 0, 7⟩ ⟨10, 0, 0, 2⟩)⟩

/-- An edge switch with two lower ports and one upper port. -/
def smallEdge (pod : UInt8) : Site := ⟨pod.toNat, ⟨.edge, pod, 0⟩, 2, 1, fun _ => 0⟩

/-- The stale reply reaches its host alike from both switches. -/
theorem stale_reply_delivered_alike :
    ∃ delivered travelling j, j < 1 ∧
      (fromBelow (smallEdge 0) 0 staleReply twoHosts).1 = .ok [(.lower 1, delivered)] ∧
      (fromBelow (smallEdge 1) 1 staleReply twoHosts).1 = .ok [(.upper j, travelling)] ∧
      (fromAbove (smallEdge 0) travelling twoHosts).1 = .ok [(.lower 1, delivered)] := by
  have source : twoHosts.table.pmacOfIp? ⟨10, 0, 0, 1⟩ = some (.encode 0 0 0) := by decide +kernel
  have destination : twoHosts.table.pmacOfIp? ⟨10, 0, 0, 2⟩ = some (.encode 0 0 1) := by
    decide +kernel
  have listed : twoHosts.table.lookup? (.encode 0 0 1) =
      some ⟨.encode 0 0 1, ⟨2, 0, 0, 0, 0, 2⟩, ⟨10, 0, 0, 2⟩, 1⟩ := by decide +kernel
  have here : Resolves (smallEdge 0) 0 staleReply (.encode 0 0 0) (.encode 0 0 1) twoHosts
      twoHosts :=
    .of_table rfl source destination 0
  have there : Resolves (smallEdge 1) 1 staleReply (.encode 0 0 0) (.encode 0 0 1) twoHosts
      twoHosts :=
    .of_table rfl source destination 1
  exact local_eq_remote rfl rfl (by decide) (by decide) (by decide) here there listed listed

end PmacFabric.Edge
