import PmacFabric.Proofs.Forwarding.Billing
import PmacFabric.Proofs.Network.Ground

/-!
# What a decision is confined to

Whatever the fabric manager knows and says, a decision about a frame stays within bounds: its frames
are for ports that the switch has, and the manager raises events only for a frame that is then
dropped as unresolved, all of them messages that have a core switch flood.
**`Switch.judge_confined`** says so for every switch.
-/

namespace PmacFabric

/-- What a decision is confined to. -/
structure Confined (site : Site) (state : ForwardState) (verdict : Verdict)
    (state' : ForwardState) : Prop where
  ports : ∀ frames, verdict = .ok frames → ∀ out ∈ frames, site.hasPort out.1 = true
  raised : ∃ events, state'.raised = state.raised ++ events ∧
    ∀ event ∈ events, verdict = .error .unresolved ∧ state.manager.AsksCore event

/-- Copies of a frame leave through ports that exist. -/
theorem Site.hasPort_of_mem_floodLower {site : Site} {frame : Frame} {out : Port × Frame}
    (mem : out ∈ site.floodLower frame) : site.hasPort out.1 = true := by
  obtain ⟨i, within, rfl⟩ := List.mem_map.mp mem
  exact decide_eq_true (List.mem_range.mp within)

section Confined

variable {site : Site} {state state' : ForwardState}

/-- A decision that raises no event is confined when its ports exist. -/
theorem Confined.of_quiet {verdict : Verdict} (quiet : state'.raised = state.raised)
    (ports : ∀ frames, verdict = .ok frames → ∀ out ∈ frames, site.hasPort out.1 = true) :
    Confined site state verdict state' :=
  ⟨ports, [], by rw [quiet, List.append_nil], fun _ mem => by cases mem⟩

/-- Dropping a frame is confined. -/
theorem Confined.dropped {reason : DropReason} (quiet : state'.raised = state.raised) :
    Confined site state (.error reason) state' :=
  .of_quiet quiet fun _ ok => by cases ok

/-- Sending a frame through a port that exists is confined. -/
theorem Confined.sent {port : Port} {frame : Frame} (quiet : state'.raised = state.raised)
    (has : site.hasPort port = true) : Confined site state (.ok [(port, frame)]) state' := by
  refine .of_quiet quiet fun frames ok out mem => ?_
  cases ok
  cases List.mem_singleton.mp mem
  exact has

/-- Copying a frame to all lower ports is confined. -/
theorem Confined.copied {frame : Frame} :
    Confined site state (.ok (site.floodLower frame)) state := by
  refine .of_quiet rfl fun frames ok out mem => ?_
  cases ok
  exact Site.hasPort_of_mem_floodLower mem

/-- A decision that begins with a state of the same registry, from which nothing was raised. -/
theorem Confined.after {mid : ForwardState} {verdict : Verdict}
    (confined : Confined site mid verdict state') (quiet : mid.raised = state.raised)
    (registry : mid.manager.switches = state.manager.switches) :
    Confined site state verdict state' := by
  obtain ⟨ports, events, raised, asking⟩ := confined
  refine ⟨ports, events, quiet ▸ raised, fun event mem => ?_⟩
  obtain ⟨unresolved, id, identity, dst, src, srcPmac, rfl, listed, core⟩ := asking event mem
  rw [FabricManager.switchIdentity?, registry] at listed
  exact ⟨unresolved, id, identity, dst, src, srcPmac, rfl, listed, core⟩

/-- Switches above the edge are confined to their own ports when they pass a frame on. -/
theorem Transit.forward_confined (site : Site) (frame : Frame) (state : ForwardState) :
    Confined site state (forward site frame state).1 (forward site frame state).2 := by
  unfold forward
  split
  · next found =>
    exact .sent (ForwardState.sameHosts_of_route found).2 (ForwardState.hasPort_of_route found).1
  · next found => exact .dropped (ForwardState.sameHosts_of_route found).2

/-- Switches above the edge are confined with frames from above, which they may have to copy. -/
theorem Transit.fromAbove_confined (site : Site) (frame : Frame) (state : ForwardState) :
    Confined site state (fromAbove site frame state).1 (fromAbove site frame state).2 := by
  unfold fromAbove
  split
  · exact .copied
  · split
    · next found =>
      exact .sent (ForwardState.sameHosts_of_route found).2 (ForwardState.hasPort_of_route found).1
    · next found => exact .dropped (ForwardState.sameHosts_of_route found).2
    · next found => exact .dropped (ForwardState.sameHosts_of_route found).2

namespace Edge

/-- An edge switch is confined when both addresses of a frame are known. -/
theorem forward_confined (site : Site) (frame : Frame) (srcPmac dstPmac : Pmac)
    (state : ForwardState) :
    Confined site state (forward site frame srcPmac dstPmac state).1
      (forward site frame srcPmac dstPmac state).2 := by
  unfold forward
  split
  · next found => exact .dropped (ForwardState.sameHosts_of_route found).2
  · next found =>
    exact .sent (ForwardState.sameHosts_of_route found).2 (ForwardState.hasPort_of_route found).1
  · next found =>
    have quiet := (ForwardState.sameHosts_of_route found).2
    split
    · exact .dropped quiet
    · exact .sent quiet (ForwardState.hasPort_of_route found).1

/-- An edge switch is confined when a frame comes from above. -/
theorem fromAbove_confined (site : Site) (frame : Frame) (state : ForwardState) :
    Confined site state (fromAbove site frame state).1 (fromAbove site frame state).2 := by
  unfold fromAbove
  split
  · exact .copied
  · split
    · exact .dropped rfl
    · split
      · next found =>
        exact .sent (ForwardState.sameHosts_of_route found).2
          (ForwardState.hasPort_of_route found).1
      · next found => exact .dropped (ForwardState.sameHosts_of_route found).2

/-- Finding or giving a PMAC raises nothing. -/
theorem sourcePmac_quiet (site : Site) (inPort : Nat) (amac : MacAddress) (ip : Ipv4Address)
    (state : ForwardState) :
    (sourcePmac site inPort amac ip state).2.raised = state.raised := by
  unfold sourcePmac
  split
  · rfl
  · split
    · change state.raised ++ (state.manager.receive site.id (.macRegister ip _)).events = _
      rw [FabricManager.events_receive_macRegister, List.append_nil]
    · rfl

/-- Only a destination that stays unknown has events raised. -/
theorem destinationPmac_raised (site : Site) (dst src : Ipv4Address) (srcPmac : Pmac)
    (state : ForwardState) :
    (destinationPmac site dst src srcPmac state).2.raised = state.raised ∨
      (destinationPmac site dst src srcPmac state).1 = .broadcast ∧
        ∃ events, (destinationPmac site dst src srcPmac state).2.raised = state.raised ++ events ∧
          ∀ event ∈ events, state.manager.AsksCore event := by
  unfold destinationPmac
  split
  · exact .inl rfl
  · have asked := state.manager.events_receive_arpRequest site.id src srcPmac dst
    simp only [ForwardState.query, ForwardState.tell]
    rcases asked with quiet | ⟨reply, asking⟩
    · left
      split <;> exact (congrArg (state.raised ++ ·) quiet).trans (List.append_nil _)
    · rw [reply]
      exact .inr ⟨rfl, _, rfl, asking⟩

/-- An edge switch is confined when a frame comes from below, although it may raise messages to core
switches. -/
theorem fromBelow_confined (site : Site) (inPort : Nat) (frame : Frame) (state : ForwardState) :
    Confined site state (fromBelow site inPort frame state).1
      (fromBelow site inPort frame state).2 := by
  unfold fromBelow
  split
  · exact .dropped rfl
  · next src dst ips =>
    have quiet := sourcePmac_quiet site inPort frame.src src state
    have registry := Policy.switches_sourcePmac site inPort frame.src src state
    split
    · next reason mid refused =>
      rw [refused] at quiet
      exact .dropped quiet
    · next srcPmac mid found =>
      rw [found] at quiet registry
      refine Confined.after ?_ quiet registry
      have raised := destinationPmac_raised site dst src srcPmac mid
      generalize destinationPmac site dst src srcPmac mid = resolved at raised
      obtain ⟨dstPmac, resolved⟩ := resolved
      dsimp only at raised ⊢
      rcases raised with silent | ⟨rfl, events, raised, asking⟩
      · split
        · exact .dropped silent
        · have forwarded := forward_confined site frame srcPmac dstPmac resolved
          refine .of_quiet ?_ forwarded.ports
          rw [forward_silent]
          exact silent
      · rw [if_pos (by decide)]
        refine ⟨?_, events, raised, ?_⟩
        · intro frames ok
          cases ok
        · intro event mem
          exact ⟨rfl, asking event mem⟩

end Edge

end Confined

namespace Policy

/-- Switches of all tiers are confined with frames from below. -/
theorem fromBelow_confined (tier : Tier) (site : Site) (inPort : Nat) (frame : Frame)
    (state : ForwardState) :
    Confined site state (fromBelow tier site inPort frame state).1
      (fromBelow tier site inPort frame state).2 := by
  cases tier with
  | edge => exact Edge.fromBelow_confined site inPort frame state
  | aggregation | core => exact Transit.forward_confined site frame state

/-- Switches of all tiers are confined with frames from above. -/
theorem fromAbove_confined (tier : Tier) (site : Site) (frame : Frame) (state : ForwardState) :
    Confined site state (fromAbove tier site frame state).1
      (fromAbove tier site frame state).2 := by
  cases tier with
  | edge => exact Edge.fromAbove_confined site frame state
  | aggregation => exact Transit.fromAbove_confined site frame state
  | core => exact .dropped rfl

end Policy

/-- **A decision about a frame stays within its bounds**, whatever the manager knows. -/
theorem Switch.judge_confined (switch : Switch) (stream : Choice.Stream) (manager : FabricManager)
    (port : Port) (frame : Frame) :
    Confined (switch.site stream) (switch.forwardState manager)
      (switch.judge stream manager port frame).1 (switch.judge stream manager port frame).2 := by
  cases port with
  | lower i => exact Policy.fromBelow_confined ..
  | upper j => exact Policy.fromAbove_confined ..

end PmacFabric
