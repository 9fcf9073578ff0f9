import Mathlib.Data.List.Nodup
import PmacFabric.Proofs.Forwarding.Extent

/-!
# Frames go up, then down

A policy is asked in three ways: with a frame from below, with one from above, and with a message
from the fabric manager. What it may answer is listed here for each way, whatever the tier of the
policy, whatever switch it is asked for (of its own tier or of another), whatever the tables hold and
whatever numbers are drawn.
**`Policy.valley_free`** says that all three tiers keep to the lists.

A frame from above only leaves through lower ports. Links join lower ports to upper ones, so a frame
that has gone down once never goes up again, and no frame can circle in the fabric. A frame from
below leaves through one port at most, so only floods multiply, and these never go up either.
-/

namespace PmacFabric

/-! ## The bounds -/

/-- One copy of a frame for each lower port, in any order. -/
structure Copies (site : Site) (frame : Frame) (frames : List (Port × Frame)) : Prop where
  once : ∀ i < site.numLower, (frames.map Prod.fst).count (.lower i) = 1
  lower : ∀ out ∈ frames, ∃ i < site.numLower, out.1 = .lower i
  same : ∀ out ∈ frames, out.2 = frame

/-- States that differ in the numbers drawn only. -/
structure ForwardState.Undisturbed (state state' : ForwardState) : Prop where
  table : state'.table = state.table
  manager : state'.manager = state.manager
  raised : state'.raised = state.raised

/-- What a policy may do with a frame from below. -/
structure Policy.Below (tier : Tier) (site : Site) (frame : Frame) (state : ForwardState)
    (decision : Verdict × ForwardState) : Prop where
  /-- The frame leaves through one port, which exists. -/
  single : ∀ frames, decision.1 = .ok frames → ∃ out, frames = [out] ∧ site.hasPort out.1 = true
  unchanged : tier ≠ .edge → ∀ frames, decision.1 = .ok frames → ∀ out ∈ frames, out.2 = frame
  undisturbed : tier ≠ .edge → state.Undisturbed decision.2

/-- What a policy may do with a frame from above. -/
structure Policy.Above (tier : Tier) (site : Site) (frame : Frame) (state : ForwardState)
    (decision : Verdict × ForwardState) : Prop where
  /-- All frames leave through lower ports that exist. -/
  lower : ∀ frames, decision.1 = .ok frames → ∀ out ∈ frames, ∃ i < site.numLower, out.1 = .lower i
  /-- A broadcast is copied to all lower ports, at every tier that has something above it. -/
  copied : frame.dst.isBroadcast = true → tier ≠ .core →
    ∃ frames, decision.1 = .ok frames ∧ Copies site frame frames
  /-- Any other frame leaves through one port. -/
  single : frame.dst.isBroadcast = false →
    ∀ frames, decision.1 = .ok frames → ∃ out, frames = [out]
  /-- Nothing is above a core switch. -/
  topped : tier = .core → ∀ frames, decision.1 ≠ .ok frames
  unchanged : tier ≠ .edge → ∀ frames, decision.1 = .ok frames → ∀ out ∈ frames, out.2 = frame
  undisturbed : state.Undisturbed decision.2

/-- What a policy may do about a message from the fabric manager, which it answers without looking at
the state. -/
structure Policy.Told (tier : Tier) (site : Site) (message : ControlMessage) (verdict : Verdict) :
    Prop where
  /-- All frames leave through lower ports that exist. -/
  lower : ∀ frames, verdict = .ok frames → ∀ out ∈ frames, ∃ i < site.numLower, out.1 = .lower i
  /-- A core switch that is told to flood has the question copied to all lower ports. -/
  copied : tier = .core → ∀ dst src srcPmac, message = .arpFlood dst src srcPmac →
    ∃ frames, verdict = .ok frames ∧ Copies site (Transit.floodFrame dst src srcPmac) frames
  /-- Nothing else has frames sent. -/
  only : ∀ frames, verdict = .ok frames → frames ≠ [] →
    tier = .core ∧ ∃ dst src srcPmac, message = .arpFlood dst src srcPmac

/-! ## Floods -/

/-- Flooding a frame gives each lower port one copy. -/
theorem Site.copies_floodLower (site : Site) (frame : Frame) :
    Copies site frame (site.floodLower frame) where
  once := by
    intro i within
    have ports : (site.floodLower frame).map Prod.fst =
        (List.range site.numLower).map Port.lower := by
      rw [floodLower, List.map_map]
      rfl
    have distinct : ((List.range site.numLower).map Port.lower).Nodup :=
      List.Nodup.map (fun _ _ same => Port.lower.inj same) List.nodup_range
    rw [ports]
    exact List.count_eq_one_of_mem distinct (List.mem_map_of_mem (List.mem_range.mpr within))
  lower := by
    intro out mem
    obtain ⟨i, within, rfl⟩ := List.mem_map.mp mem
    exact ⟨i, List.mem_range.mp within, rfl⟩
  same := by
    intro out mem
    obtain ⟨i, -, rfl⟩ := List.mem_map.mp mem
    rfl

/-! ## Frames from below -/

section Below

variable {site : Site} {state : ForwardState}

/-- A frame that goes above the edge goes as it is, through one port. -/
theorem Transit.forward_sends {frame : Frame} {frames : List (Port × Frame)}
    (ok : (forward site frame state).1 = .ok frames) : ∃ port, frames = [(port, frame)] := by
  unfold forward at ok
  split at ok
  · next port _ _ =>
    cases ok
    exact ⟨port, rfl⟩
  · cases ok

/-- An edge switch that passes a frame on sends one frame. -/
theorem Edge.forward_sends {frame : Frame} {srcPmac dstPmac : Pmac}
    {frames : List (Port × Frame)}
    (ok : (forward site frame srcPmac dstPmac state).1 = .ok frames) : ∃ out, frames = [out] := by
  unfold forward at ok
  split at ok
  · cases ok
  · cases ok
    exact ⟨_, rfl⟩
  · split at ok
    · cases ok
    · cases ok
      exact ⟨_, rfl⟩

/-- An edge switch sends at most one frame for a frame from a host. -/
theorem Edge.fromBelow_sends {inPort : Nat} {frame : Frame} {frames : List (Port × Frame)}
    (ok : (fromBelow site inPort frame state).1 = .ok frames) : ∃ out, frames = [out] := by
  unfold fromBelow at ok
  split at ok
  · cases ok
  · split at ok
    · cases ok
    · dsimp only at ok
      split at ok
      · cases ok
      · exact forward_sends ok

/-- No switch copies a frame from below. -/
theorem Policy.fromBelow_sends {tier : Tier} {inPort : Nat} {frame : Frame}
    {frames : List (Port × Frame)} (ok : (fromBelow tier site inPort frame state).1 = .ok frames) :
    ∃ out, frames = [out] := by
  cases tier with
  | edge => exact Edge.fromBelow_sends ok
  | aggregation | core =>
    obtain ⟨port, rfl⟩ := Transit.forward_sends ok
    exact ⟨_, rfl⟩

/-- Above the edge the tiers treat a frame from below alike. -/
theorem Policy.fromBelow_of_ne_edge {tier : Tier} (above : tier ≠ .edge) (inPort : Nat)
    (frame : Frame) :
    fromBelow tier site inPort frame state = Transit.forward site frame state := by
  cases tier with
  | edge => exact absurd rfl above
  | aggregation | core => rfl

/-- A frame from below leaves through one port or is dropped. Above the edge nothing else comes of
it. -/
theorem Policy.fromBelow_below (tier : Tier) (site : Site) (inPort : Nat) (frame : Frame)
    (state : ForwardState) :
    Policy.Below tier site frame state (fromBelow tier site inPort frame state) where
  single := by
    intro frames ok
    obtain ⟨out, rfl⟩ := fromBelow_sends ok
    have confined := fromBelow_confined tier site inPort frame state
    exact ⟨out, rfl, confined.ports [out] ok out (List.mem_singleton_self out)⟩
  unchanged := by
    intro above frames ok out mem
    rw [fromBelow_of_ne_edge above] at ok
    obtain ⟨port, rfl⟩ := Transit.forward_sends ok
    rw [List.mem_singleton.mp mem]
  undisturbed := by
    intro above
    rw [fromBelow_of_ne_edge above, Transit.forward_silent]
    exact ⟨rfl, rfl, rfl⟩

end Below

/-! ## Frames from above -/

section Above

variable {site : Site} {state : ForwardState}

/-- A frame from above is copied to all lower ports, or leaves through one of them. -/
inductive Lowered (site : Site) (frame : Frame) : List (Port × Frame) → Prop where
  | copied : frame.dst.isBroadcast = true → Lowered site frame (site.floodLower frame)
  | passed {i : Nat} {copy : Frame} : frame.dst.isBroadcast = false → i < site.numLower →
      Lowered site frame [(.lower i, copy)]

/-- A lower port that a route goes through is one that the site has. -/
theorem ForwardState.lower_of_route {dst : Pmac} {i : Nat} {state' : ForwardState}
    (found : state.route site dst = (some (.lower i), state')) : i < site.numLower :=
  of_decide_eq_true (ForwardState.hasPort_of_route found).1

/-- An edge switch lets frames from above go down only. -/
theorem Edge.fromAbove_lowered {frame : Frame} {frames : List (Port × Frame)}
    (ok : (fromAbove site frame state).1 = .ok frames) : Lowered site frame frames := by
  unfold fromAbove at ok
  split at ok
  · next broadcast =>
    cases ok
    exact .copied broadcast
  · next single =>
    split at ok
    · cases ok
    · split at ok
      · next found =>
        cases ok
        exact .passed (eq_false_of_ne_true single) (ForwardState.lower_of_route found)
      · cases ok

/-- An aggregation switch does not change what it passes down. -/
theorem Transit.fromAbove_lowered {frame : Frame} {frames : List (Port × Frame)}
    (ok : (fromAbove site frame state).1 = .ok frames) :
    Lowered site frame frames ∧ ∀ out ∈ frames, out.2 = frame := by
  unfold fromAbove at ok
  split at ok
  · next broadcast =>
    cases ok
    exact ⟨.copied broadcast, (site.copies_floodLower frame).same⟩
  · next single =>
    split at ok
    · next found =>
      cases ok
      refine ⟨.passed (eq_false_of_ne_true single) (ForwardState.lower_of_route found), ?_⟩
      intro out mem
      rw [List.mem_singleton.mp mem]
    · cases ok
    · cases ok

/-- All switches let frames from above go down only. -/
theorem Policy.fromAbove_lowered {tier : Tier} {frame : Frame} {frames : List (Port × Frame)}
    (ok : (fromAbove tier site frame state).1 = .ok frames) : Lowered site frame frames := by
  cases tier with
  | edge => exact Edge.fromAbove_lowered ok
  | aggregation => exact (Transit.fromAbove_lowered ok).1
  | core => cases ok

/-- Broadcasts never fail where they can arrive. -/
theorem Policy.fromAbove_broadcast {tier : Tier} {frame : Frame}
    (broadcast : frame.dst.isBroadcast = true) (below : tier ≠ .core) :
    (fromAbove tier site frame state).1 = .ok (site.floodLower frame) := by
  cases tier with
  | core => exact absurd rfl below
  | edge => simp only [fromAbove, Edge.fromAbove, broadcast, if_true]
  | aggregation => simp only [fromAbove, Transit.fromAbove, broadcast, if_true]

/-- Whichever way a frame is lowered, it leaves through lower ports of the site. -/
theorem Lowered.lower {frame : Frame} {frames : List (Port × Frame)}
    (lowered : Lowered site frame frames) :
    ∀ out ∈ frames, ∃ i < site.numLower, out.1 = .lower i := by
  cases lowered with
  | copied broadcast => exact (site.copies_floodLower frame).lower
  | @passed i copy single within =>
    intro out mem
    exact ⟨i, within, congrArg Prod.fst (List.mem_singleton.mp mem)⟩

/-- A frame from above leaves through lower ports only: through all of them if it is a broadcast,
else through one. -/
theorem Policy.fromAbove_above (tier : Tier) (site : Site) (frame : Frame)
    (state : ForwardState) :
    Policy.Above tier site frame state (fromAbove tier site frame state) where
  lower := fun frames ok => (fromAbove_lowered ok).lower
  copied := fun broadcast below =>
    ⟨site.floodLower frame, fromAbove_broadcast broadcast below, site.copies_floodLower frame⟩
  single := by
    intro single frames ok
    cases fromAbove_lowered ok with
    | copied broadcast => exact absurd (single.symm.trans broadcast) Bool.false_ne_true
    | passed => exact ⟨_, rfl⟩
  topped := by
    rintro rfl frames ok
    cases ok
  unchanged := by
    intro above frames ok
    cases tier with
    | edge => exact absurd rfl above
    | aggregation => exact (Transit.fromAbove_lowered ok).2
    | core => cases ok
  undisturbed := by
    obtain ⟨manager, table, raised⟩ := fromAbove_silent tier site frame state
    exact ⟨table, manager, raised⟩

end Above

/-! ## Messages -/

/-- Frames are sent about a message if it is a flood and the switch that gets it is a core switch. -/
theorem Policy.onMessage_sends {tier : Tier} {site : Site} {message : ControlMessage}
    {frames : List (Port × Frame)} (ok : onMessage tier site message = .ok frames) :
    frames = [] ∨ tier = .core ∧ ∃ dst src srcPmac, message = .arpFlood dst src srcPmac ∧
      frames = site.floodLower (Transit.floodFrame dst src srcPmac) := by
  cases tier with
  | edge | aggregation =>
    cases ok
    exact .inl rfl
  | core =>
    cases message with
    | arpFlood dst src srcPmac =>
      cases ok
      exact .inr ⟨rfl, dst, src, srcPmac, rfl, rfl⟩
    | _ => cases ok

/-- A message of the fabric manager makes core switches flood, and nobody else send anything. -/
theorem Policy.onMessage_told (tier : Tier) (site : Site) (message : ControlMessage) :
    Policy.Told tier site message (onMessage tier site message) where
  lower := by
    intro frames ok out mem
    rcases onMessage_sends ok with rfl | ⟨-, dst, src, srcPmac, -, rfl⟩
    · cases mem
    · exact (site.copies_floodLower _).lower out mem
  copied := by
    rintro rfl dst src srcPmac rfl
    exact ⟨_, rfl, site.copies_floodLower _⟩
  only := by
    intro frames ok some
    rcases onMessage_sends ok with none | ⟨core, dst, src, srcPmac, flood, -⟩
    · exact absurd none some
    · exact ⟨core, dst, src, srcPmac, flood⟩

/-- **Frames go up, then down**: every answer of every policy is within its bounds, for every switch
and every state. -/
theorem Policy.valley_free (tier : Tier) (site : Site) :
    (∀ inPort frame state,
      Policy.Below tier site frame state (fromBelow tier site inPort frame state)) ∧
    (∀ frame state, Policy.Above tier site frame state (fromAbove tier site frame state)) ∧
    (∀ message, Policy.Told tier site message (onMessage tier site message)) :=
  ⟨fromBelow_below tier site, fromAbove_above tier site, onMessage_told tier site⟩

end PmacFabric
