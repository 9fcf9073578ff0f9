import Mathlib.Data.List.Perm.Subperm
import PmacFabric.Proofs.FatTree.Populated
import PmacFabric.Proofs.FatTree.Transit
import PmacFabric.Proofs.Network.Deeds

/-!
# A flood covers the fabric

A message that tells a core switch to flood has descendants: one copy at an aggregation switch of every
pod, and from there one at every edge switch. A `Branch` is a place that a flood passes, and
`Branch.beneath` lists all that it has still to pass from there. `Descent` follows the descendants of
events while anything else may happen in between, and `Descent.sweeps` says that they are all processed
at some time.

**`flood_covers_fabric`** says that, once all descendants inside the switches have been processed, every
branch has been processed once and no other, and that each of them only flooded its frame. So a query of
an edge switch for an unknown address offers the same question to every edge port, once for each core
switch.
-/

namespace PmacFabric.FatTree

open Network (Ground Deed Scale Settling load)

/-! ## Branches -/

/-- What a flood asks: who has `dst`, for `src`. -/
structure Inquiry where
  dst : Ipv4Address
  src : Ipv4Address
  srcPmac : Pmac
deriving DecidableEq, Repr

namespace Inquiry

/-- The message to a core switch. -/
def message (inquiry : Inquiry) : ControlMessage :=
  .arpFlood inquiry.dst inquiry.src inquiry.srcPmac

/-- The broadcast question that goes down. -/
def frame (inquiry : Inquiry) : Frame :=
  Transit.floodFrame inquiry.dst inquiry.src inquiry.srcPmac

/-- The question goes to everybody, under the PMAC of the asker. It is an ARP request that names the
addresses of the asker, and asks for the hardware address of `dst`, which is left zero. -/
theorem frame_says (inquiry : Inquiry) :
    inquiry.frame.src = inquiry.srcPmac.mac ∧ inquiry.frame.dst = .broadcast ∧
      inquiry.frame.arp? = some
        { operation := .request
          senderHw := inquiry.srcPmac.mac
          senderIp := inquiry.src
          targetHw := .zero
          targetIp := inquiry.dst } :=
  ⟨rfl, rfl, rfl⟩

end Inquiry

/-- A place that a flood passes, with the core switch that it comes from. -/
inductive Branch where
  | core (c : Nat)
  | aggregation (c pod : Nat)
  | edge (c pod position : Nat)
  /-- The line of a host. -/
  | line (target : Endpoint)
deriving DecidableEq, Repr

namespace Branch

/-- The event by which a flood reaches a place. Core switch `c` meets every pod at the same
aggregation switch. -/
def event (k : Nat) (inquiry : Inquiry) : Branch → Event
  | core c => .control (coreId k c) inquiry.message
  | aggregation c pod =>
    .frame ⟨aggregationId k pod (c / (k / 2)), .upper (c % (k / 2))⟩ inquiry.frame
  | edge c pod position => .frame ⟨edgeId k pod position, .upper (c / (k / 2))⟩ inquiry.frame
  | line target => .frame target inquiry.frame

/-- The places of a flood inside a pod. -/
def inside (k c pod : Nat) : List Branch :=
  aggregation c pod :: (List.range (k / 2)).map (edge c pod)

/-- The places at switches that a flood passes from a place on, this one included. -/
def beneath (k : Nat) : Branch → List Branch
  | core c => core c :: (List.range k).flatMap (inside k c)
  | aggregation c pod => inside k c pod
  | edge c pod position => [edge c pod position]
  | line _ => []

/-- Places that exist. -/
def Exists (k : Nat) (net : Network) : Branch → Prop
  | core c => c < k / 2 * (k / 2)
  | aggregation c pod => c < k / 2 * (k / 2) ∧ pod < k
  | edge c pod position => c < k / 2 * (k / 2) ∧ pod < k ∧ position < k / 2
  | line target => (net.hostAt? target.device).isSome

end Branch

/-! ## What a flood does at a place -/

section Places

variable {k : Nat} {net : Network} {inquiry : Inquiry}

/-- Core switch `c` meets every pod at the same aggregation switch. -/
theorem Fabric.core_down' {ground : Ground} (fabric : Fabric k ground) {c pod : Nat}
    (hc : c < k / 2 * (k / 2)) (hp : pod < k) :
    ground.peer? ⟨coreId k c, .lower pod⟩ =
      some ⟨aggregationId k pod (c / (k / 2)), .upper (c % (k / 2))⟩ := by
  obtain ⟨ha, hi⟩ := Fabric.coreIndex_parts hc
  have down := fabric.core_down hp ha hi
  rwa [Nat.div_add_mod'] at down

/-- The places right below a place. -/
def Branch.below (k : Nat) (net : Network) : Branch → List Branch
  | core c => (List.range k).map (aggregation c)
  | aggregation c pod => (List.range (k / 2)).map (edge c pod)
  | edge _ pod position =>
    (List.range (k / 2)).filterMap fun i =>
      (net.ground.peer? ⟨edgeId k pod position, .lower i⟩).map line
  | line _ => []

/-- What is beneath a place is the place itself, and what is beneath the places right below it. -/
theorem Branch.beneath_eq (k : Nat) (net : Network) {branch : Branch}
    (inner : ∀ target, branch ≠ .line target) :
    branch.beneath k = branch :: (branch.below k net).flatMap (beneath k) := by
  cases branch with
  | core c =>
    rw [below, List.flatMap_map]
    rfl
  | aggregation c pod =>
    rw [below, List.flatMap_map, beneath, inside, List.map_eq_flatMap]
    rfl
  | edge c pod position =>
    have nothing : ((edge c pod position).below k net).flatMap (beneath k) = [] := by
      refine List.flatMap_eq_nil_iff.mpr fun branch mem => ?_
      obtain ⟨i, _, found⟩ := List.mem_filterMap.mp mem
      obtain ⟨peer, _, rfl⟩ := Option.map_eq_some_iff.mp found
      rfl
    rw [nothing]
    rfl
  | line target => exact absurd rfl (inner target)

/-- The places below a place of the fabric exist as well. -/
theorem Branch.exists_below (laid : Laid k net) (wired : net.ground.Wired net.links)
    {branch : Branch} (present : branch.Exists k net) :
    ∀ child ∈ branch.below k net, child.Exists k net := by
  intro child mem
  cases branch with
  | core c =>
    obtain ⟨pod, hp, rfl⟩ := List.mem_map.mp mem
    exact ⟨present, List.mem_range.mp hp⟩
  | aggregation c pod =>
    obtain ⟨e, he, rfl⟩ := List.mem_map.mp mem
    exact ⟨present.1, present.2, List.mem_range.mp he⟩
  | edge c pod position =>
    obtain ⟨i, _, found⟩ := List.mem_filterMap.mp mem
    obtain ⟨peer, leads, rfl⟩ := Option.map_eq_some_iff.mp found
    exact laid.host_below wired present.2.1 present.2.2 leads
  | line target => cases mem

/-- The question is a broadcast. -/
theorem isBroadcast_inquiry (inquiry : Inquiry) : inquiry.frame.dst.isBroadcast = true :=
  decide_eq_true inquiry.frame_says.2.1

/-- What a deed that floods has raised. -/
theorem raised_of_floods {frame : Frame} {deed : Deed} (floods : deed.Floods frame)
    {switch : Switch} (here : deed.before.switchAt? deed.event.device = some switch) :
    deed.raised = Network.copies frame switch := by
  obtain ⟨other, after, there, -, -, raised⟩ := floods.switch
  cases here.symm.trans there
  exact raised

/-- **At every place a flood goes on to the places right below, and does nothing else.** -/
theorem Branch.handled {tree : FatTree} (populated : tree.Populated) (same : tree.k = k)
    {branch : Branch} (present : branch.Exists k tree.net) {rest raised : List Event}
    {after : Network} {result : Except NetworkError Unit}
    (queued : tree.net.queue.toList = branch.event k inquiry :: rest)
    (inner : (tree.net.switchAt? (branch.event k inquiry).device).isSome)
    (stepped : tree.net.step = some (result, after)) (added : after.queue.toList = rest ++ raised) :
    Deed.Floods inquiry.frame ⟨tree.net, branch.event k inquiry, result, after, raised⟩ ∧
      raised = (branch.below k tree.net).map (event k inquiry) := by
  subst same
  have fabric := populated.fabric
  have sturdy := populated.sturdy
  cases branch with
  | core c =>
    obtain ⟨switch, here, follows⟩ := fabric.core present
    have verdict : Policy.onMessage switch.tier
        (switch.site (tree.net.streams (coreId tree.k c))) inquiry.message =
          .ok ((switch.site (tree.net.streams (coreId tree.k c))).floodLower inquiry.frame) := by
      rw [follows.tier]
      rfl
    have floods := Network.floods_of_message sturdy queued here verdict stepped added
    refine ⟨floods, (raised_of_floods floods here).trans ?_⟩
    rw [← Network.copies_eq switch (tree.net.streams (coreId tree.k c)),
      filterMap_floodLower here (follows.at _).lower fun pod hp => fabric.core_down' present hp,
      below, List.map_map]
    rfl
  | aggregation c pod =>
    obtain ⟨hc, hp⟩ := present
    obtain ⟨ha, hi⟩ := Fabric.coreIndex_parts hc
    obtain ⟨switch, here, follows⟩ := fabric.aggregation hp ha
    have verdict := follows.judge_aggregation_above
      (tree.net.streams (aggregationId tree.k pod (c / (tree.k / 2)))) tree.net.manager
      inquiry.frame (c % (tree.k / 2))
    rw [Transit.fromAbove, if_pos (isBroadcast_inquiry inquiry)] at verdict
    have floods := Network.floods_of_frame sturdy queued here (follows.upperPort hi)
      (broadcast_ne_address switch) verdict stepped added
    refine ⟨floods, (raised_of_floods floods here).trans ?_⟩
    rw [← Network.copies_eq switch
        (tree.net.streams (aggregationId tree.k pod (c / (tree.k / 2)))),
      filterMap_floodLower here (follows.at _).lower fun e he => fabric.aggregation_down hp ha he,
      below, List.map_map]
    rfl
  | edge c pod position =>
    obtain ⟨hc, hp, he⟩ := present
    obtain ⟨ha, -⟩ := Fabric.coreIndex_parts hc
    obtain ⟨switch, here, follows⟩ := fabric.edge hp he
    have verdict := follows.judge_edge_above (tree.net.streams (edgeId tree.k pod position))
      tree.net.manager inquiry.frame (c / (tree.k / 2))
    rw [Edge.fromAbove, if_pos (isBroadcast_inquiry inquiry)] at verdict
    have floods := Network.floods_of_frame sturdy queued here (follows.upperPort ha)
      (broadcast_ne_address switch) verdict stepped added
    refine ⟨floods, (raised_of_floods floods here).trans ?_⟩
    have lower : switch.numLower = tree.k / 2 := follows.lower
    rw [Network.copies, lower, below, List.map_filterMap]
    refine filterMap_range_congr fun i _ => ?_
    rw [Network.peer?_of_switchAt? here, Option.map_map]
    rfl
  | line target =>
    obtain ⟨host, here⟩ := Option.isSome_iff_exists.mp present
    have absent : tree.net.switchAt? target.device = none := Network.switchAt?_of_hostAt? here
    have inner : (tree.net.switchAt? target.device).isSome := inner
    rw [absent] at inner
    cases inner

end Places

/-! ## Descendants -/

/-- How a fat-tree comes from one state to another while the descendants of some events are processed
at switches: the deeds that process them, and the descendants that are still left. -/
inductive Descent (tree : FatTree) (roots : List Event) :
    List Deed → FatTree → List Event → Prop where
  | start : Descent tree roots [] tree roots
  /-- Something happens that may concern anybody. -/
  | meanwhile {deeds : List Deed} {now later : FatTree} {left : List Event} :
      Descent tree roots deeds now left → now.Moves later → Descent tree roots deeds later left
  /-- A switch processes a descendant, and what it raises takes its place. -/
  | handles {deeds : List Deed} {now : FatTree} {event : Event} {left others rest raised : List Event}
      {result : Except NetworkError Unit} {net : Network} :
      Descent tree roots deeds now (left ++ event :: others) →
      now.net.queue.toList = event :: rest → (now.net.switchAt? event.device).isSome →
      now.net.step = some (result, net) → net.queue.toList = rest ++ raised →
      Descent tree roots (deeds ++ [⟨now.net, event, result, net, raised⟩]) { now with net }
        (left ++ others ++ raised)

/-- Whether no descendant is left inside the switches. -/
def Swept (tree : FatTree) (left : List Event) : Prop :=
  ∀ event ∈ left, tree.net.switchAt? event.device = none

/-- A place stays while the network grows. -/
theorem Branch.Exists.mono {k : Nat} {net later : Network} (within : net.HostsWithin later)
    {branch : Branch} (present : branch.Exists k net) : branch.Exists k later := by
  cases branch with
  | line target =>
    obtain ⟨host, here⟩ := Option.isSome_iff_exists.mp present
    obtain ⟨host', here', -⟩ := within target.device host here
    exact Option.isSome_iff_exists.mpr ⟨host', here'⟩
  | _ => exact present

/-- What a descent has processed and what it has left, as places of a flood. -/
structure Spreading (k : Nat) (inquiry : Inquiry) (roots : List Branch) (deeds : List Deed)
    (later : FatTree) (left : List Event) (passed ahead : List Branch) : Prop where
  populated : later.Populated
  same : later.k = k
  done : deeds.map Deed.event = passed.map (Branch.event k inquiry)
  open_ : left = ahead.map (Branch.event k inquiry)
  present : ∀ branch ∈ ahead, branch.Exists k later.net
  /-- Places that have been passed, and those still to pass, are always those of the whole flood. -/
  places : (passed ++ ahead.flatMap (Branch.beneath k)).Perm (roots.flatMap (Branch.beneath k))
  floods : ∀ deed ∈ deeds, deed.Floods inquiry.frame

/-- Passing one place moves it to the places passed, and the places right below it into its place. -/
theorem perm_pass (k : Nat) {branch : Branch} {passed before others below : List Branch}
    (split : branch.beneath k = branch :: below.flatMap (Branch.beneath k)) :
    (passed ++ [branch] ++ (before ++ others ++ below).flatMap (Branch.beneath k)).Perm
      (passed ++ (before ++ branch :: others).flatMap (Branch.beneath k)) := by
  rw [List.flatMap_append, List.flatMap_append, List.flatMap_append, List.flatMap_cons, split,
    List.append_assoc]
  refine List.Perm.append_left passed ?_
  generalize before.flatMap (Branch.beneath k) = above
  generalize others.flatMap (Branch.beneath k) = beside
  generalize below.flatMap (Branch.beneath k) = new
  have moved : ([branch] ++ (above ++ beside ++ new)).Perm (branch :: (above ++ (new ++ beside))) := by
    rw [List.append_assoc]
    exact (List.perm_append_comm.append_left above).cons branch
  exact moved.trans List.perm_middle.symm

/-- **A descent from core switches passes the places of their floods.** -/
theorem Descent.spreading {tree later : FatTree} {inquiry : Inquiry} {roots : List Branch}
    {events left : List Event} {deeds : List Deed} (populated : tree.Populated)
    (present : ∀ branch ∈ roots, branch.Exists tree.k tree.net)
    (begun : events = roots.map (Branch.event tree.k inquiry))
    (descent : Descent tree events deeds later left) :
    ∃ passed ahead, Spreading tree.k inquiry roots deeds later left passed ahead := by
  induction descent with
  | start =>
    exact ⟨[], roots,
      { populated := populated
        same := rfl
        done := rfl
        open_ := begun
        present := present
        places := .refl _
        floods := fun deed mem => by cases mem }⟩
  | meanwhile _ move ih =>
    obtain ⟨passed, ahead, spreading⟩ := ih
    exact ⟨passed, ahead,
      { spreading with
        populated := spreading.populated.move move
        same := (move.fabric spreading.populated.fabric).1.trans spreading.same
        present := fun branch mem => (spreading.present branch mem).mono move.hostsWithin }⟩
  | @handles deeds now event left others rest raised result net _ queued inner stepped added ih =>
    obtain ⟨passed, ahead, spreading⟩ := ih
    obtain ⟨before, tail, rfl, rfl, htail⟩ := List.map_eq_append_iff.mp spreading.open_.symm
    obtain ⟨branch, after, rfl, rfl, rfl⟩ := List.map_eq_cons_iff.mp htail
    have here := spreading.present branch (List.mem_append_right _ List.mem_cons_self)
    have move : now.Moves { now with net } := .work (.event stepped)
    obtain ⟨floods, below⟩ :=
      Branch.handled spreading.populated spreading.same here queued inner stepped added
    have outer : ∀ target, branch ≠ .line target := by
      rintro target rfl
      obtain ⟨host, there⟩ := Option.isSome_iff_exists.mp here
      have inner : (now.net.switchAt? target.device).isSome := inner
      rw [Network.switchAt?_of_hostAt? there] at inner
      cases inner
    refine ⟨passed ++ [branch], before ++ after ++ branch.below tree.k now.net, ?_⟩
    exact
      { populated := spreading.populated.move move
        same := spreading.same
        done := by rw [List.map_append, List.map_append, spreading.done]; rfl
        open_ := by rw [List.map_append, List.map_append, below]
        present := fun child mem => by
          refine Branch.Exists.mono move.hostsWithin ?_
          rcases List.mem_append.mp mem with old | new
          · refine spreading.present child ?_
            rcases List.mem_append.mp old with first | last
            · exact List.mem_append_left _ first
            · exact List.mem_append_right _ (List.mem_cons_of_mem _ last)
          · obtain ⟨reached, laid⟩ := spreading.populated.grown.laid
            exact Branch.exists_below (spreading.same ▸ laid) reached.sturdy.wired here child new
        places := (perm_pass tree.k (Branch.beneath_eq tree.k now.net outer)).trans spreading.places
        floods := fun deed mem => by
          rcases List.mem_append.mp mem with old | new
          · exact spreading.floods deed old
          · cases List.mem_singleton.mp new
            exact floods }

/-! ## All is processed at some time -/

section Sweeping

variable {tree now : FatTree}

/-- Whether an event waits for a switch. -/
def atSwitch (tree : FatTree) (event : Event) : Bool := (tree.net.switchAt? event.device).isSome

/-- Work leaves switches where they are. -/
theorem atSwitch_work {net : Network} (move : now.net.Work net) :
    ({ now with net } : FatTree).atSwitch = now.atSwitch := by
  funext event
  have outlines := congrArg Option.isSome (move.outlines event.device)
  rwa [Option.isSome_map, Option.isSome_map] at outlines

/-- Events make the load of a fat-tree smaller. -/
theorem Populated.settling (populated : tree.Populated) : ∃ scale, Settling scale tree.net := by
  obtain ⟨reached, laid⟩ := populated.grown.laid
  obtain ⟨scale, fits⟩ := (laid.ranked reached.sturdy.wired).exists_fits
  exact ⟨scale, reached.sturdy, reached.guarded, fits⟩

/-- **Descendants that wait at switches are all processed at some time.** -/
theorem Descent.sweeps {roots left : List Event} {deeds : List Deed} {scale : Scale}
    (descent : Descent tree roots deeds now left) (settling : Settling scale now.net)
    (waits : (left.filter now.atSwitch).Subperm now.net.queue.toList) :
    ∃ deeds later left, Descent tree roots deeds later left ∧ later.Swept left := by
  generalize size : load scale now.net = n
  induction n using Nat.strongRecOn generalizing now left deeds with
  | ind n ih =>
    subst size
    cases stepped : now.net.step with
    | none =>
      rw [Network.queue_of_step_eq_none stepped, List.subperm_nil] at waits
      refine ⟨deeds, now, left, descent, fun event mem => ?_⟩
      exact Option.not_isSome_iff_eq_none.mp (List.filter_eq_nil_iff.mp waits event mem)
    | some outcome =>
      obtain ⟨result, net⟩ := outcome
      obtain ⟨-, settling', lighter⟩ := settling.step stepped
      obtain ⟨event, queue, -, raised, -, taken, -, added⟩ := settling.sturdy.step stepped
      have move : now.net.Work net := .event stepped
      rw [taken] at waits
      by_cases own : event ∈ left.filter now.atSwitch
      · -- A descendant is processed: the events that it raises are added on both sides.
        obtain ⟨listed, here⟩ := List.mem_filter.mp own
        obtain ⟨before, others, rfl⟩ := List.append_of_mem listed
        refine ih _ lighter (descent.handles taken here stepped added) settling' ?_ rfl
        have taken_out : (event :: (before ++ others).filter now.atSwitch).Perm
            ((before ++ event :: others).filter now.atSwitch) := by
          rw [List.filter_append, List.filter_append, List.filter_cons_of_pos here]
          exact List.perm_middle.symm
        have rest := (List.subperm_cons event).mp (taken_out.subperm.trans waits)
        show List.Subperm _ net.queue.toList
        rw [atSwitch_work move, List.filter_append, added]
        exact rest.append List.filter_sublist.subperm
      · refine ih _ lighter (descent.meanwhile (.work move)) settling' ?_ rfl
        have rest := waits.erase event
        rw [List.erase_of_not_mem own, List.erase_cons_head] at rest
        show List.Subperm _ net.queue.toList
        rw [atSwitch_work move, added]
        exact rest.trans (List.sublist_append_left _ _).subperm

end Sweeping

/-! ## Coverage -/

section Coverage

variable {k c pod position : Nat} {inquiry : Inquiry}

/-- Inside a pod a flood passes one aggregation switch and all edge switches. -/
theorem Branch.mem_inside {branch : Branch} :
    branch ∈ inside k c pod ↔
      branch = aggregation c pod ∨ ∃ e, e < k / 2 ∧ branch = edge c pod e := by
  rw [inside, List.mem_cons, List.mem_map]
  refine or_congr Iff.rfl ⟨?_, ?_⟩
  · rintro ⟨e, he, rfl⟩
    exact ⟨e, List.mem_range.mp he, rfl⟩
  · rintro ⟨e, he, rfl⟩
    exact ⟨e, List.mem_range.mpr he, rfl⟩

/-- From a core switch on a flood passes the inside of every pod. -/
theorem Branch.mem_beneath_core {branch : Branch} :
    branch ∈ (core c).beneath k ↔
      branch = core c ∨ ∃ pod, pod < k ∧ branch ∈ inside k c pod := by
  rw [beneath, List.mem_cons, List.mem_flatMap]
  refine or_congr Iff.rfl ⟨?_, ?_⟩
  · rintro ⟨pod, hp, mem⟩
    exact ⟨pod, List.mem_range.mp hp, mem⟩
  · rintro ⟨pod, hp, mem⟩
    exact ⟨pod, List.mem_range.mpr hp, mem⟩

/-- A flood passes no place twice. -/
theorem Branch.nodup_beneath (k c : Nat) : ((core c).beneath k).Nodup := by
  refine List.nodup_cons.mpr ⟨fun mem => ?_, List.pairwise_flatMap.mpr ⟨fun pod _ => ?_, ?_⟩⟩
  · obtain ⟨pod, _, inner⟩ := List.mem_flatMap.mp mem
    rcases mem_inside.mp inner with same | ⟨e, _, same⟩ <;> cases same
  · refine List.nodup_cons.mpr ⟨fun mem => ?_, List.pairwise_map.mpr ?_⟩
    · obtain ⟨e, _, same⟩ := List.mem_map.mp mem
      cases same
    · exact List.pairwise_lt_range.imp fun before same =>
        Nat.ne_of_lt before (Branch.edge.inj same).2.2
  · refine List.pairwise_lt_range.imp fun {p q} before x first y second same => ?_
    subst same
    rcases mem_inside.mp first with rfl | ⟨e, _, rfl⟩ <;>
      rcases mem_inside.mp second with same | ⟨f, _, same⟩ <;> cases same <;>
      exact Nat.lt_irrefl _ before

/-- An edge switch is passed at one place. -/
theorem Branch.device_eq_edge {branch : Branch} (hc : c < k / 2 * (k / 2)) (hp : pod < k)
    (he : position < k / 2) (mem : branch ∈ (core c).beneath k) :
    (branch.event k inquiry).device = edgeId k pod position ↔ branch = edge c pod position := by
  obtain ⟨ha, -⟩ := Fabric.coreIndex_parts hc
  constructor
  · intro same
    rcases mem_beneath_core.mp mem with rfl | ⟨pod', hp', inner⟩
    · exact absurd same.symm (edgeId_ne_coreId hp he)
    · rcases mem_inside.mp inner with rfl | ⟨e, he', rfl⟩
      · exact absurd same.symm (edgeId_ne_aggregationId he ha)
      · obtain ⟨rfl, rfl⟩ := edgeId_inj he' he same
        rfl
  · rintro rfl
    rfl

/-- **Each edge switch is passed once by the flood of a core switch.** -/
theorem Branch.filter_beneath (hc : c < k / 2 * (k / 2)) (hp : pod < k) (he : position < k / 2) :
    (((core c).beneath k).map (event k inquiry)).filter
      (fun event => event.device = edgeId k pod position) = [(edge c pod position).event k inquiry] := by
  have found : edge c pod position ∈ (core c).beneath k :=
    mem_beneath_core.mpr (.inr ⟨pod, hp, mem_inside.mpr (.inr ⟨position, he, rfl⟩)⟩)
  have only : ((core c).beneath k).filter
      ((fun event : Event => decide (event.device = edgeId k pod position)) ∘ event k inquiry) =
      ((core c).beneath k).filter (· == edge c pod position) := by
    refine List.filter_congr fun branch mem => Bool.eq_iff_iff.mpr ?_
    rw [beq_iff_eq]
    exact decide_eq_true_iff.trans (device_eq_edge hc hp he mem)
  rw [List.filter_map, only, List.filter_beq, (nodup_beneath k c).count, if_pos found]
  rfl

end Coverage

/-- **What the floods of core switches come to**, each core switch by itself. -/
structure Covers (k : Nat) (inquiry : Inquiry) (cores : List Nat) (deeds : List Deed) : Prop where
  /-- Every place is passed once for each core switch, and no others are. -/
  places : (deeds.map Deed.event).Perm
    (cores.flatMap fun c => ((Branch.core c).beneath k).map (Branch.event k inquiry))
  /-- At every edge switch one copy arrives for each core switch, from the aggregation switches that
  the core switch is linked to. -/
  edges : ∀ pod position, pod < k → position < k / 2 →
    ((deeds.filter fun deed => deed.event.device = edgeId k pod position).map Deed.event).Perm
      (cores.map fun c => .frame ⟨edgeId k pod position, .upper (c / (k / 2))⟩ inquiry.frame)
  /-- Whoever gets a copy floods it, and nothing else happens. -/
  floods : ∀ deed ∈ deeds, deed.Floods inquiry.frame

section Final

variable {tree later : FatTree} {inquiry : Inquiry} {cores : List Nat} {deeds : List Deed}
  {left : List Event}

/-- The messages that have core switches flood. -/
def orders (k : Nat) (inquiry : Inquiry) (cores : List Nat) : List Event :=
  cores.map fun c => .control (coreId k c) inquiry.message

/-- Places in a fabric that is swept are lines of hosts. -/
theorem Fabric.swept {k : Nat} {net : Network} (fabric : Fabric k net.ground) {branch : Branch}
    (present : branch.Exists k net)
    (outer : net.switchAt? (branch.event k inquiry).device = none) : branch.beneath k = [] := by
  cases branch with
  | core c =>
    obtain ⟨switch, here, -⟩ := fabric.core present
    cases outer.symm.trans here
  | aggregation c pod =>
    obtain ⟨switch, here, -⟩ := fabric.aggregation present.2 (Fabric.coreIndex_parts present.1).1
    cases outer.symm.trans here
  | edge c pod position =>
    obtain ⟨switch, here, -⟩ := fabric.edge present.2.1 present.2.2
    cases outer.symm.trans here
  | line target => rfl

/-- **Floods cover the fabric**, once all their descendants inside the switches are processed. -/
theorem Descent.covers (populated : tree.Populated)
    (exist : ∀ c ∈ cores, c < tree.k / 2 * (tree.k / 2))
    (descent : Descent tree (orders tree.k inquiry cores) deeds later left)
    (swept : later.Swept left) : Covers tree.k inquiry cores deeds := by
  have present : ∀ branch ∈ cores.map Branch.core, branch.Exists tree.k tree.net := by
    intro branch mem
    obtain ⟨c, listed, rfl⟩ := List.mem_map.mp mem
    exact exist c listed
  have begun : orders tree.k inquiry cores =
      (cores.map Branch.core).map (Branch.event tree.k inquiry) := by
    rw [orders, List.map_map]
    rfl
  obtain ⟨passed, ahead, spreading⟩ := descent.spreading populated present begun
  have fabric := spreading.populated.fabric
  rw [spreading.same] at fabric
  have nothing : ahead.flatMap (Branch.beneath tree.k) = [] := by
    refine List.flatMap_eq_nil_iff.mpr fun branch mem => ?_
    have mem' : branch.event tree.k inquiry ∈ left := by
      rw [spreading.open_]
      exact List.mem_map_of_mem mem
    exact fabric.swept (spreading.present branch mem) (swept _ mem')
  have places : passed.Perm (cores.flatMap fun c => (Branch.core c).beneath tree.k) := by
    have places := spreading.places
    rwa [nothing, List.append_nil, List.flatMap_map] at places
  have events : (deeds.map Deed.event).Perm (cores.flatMap fun c =>
      ((Branch.core c).beneath tree.k).map (Branch.event tree.k inquiry)) := by
    rw [spreading.done, ← List.map_flatMap]
    exact places.map _
  refine ⟨events, fun pod position hp he => ?_, spreading.floods⟩
  have arrived := events.filter fun event => event.device = edgeId tree.k pod position
  have single : (cores.flatMap fun c =>
      ((Branch.core c).beneath tree.k).map (Branch.event tree.k inquiry)).filter
        (fun event => event.device = edgeId tree.k pod position) =
      cores.map fun c => (Branch.edge c pod position).event tree.k inquiry := by
    rw [List.filter_flatMap, List.map_eq_flatMap, List.flatMap_def, List.flatMap_def]
    exact congrArg List.flatten (List.map_congr_left fun c listed =>
      Branch.filter_beneath (exist c listed) hp he)
  rw [List.filter_map, single] at arrived
  exact arrived

/-- **Orders to flood are fulfilled**: at some time all that follows from them inside the switches has
been processed, and whenever it has been, the fabric is covered. -/
structure Fulfilled (tree : FatTree) (inquiry : Inquiry) (cores : List Nat) : Prop where
  sweeps : ∃ deeds later left,
    Descent tree (orders tree.k inquiry cores) deeds later left ∧ later.Swept left
  covers : ∀ {deeds later left}, Descent tree (orders tree.k inquiry cores) deeds later left →
    later.Swept left → Covers tree.k inquiry cores deeds

/-- Orders that wait are fulfilled, in every fat-tree that hosts and any traffic lead to. -/
theorem Populated.fulfilled (populated : tree.Populated)
    (exist : ∀ c ∈ cores, c < tree.k / 2 * (tree.k / 2))
    (waits : (orders tree.k inquiry cores).Subperm tree.net.queue.toList) :
    Fulfilled tree inquiry cores := by
  obtain ⟨scale, settling⟩ := populated.settling
  have begun : ((orders tree.k inquiry cores).filter tree.atSwitch).Subperm tree.net.queue.toList :=
    List.filter_sublist.subperm.trans waits
  exact ⟨Descent.start.sweeps settling begun, fun descent swept => descent.covers populated exist swept⟩

/-- What a miss of the directory comes to: an edge switch has a frame from below for an address that
nobody has registered, all core switches are told to ask for it on behalf of the sender, and each edge
switch floods the same question once for each core switch. -/
def AsksAll (tree : FatTree) (net : Network) : Prop :=
  ∃ pod position i frame rest inquiry switch,
    pod < tree.k ∧ position < tree.k / 2 ∧
    tree.net.queue.toList = .frame ⟨edgeId tree.k pod position, .lower i⟩ frame :: rest ∧
    frame.headers.ips = some (inquiry.src, inquiry.dst) ∧
    net.switchAt? (edgeId tree.k pod position) = some switch ∧
    switch.table.pmacOfIp? inquiry.src = some inquiry.srcPmac ∧
    net.manager.counters.misses = tree.net.manager.counters.misses + 1 ∧
    net.queue.toList =
      rest ++ orders tree.k inquiry (List.range (tree.k / 2 * (tree.k / 2))) ∧
    Fulfilled { tree with net } inquiry (List.range (tree.k / 2 * (tree.k / 2))) ∧
    ∀ {deeds}, Covers tree.k inquiry (List.range (tree.k / 2 * (tree.k / 2))) deeds →
      ∀ pod position, pod < tree.k → position < tree.k / 2 →
        (deeds.filter fun deed => deed.event.device = edgeId tree.k pod position).length =
          tree.k / 2 * (tree.k / 2)

/-- Only edge switches miss, and their misses ask everybody. -/
theorem Populated.asksAll (populated : tree.Populated) {net : Network}
    {result : Except NetworkError Unit} (stepped : tree.net.step = some (result, net))
    (missed : net.manager.counters.misses ≠ tree.net.manager.counters.misses) :
    AsksAll tree net := by
  have fabric := populated.fabric
  obtain ⟨id, i, frame, rest, switch, after, src, dst, srcPmac, queued, here, edge, ips, there, known,
    one, told⟩ := populated.sturdy.missed stepped missed
  obtain ⟨pod, e, hp, he, rfl⟩ := fabric.edge_of_tier here edge
  have registry : tree.net.manager.switches = tree.net.ground.registry := rfl
  rw [fabric.floodRecipients registry hp he, List.map_map] at told
  have waits : (orders tree.k ⟨dst, src, srcPmac⟩
      (List.range (tree.k / 2 * (tree.k / 2)))).Subperm net.queue.toList := by
    rw [told]
    exact (List.sublist_append_right rest _).subperm
  refine ⟨pod, e, i, frame, rest, ⟨dst, src, srcPmac⟩, after, hp, he, queued, ips, there, known, one,
    told, ?_, fun {deeds} covers pod position hp he => ?_⟩
  · exact (populated.move (.work (.event stepped))).fulfilled
      (fun c listed => List.mem_range.mp listed) waits
  · have arrived := (covers.edges pod position hp he).length_eq
    rwa [List.length_map, List.length_map, List.length_range] at arrived

/-- **A flood covers the fabric exactly once for each core switch**, in every fat-tree that hosts and
any traffic lead to. When one core switch is told to flood, all that follows from it inside the
switches is processed at some time, and then every edge switch has offered one copy to each of its
lower ports and nothing else has come of it; and every miss of the directory has all core switches
flood. -/
theorem flood_covers_fabric (populated : tree.Populated) :
    (∀ {c}, c < tree.k / 2 * (tree.k / 2) →
      .control (coreId tree.k c) inquiry.message ∈ tree.net.queue.toList →
      Fulfilled tree inquiry [c]) ∧
    ∀ {result net}, tree.net.step = some (result, net) →
      net.manager.counters.misses ≠ tree.net.manager.counters.misses → AsksAll tree net := by
  refine ⟨fun {c} hc told => ?_, populated.asksAll⟩
  have exist : ∀ other ∈ [c], other < tree.k / 2 * (tree.k / 2) := by
    intro other listed
    rw [List.mem_singleton.mp listed]
    exact hc
  exact populated.fulfilled exist (List.singleton_subperm_iff.mpr told)

end Final

/-! ## A small flood -/

/-- The smallest fat-tree with one host, where somebody else asks for an unknown address. -/
def probed : FatTree :=
  let tree := (smallest.addHost ⟨1, 0, 0⟩ ⟨2, 0, 0, 0, 0, 2⟩ ⟨10, 0, 0, 2⟩).2
  { tree with net := tree.net.enqueue [.frame ⟨0, .lower 0⟩ probe] }

/-- The probe is a frame like any other. -/
theorem populated_probed : probed.Populated := by
  have added : Populated (smallest.addHost ⟨1, 0, 0⟩ ⟨2, 0, 0, 0, 0, 2⟩ ⟨10, 0, 0, 2⟩).2 :=
    (Populated.new new_smallest).move (.addHost _ _ _)
  have there : ((smallest.addHost ⟨1, 0, 0⟩ ⟨2, 0, 0, 0, 0, 2⟩ ⟨10, 0, 0, 2⟩).2.net.switchAt?
      0).isSome := by decide +kernel
  obtain ⟨switch, here⟩ := Option.isSome_iff_exists.mp there
  exact added.move (.work (.inject _ _ here))

/-- What the only core switch is to ask. -/
def wanted : Inquiry :=
  ⟨⟨10, 9, 9, 8⟩, ⟨10, 9, 9, 9⟩, .encode 0 0 0⟩

/-- An unknown address is asked for at both edge switches, and the order is fulfilled. -/
theorem probe_covers : AsksAll probed probed.advanced.net ∧
    Fulfilled probed.advanced wanted [0] := by
  obtain ⟨result, stepped, same⟩ := @step_advanced probed (by decide +kernel)
  have missed : probed.advanced.net.manager.counters.misses ≠
      probed.net.manager.counters.misses := by decide +kernel
  have populated : probed.advanced.Populated := by
    rw [same]
    exact populated_probed.move (.work (.event stepped))
  have one : 0 < probed.advanced.k / 2 * (probed.advanced.k / 2) := by decide +kernel
  have told : .control (coreId probed.advanced.k 0) wanted.message ∈
      probed.advanced.net.queue.toList := by decide +kernel
  exact ⟨(@flood_covers_fabric probed wanted populated_probed).2 stepped missed,
    (@flood_covers_fabric _ wanted populated).1 one told⟩

end PmacFabric.FatTree
