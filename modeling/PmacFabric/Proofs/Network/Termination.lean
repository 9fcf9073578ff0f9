import PmacFabric.Proofs.Network.Weight

/-!
# Events run out

A network is **ranked** if its devices can be ordered such that all links lead up. In a ranked network
every event loop ends: the **load** of a network is the weight of all that waits, events and data, and
each event makes it smaller (`Settling.step`). A network **settles** if its queue runs empty in this
way when nothing limits the number of events. **`Reached.settles`** says that all ranked networks do
that users can bring about, whatever their switches draw.
-/

namespace PmacFabric.Network

/-- All links lead up in some order of the devices. -/
def Ranked (net : Network) : Prop :=
  ∃ rank : DeviceId → Nat, ∀ link ∈ net.links, rank link.1.device < rank link.2.device

/-- Without a limit on the number of events, processing ends without an error and leaves no event.
The bound on the number of events is the same for all numbers that switches may draw. -/
def Settles (net : Network) : Prop :=
  ∃ enough, ∀ (streams : DeviceId → Choice.Stream) (horizon : Nat), enough ≤ horizon →
    ∃ after,
      settle { net with streams, config := { net.config with stopAfter := none, horizon } } =
        (.ok (), after) ∧
      after.queue.toList = []

/-! ## The load -/

/-- The weight of all events and data that wait. -/
def load (scale : Scale) (net : Network) : Nat :=
  totalOf (scale.weight net.manager) net.queue.toList + scale.stray * net.backlog

/-- A network in which every event makes the load smaller. -/
structure Settling (scale : Scale) (net : Network) : Prop where
  sturdy : net.Sturdy
  guarded : net.Guarded
  fits : scale.Fits net

section Settling

variable {scale : Scale} {net after : Network} {result : Except NetworkError Unit}

/-- A network has a scale as long as nothing is built. -/
theorem Scale.Fits.of_ground (fits : scale.Fits net) (links : after.links = net.links)
    (ground : after.ground = net.ground) : scale.Fits after := by
  refine ⟨?_, ?_, ?_⟩
  · rw [links]
    exact fits.climbs
  · rw [ground]
    exact fits.width
  · rw [ground]
    exact fits.cores

/-- **Every event makes the load smaller.** -/
theorem Settling.step (settling : Settling scale net) (stepped : net.step = some (result, after)) :
    result = .ok () ∧ Settling scale after ∧ load scale after < load scale net := by
  obtain ⟨sturdy, guarded, fits⟩ := settling
  have move : net.Work after := .event stepped
  obtain ⟨event, queue, trace, raised, ok, taken, reacts, queued⟩ := sturdy.step stepped
  refine ⟨ok, ⟨sturdy.work move, guarded.work sturdy move,
    fits.of_ground (move.links sturdy) move.ground⟩, ?_⟩
  have asked : ∀ {id dst src srcPmac}, event = .control id (.arpFlood dst src srcPmac) →
      net.manager.isRegistered src = true := by
    intro id dst src srcPmac same
    subst same
    exact guarded.asked (taken ▸ List.mem_cons_self)
  have same : Scale.Fits scale { net with queue, trace, handled := net.handled + 1 } :=
    fits.of_ground rfl rfl
  have lighter := reacts.weight_lt same sturdy.wired asked
  change _ < scale.weight net.manager event + scale.stray * net.backlog at lighter
  have rest : totalOf (scale.weight after.manager) queue.toList ≤
      totalOf (scale.weight net.manager) queue.toList :=
    totalOf_mono fun other _ => Scale.weight_mono scale reacts.grown other
  rw [load, load, queued, taken, totalOf_append, totalOf_cons]
  omega

/-- Nothing waits without a load. -/
theorem queue_of_load_eq_zero (none : load scale net = 0) : net.queue.toList = [] := by
  cases waits : net.queue.toList with
  | nil => rfl
  | cons event rest =>
    have positive := @Scale.weight_pos scale net.manager event
    rw [load, waits, totalOf_cons] at none
    omega

/-- When no step is left, no event is. -/
theorem queue_of_step_eq_none (ended : net.step = none) : net.queue.toList = [] := by
  unfold step at ended
  split at ended
  · rename_i nothing
    exact EventQueue.pop?_eq_none_iff.mp nothing
  · dsimp only at ended
    split at ended <;> cases ended

/-- A run that ends well leaves no event. -/
theorem queue_of_run_ok {n : Nat} (done : (run n net).1 = .ok ()) :
    (run n net).2.queue.toList = [] := by
  induction n generalizing net with
  | zero =>
    unfold run at done ⊢
    split at done
    · next empty =>
      rw [if_pos empty]
      exact EventQueue.isEmpty_iff.mp empty
    · cases done
  | succ n ih =>
    unfold run at done ⊢
    split at done
    · next ended => exact queue_of_step_eq_none ended
    · cases done
    · exact ih done

/-- **A budget of the load is enough.** -/
theorem Settling.run (settling : Settling scale net) {budget : Nat}
    (enough : load scale net ≤ budget) :
    ∃ after, run budget net = (.ok (), after) ∧ after.queue.toList = [] := by
  induction budget generalizing net with
  | zero =>
    have empty := queue_of_load_eq_zero (Nat.le_zero.mp enough)
    refine ⟨net, ?_, empty⟩
    rw [Network.run, if_pos (EventQueue.isEmpty_iff.mpr empty)]
  | succ budget ih =>
    unfold Network.run
    cases stepped : net.step with
    | none => exact ⟨net, rfl, queue_of_step_eq_none stepped⟩
    | some outcome =>
      obtain ⟨result, mid⟩ := outcome
      obtain ⟨rfl, settling', lighter⟩ := settling.step stepped
      exact ih settling' (Nat.le_of_lt_succ (Nat.lt_of_lt_of_le lighter enough))

end Settling

/-! ## Ranked networks -/

section Ranked

variable {net : Network}

/-- A ranked network has a scale. -/
theorem Ranked.exists_fits (ranked : net.Ranked) : ∃ scale : Scale, scale.Fits net := by
  obtain ⟨rank, climbs⟩ := ranked
  refine ⟨⟨rank, totalOf (fun link => rank link.2.device) net.links.toList,
    totalOf Switch.numLower net.switches, net.ground.registry.size⟩, ?_, ?_, Nat.le_refl _⟩
  · intro link mem
    have listed := Array.mem_toList_iff.mpr mem
    exact ⟨climbs link mem, le_totalOf (fun link => rank link.2.device) listed⟩
  · intro id outline found
    obtain ⟨switch, here, rfl⟩ := Option.map_eq_some_iff.mp found
    have width := le_totalOf Switch.numLower (mem_switches_iff.mpr ⟨_, here⟩)
    rwa [← switch.outline_numLower] at width

/-- **Every ranked network that users can bring about settles.** -/
theorem Reached.settles (reached : net.Reached) (ranked : net.Ranked) : net.Settles := by
  obtain ⟨scale, fits⟩ := ranked.exists_fits
  obtain ⟨wired, posted⟩ := reached.sturdy
  obtain ⟨tables, located, asked, accepted⟩ := reached.guarded
  refine ⟨load scale net, fun streams horizon enough => ?_⟩
  -- Neither the numbers that are drawn nor the limit matter to what is known of the network.
  have settling : Settling scale
      { net with streams, config := { net.config with stopAfter := none, horizon } } :=
    ⟨⟨wired, posted⟩, ⟨tables, located, asked, accepted⟩, fits.of_ground rfl rfl⟩
  exact settling.run enough

end Ranked

end PmacFabric.Network
