import PmacFabric.Proofs.FatTree.Plan
import PmacFabric.Proofs.Network.Building

/-!
# The fabric that the plan builds

`Fabric k ground` says that the switches of a network are those of the plan for `k`, wired as the
plan says; hosts may be attached to them. `new_ok` says that `FatTree.new` succeeds for every
accepted parameter and makes such a fabric, with nothing in it that traffic could have left.
-/

namespace PmacFabric

/-- The number of a switch, and the plan that it follows. -/
def Switch.Outline.built (outline : Switch.Outline) : DeviceId × FatTree.SwitchPlan :=
  (outline.id, ⟨outline.name, outline.identity, outline.lower.length, outline.upper.length⟩)

namespace Network

/-- A link changes nothing about what has been built. -/
theorem Ground.built_connect (ground : Ground) (target peer : Endpoint) (id : DeviceId) :
    ((ground.connect target peer).outline id).map Switch.Outline.built =
      (ground.outline id).map Switch.Outline.built := by
  unfold connect
  dsimp only
  split
  · cases ground.outline id with
    | none => rfl
    | some outline =>
      obtain ⟨name, number, identity, lower, upper⟩ := outline.connect_keeps target.port peer
      simp only [Option.map_some, Switch.Outline.built, name, number, identity, lower, upper]
  · rfl

/-- Links change nothing about what has been built. -/
theorem Ground.built_linkAll (ground : Ground) (links : List (Endpoint × Endpoint)) (id : DeviceId) :
    ((ground.linkAll links).outline id).map Switch.Outline.built =
      (ground.outline id).map Switch.Outline.built := by
  induction links generalizing ground with
  | nil => rfl
  | cons link rest ih =>
    show (((ground.link link).linkAll rest).outline id).map Switch.Outline.built = _
    rw [ih, Ground.link, built_connect, built_connect]

/-- Links do not change the registry. -/
theorem Ground.registry_linkAll (ground : Ground) (links : List (Endpoint × Endpoint)) :
    (ground.linkAll links).registry = ground.registry := by
  induction links generalizing ground with
  | nil => rfl
  | cons link rest ih => exact (ih (ground.link link)).trans rfl

end Network

namespace FatTree

open Network (Ground)

/-! ## Adding the switches of a plan -/

/-- The switch that a plan leads to, all ports free. -/
def SwitchPlan.switch (plan : SwitchPlan) (id : DeviceId) : Switch :=
  .new plan.name id plan.identity plan.numLower plan.numUpper

/-- A new switch is what its plan says. -/
theorem SwitchPlan.built_switch (plan : SwitchPlan) (id : DeviceId) :
    (plan.switch id).outline.built = (id, plan) := by
  simp only [switch, Switch.new, Switch.outline, Switch.Outline.built, List.length_map,
    Array.length_toList, Array.size_replicate]

/-- A network of the switches of some plans, in order, without links. -/
structure Planned (plans : List SwitchPlan) (net : Network) : Prop where
  size : net.devices.size = plans.length
  devices : ∀ id : Nat, net.devices[id]? = plans[id]?.map fun plan => .switch (plan.switch id)
  registry : ∀ id : Nat, net.manager.switches[id]? = plans[id]?.map SwitchPlan.identity

/-- The empty network follows the empty plan. -/
theorem planned_empty (config : FabricConfig) (streams : DeviceId → Choice.Stream) :
    Planned [] (Network.empty config streams) :=
  ⟨rfl, fun _ => rfl, fun _ => Std.TreeMap.getElem?_emptyc⟩

/-- One more switch follows one more plan. -/
theorem Planned.add {plans : List SwitchPlan} {net : Network} (h : Planned plans net)
    (plan : SwitchPlan) : Planned (plans ++ [plan]) (net.addPlanned plan) := by
  have devices : (net.addPlanned plan).devices =
      net.devices.push (.switch (plan.switch net.devices.size)) := rfl
  refine ⟨?_, ?_, ?_⟩
  · rw [devices, Array.size_push, h.size, List.length_append, List.length_singleton]
  · intro id
    rw [devices, Array.getElem?_push, h.size, List.getElem?_append, h.devices]
    by_cases last : id = plans.length
    · subst last
      simp only [if_true, Nat.lt_irrefl, if_false, Nat.sub_self, List.getElem?_cons_zero,
        Option.map_some]
    · rw [if_neg last]
      split
      · rfl
      · have beyond : [plan].length ≤ id - plans.length := by
          rw [List.length_singleton]
          omega
        rw [List.getElem?_eq_none (by omega), List.getElem?_eq_none beyond]
  · intro id
    have fresh : plans.length ∉ net.manager.switches := by
      rw [← Std.TreeMap.isSome_getElem?_iff_mem, h.registry, List.getElem?_eq_none (Nat.le_refl _)]
      exact Bool.false_ne_true
    show (net.manager.switches.insertIfNew net.devices.size plan.identity)[id]? = _
    rw [h.size, Std.TreeMap.getElem?_insertIfNew, h.registry, List.getElem?_append]
    by_cases last : id = plans.length
    · subst last
      rw [if_pos ⟨Std.compare_eq_iff_eq.mpr rfl, fresh⟩, if_neg (Nat.lt_irrefl _), Nat.sub_self]
      rfl
    · have other : ¬ (compare plans.length id = .eq ∧ plans.length ∉ net.manager.switches) :=
        fun both => last (Std.compare_eq_iff_eq.mp both.1).symm
      rw [if_neg other]
      split
      · rfl
      · have beyond : [plan].length ≤ id - plans.length := by
          rw [List.length_singleton]
          omega
        rw [List.getElem?_eq_none (by omega), List.getElem?_eq_none beyond]

/-- Switches that are added one after another follow their plans in order. -/
theorem Planned.addAll {done plans : List SwitchPlan} {net : Network} (h : Planned done net) :
    Planned (done ++ plans) (plans.foldl Network.addPlanned net) := by
  induction plans generalizing done net with
  | nil => rwa [List.append_nil]
  | cons plan rest ih =>
    rw [List.foldl_cons, List.append_cons]
    exact ih (h.add plan)

/-- Adding switches starts no traffic. -/
theorem sameTraffic_addPlanned (plans : List SwitchPlan) (net : Network) :
    net.SameTraffic (plans.foldl Network.addPlanned net) := by
  induction plans generalizing net with
  | nil => exact ⟨rfl, rfl, rfl, rfl, rfl, rfl⟩
  | cons plan rest ih =>
    exact Network.SameTraffic.trans (b := net.addPlanned plan) ⟨rfl, rfl, rfl, rfl, rfl, rfl⟩
      (ih (net.addPlanned plan))

/-- The switches of a fat-tree follow its plan before anything is linked. -/
theorem planned_planned (k : Nat) (config : FabricConfig) (streams : DeviceId → Choice.Stream) :
    Planned (switchPlans k) (planned k config streams) :=
  (planned_empty config streams).addAll

namespace Planned

variable {plans : List SwitchPlan} {net : Network}

/-- Each number belongs to the switch that was planned for it. -/
theorem switchAt? (h : Planned plans net) (id : DeviceId) :
    net.switchAt? id = plans[id]?.map fun plan => plan.switch id := by
  rw [Network.switchAt?, h.devices]
  cases plans[id]? <;> rfl

/-- There are no hosts yet. -/
theorem hostAt? (h : Planned plans net) (id : DeviceId) : net.hostAt? id = none := by
  rw [Network.hostAt?, h.devices]
  cases plans[id]? <;> rfl

/-- No switch has counted or learned anything yet. -/
theorem pristine (h : Planned plans net) : net.Pristine := by
  refine ⟨h.hostAt?, ?_⟩
  intro id memory found
  rw [Network.memoryAt?, h.switchAt?, Option.map_map] at found
  obtain ⟨plan, _, rfl⟩ := Option.map_eq_some_iff.mp found
  rfl

/-- Each number belongs to what was planned for it. -/
theorem built (h : Planned plans net) (id : DeviceId) :
    (net.ground.outline id).map Switch.Outline.built = plans[id]?.map fun plan => (id, plan) := by
  show ((net.switchAt? id).map Switch.outline).map Switch.Outline.built = _
  rw [h.switchAt?]
  cases plans[id]? with
  | none => rfl
  | some plan => exact congrArg some (plan.built_switch id)

/-- Each switch has the ports of its plan. -/
theorem hasPort (h : Planned plans net) {target : Endpoint} {plan : SwitchPlan}
    (found : plans[target.device]? = some plan)
    (within : match target.port with
      | .lower i => i < plan.numLower
      | .upper i => i < plan.numUpper) : net.ground.HasPort target := by
  refine ⟨(plan.switch target.device).outline, ?_, ?_⟩
  · exact Network.ground_outline (by rw [h.switchAt?, found]; rfl)
  · have shape := congrArg Prod.snd (plan.built_switch target.device)
    cases hport : target.port with
    | lower i => rw [hport] at within; exact Nat.lt_of_lt_of_eq within (congrArg SwitchPlan.numLower shape).symm
    | upper i => rw [hport] at within; exact Nat.lt_of_lt_of_eq within (congrArg SwitchPlan.numUpper shape).symm

/-- No port has a link yet. -/
theorem peer? (h : Planned plans net) (target : Endpoint) : net.ground.peer? target = none := by
  rw [Ground.peer?]
  cases found : net.switchAt? target.device with
  | none => simp only [Network.ground, found, Option.map_none, Option.bind_none]
  | some switch =>
    rw [Network.ground_outline found, Option.bind_some, Switch.outline_peer?]
    rw [h.switchAt?] at found
    obtain ⟨plan, _, rfl⟩ := Option.map_eq_some_iff.mp found
    exact Switch.peer?_new ..

end Planned

/-- The planned links join free ports of the planned switches. -/
theorem Planned.linkable {k : Nat} {net : Network} (even : k % 2 = 0)
    (h : Planned (switchPlans k) net) : net.ground.Linkable (edgeLinks k ++ coreLinks k) := by
  refine ⟨fun _ => links_shape, links_apart k, fun link mem => ⟨?_, h.peer? _⟩,
    fun link mem => ⟨?_, h.peer? _⟩⟩
  · rcases List.mem_append.mp mem with mem | mem
    · obtain ⟨pod, e, j, hp, he, hj, rfl⟩ := mem_edgeLinks.mp mem
      exact h.hasPort (switchPlans_edge even hp he) hj
    · obtain ⟨pod, a, i, hp, ha, hi, rfl⟩ := mem_coreLinks.mp mem
      exact h.hasPort (switchPlans_aggregation even hp ha) hi
  · rcases List.mem_append.mp mem with mem | mem
    · obtain ⟨pod, e, j, hp, he, hj, rfl⟩ := mem_edgeLinks.mp mem
      exact h.hasPort (switchPlans_aggregation even hp hj) he
    · obtain ⟨pod, a, i, hp, ha, hi, rfl⟩ := mem_coreLinks.mp mem
      exact h.hasPort (switchPlans_core even (coreIndex_lt ha hi)) hp

/-! ## The fabric -/

/-- Switches and links as the plan for `k` has them. -/
structure Fabric (k : Nat) (ground : Ground) : Prop where
  accepted : accepts k = true
  built : ∀ id, (ground.outline id).map Switch.Outline.built =
    (switchPlans k)[id]?.map fun plan => (id, plan)
  links : ∀ link ∈ edgeLinks k ++ coreLinks k,
    ground.peer? link.1 = some link.2 ∧ ground.peer? link.2 = some link.1
  registry : ∀ id : Nat, ground.registry[id]? = (switchPlans k)[id]?.map SwitchPlan.identity

/-- The parameter of a fat-tree is even. -/
theorem even_of_accepts {k : Nat} (h : accepts k = true) : k % 2 = 0 := by
  simp only [accepts, Bool.and_eq_true, beq_iff_eq] at h
  exact h.1.2

/-- The parameter of a fat-tree is at least 2. -/
theorem two_le_of_accepts {k : Nat} (h : accepts k = true) : 2 ≤ k := by
  simp only [accepts, Bool.and_eq_true, decide_eq_true_eq] at h
  exact h.1.1

/-- The parameter of a fat-tree is at most 32, so that every coordinate fits into an octet. -/
theorem le_of_accepts {k : Nat} (h : accepts k = true) : k ≤ 32 := by
  simp only [accepts, Bool.and_eq_true, decide_eq_true_eq] at h
  exact h.2

/-- **An accepted parameter leads to a fabric**, with no host, no entry and no event in it. -/
theorem new_ok {k : Nat} (h : accepts k = true) (config : FabricConfig)
    (streams : DeviceId → Choice.Stream) :
    ∃ net, new k config streams = .ok { k, net } ∧ Fabric k net.ground ∧ net.Pristine ∧
      (∀ {pod e i}, pod < k → e < k / 2 →
        net.ground.peer? ⟨edgeId k pod e, .lower i⟩ = none) ∧
      (Network.empty config streams).SameTraffic net ∧ net.devices.size = numSwitches k := by
  have even := even_of_accepts h
  have plan := planned_planned k config streams
  have linkable := plan.linkable even
  obtain ⟨net, added, ground, same, size, pristine⟩ :=
    Network.addLinks_of_free (edgeLinks k ++ coreLinks k) (planned k config streams) linkable
  refine ⟨net, ?_, ?_, pristine plan.pristine, fun {pod e i} hp he => ?_, ?_, ?_⟩
  · simp only [new, h, Bool.not_true, Bool.false_eq_true, if_false, added]
  · rw [ground]
    refine ⟨h, fun id => ?_, fun link mem => Ground.peer?_linkAll linkable mem, fun id => ?_⟩
    · rw [Ground.built_linkAll]
      exact plan.built id
    · rw [Ground.registry_linkAll]
      exact plan.registry id
  · rw [ground, Ground.peer?_linkAll_of_apart linkable fun link mem => links_ne_edgeLower hp he mem]
    exact plan.peer? _
  · exact (sameTraffic_addPlanned (switchPlans k) _).trans same
  · rw [size, plan.size, length_switchPlans even]

/-- A fat-tree is only made with a parameter that is accepted. -/
theorem accepts_of_new_ok {k : Nat} {config : FabricConfig} {streams : DeviceId → Choice.Stream}
    {tree : FatTree} (h : new k config streams = .ok tree) : accepts k = true := by
  cases accepted : accepts k with
  | true => rfl
  | false => simp only [new, accepted, Bool.not_false, if_true, reduceCtorEq] at h

end FatTree

end PmacFabric
