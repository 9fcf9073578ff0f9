import PmacFabric.Proofs.FatTree.Fabric

/-!
# Reading a fabric back

What `Fabric` says about one network at a time: `Fabric.edge`, `Fabric.aggregation` and
`Fabric.core` give the switch with a planned number, `Fabric.edge_up` and its companions the link end
behind a port, and `Fabric.floodRecipients` the switches that a flood of the fabric manager reaches.
-/

namespace PmacFabric

/-- Lists of increasing numbers with the same members are equal. -/
theorem eq_of_increasing {xs ys : List Nat} (hx : xs.Pairwise (· < ·)) (hy : ys.Pairwise (· < ·))
    (same : ∀ n, n ∈ xs ↔ n ∈ ys) : xs = ys := by
  have perm : xs.Perm ys :=
    (List.perm_ext_iff_of_nodup (hx.imp Nat.ne_of_lt) (hy.imp Nat.ne_of_lt)).mpr same
  exact perm.eq_of_pairwise (fun a b _ _ h h' => absurd h' (Nat.lt_asymm h)) hx hy

namespace FatTree

open Network (Ground)

/-- What a plan says about its switch. -/
structure Follows (switch : Switch) (id : DeviceId) (plan : SwitchPlan) : Prop where
  number : switch.id = id
  identity : switch.identity = plan.identity
  lower : switch.numLower = plan.numLower
  upper : switch.numUpper = plan.numUpper

/-- A switch that was built from a plan follows it. -/
theorem Follows.of_built {switch : Switch} {id : DeviceId} {plan : SwitchPlan}
    (h : switch.outline.built = (id, plan)) : Follows switch id plan := by
  obtain ⟨number, shape⟩ := Prod.mk.injEq .. ▸ h
  refine ⟨number, congrArg SwitchPlan.identity shape, ?_, ?_⟩
  · rw [← switch.outline_numLower]
    exact congrArg SwitchPlan.numLower shape
  · rw [← switch.outline_numUpper]
    exact congrArg SwitchPlan.numUpper shape

namespace Fabric

variable {k : Nat} {net : Network}

/-- Fabrics are built for even numbers only. -/
theorem even {ground : Ground} (fabric : Fabric k ground) : k % 2 = 0 :=
  even_of_accepts fabric.accepted

/-! ## Switches by number -/

/-- Every planned switch exists, and follows its plan. -/
theorem switch (fabric : Fabric k net.ground) {id : DeviceId} {plan : SwitchPlan}
    (planned : (switchPlans k)[id]? = some plan) :
    ∃ switch, net.switchAt? id = some switch ∧ Follows switch id plan := by
  have built := fabric.built id
  rw [planned, Option.map_some] at built
  obtain ⟨outline, found, shape⟩ := Option.map_eq_some_iff.mp built
  obtain ⟨switch, here, rfl⟩ := Option.map_eq_some_iff.mp found
  exact ⟨switch, here, .of_built shape⟩

/-- **Every switch of a fabric has been built by the plan of its number.** -/
theorem exists_plan (fabric : Fabric k net.ground) {id : DeviceId} {switch : Switch}
    (here : net.switchAt? id = some switch) :
    ∃ plan, (switchPlans k)[id]? = some plan ∧ switch.outline.built = (id, plan) := by
  have built := fabric.built id
  rw [Network.ground_outline here, Option.map_some] at built
  obtain ⟨plan, planned, shape⟩ := Option.map_eq_some_iff.mp built.symm
  exact ⟨plan, planned, shape.symm⟩

/-- A switch of a fabric knows its number. -/
theorem number (fabric : Fabric k net.ground) {id : DeviceId} {switch : Switch}
    (here : net.switchAt? id = some switch) : switch.id = id := by
  obtain ⟨plan, -, shape⟩ := fabric.exists_plan here
  exact congrArg Prod.fst shape

/-- Only planned switches exist. -/
theorem id_lt (fabric : Fabric k net.ground) {id : DeviceId} {switch : Switch}
    (here : net.switchAt? id = some switch) : id < numSwitches k := by
  obtain ⟨plan, planned, -⟩ := fabric.exists_plan here
  rw [← length_switchPlans fabric.even]
  exact (List.getElem?_eq_some_iff.mp planned).1

/-- The edge switches of the plan exist. -/
theorem edge (fabric : Fabric k net.ground) {pod e : Nat} (hp : pod < k) (he : e < k / 2) :
    ∃ switch, net.switchAt? (edgeId k pod e) = some switch ∧
      Follows switch (edgeId k pod e) (edgePlan k pod e) :=
  fabric.switch (switchPlans_edge fabric.even hp he)

/-- The aggregation switches of the plan exist. -/
theorem aggregation (fabric : Fabric k net.ground) {pod a : Nat} (hp : pod < k) (ha : a < k / 2) :
    ∃ switch, net.switchAt? (aggregationId k pod a) = some switch ∧
      Follows switch (aggregationId k pod a) (aggregationPlan k pod a) :=
  fabric.switch (switchPlans_aggregation fabric.even hp ha)

/-- The core switches of the plan exist. -/
theorem core (fabric : Fabric k net.ground) {c : Nat} (hc : c < k / 2 * (k / 2)) :
    ∃ switch, net.switchAt? (coreId k c) = some switch ∧
      Follows switch (coreId k c) (corePlan k c) :=
  fabric.switch (switchPlans_core fabric.even hc)

/-! ## Link ends by number -/

/-- Upper port `j` of an edge switch leads to aggregation switch `j` of its pod. -/
theorem edge_up {ground : Ground} (fabric : Fabric k ground) {pod e j : Nat} (hp : pod < k)
    (he : e < k / 2) (hj : j < k / 2) :
    ground.peer? ⟨edgeId k pod e, .upper j⟩ = some ⟨aggregationId k pod j, .lower e⟩ :=
  (fabric.links _ (List.mem_append_left _ (mem_edgeLinks.mpr ⟨pod, e, j, hp, he, hj, rfl⟩))).1

/-- Lower port `e` of an aggregation switch leads to edge switch `e` of its pod. -/
theorem aggregation_down {ground : Ground} (fabric : Fabric k ground) {pod a e : Nat}
    (hp : pod < k) (ha : a < k / 2) (he : e < k / 2) :
    ground.peer? ⟨aggregationId k pod a, .lower e⟩ = some ⟨edgeId k pod e, .upper a⟩ :=
  (fabric.links _ (List.mem_append_left _ (mem_edgeLinks.mpr ⟨pod, e, a, hp, he, ha, rfl⟩))).2

/-- Upper port `i` of an aggregation switch leads to the core switch `i` of its own. -/
theorem aggregation_up {ground : Ground} (fabric : Fabric k ground) {pod a i : Nat} (hp : pod < k)
    (ha : a < k / 2) (hi : i < k / 2) :
    ground.peer? ⟨aggregationId k pod a, .upper i⟩ =
      some ⟨coreId k (a * (k / 2) + i), .lower pod⟩ :=
  (fabric.links _ (List.mem_append_right _ (mem_coreLinks.mpr ⟨pod, a, i, hp, ha, hi, rfl⟩))).1

/-- A core switch has a lower port for every pod, which leads to its aggregation switch there. -/
theorem core_down {ground : Ground} (fabric : Fabric k ground) {pod a i : Nat} (hp : pod < k)
    (ha : a < k / 2) (hi : i < k / 2) :
    ground.peer? ⟨coreId k (a * (k / 2) + i), .lower pod⟩ =
      some ⟨aggregationId k pod a, .upper i⟩ :=
  (fabric.links _ (List.mem_append_right _ (mem_coreLinks.mpr ⟨pod, a, i, hp, ha, hi, rfl⟩))).2

/-- The group of aggregation switches that a core switch is linked to, and its number in the group. -/
theorem coreIndex_parts {c : Nat} (hc : c < k / 2 * (k / 2)) :
    c / (k / 2) < k / 2 ∧ c % (k / 2) < k / 2 := by
  have half : 0 < k / 2 :=
    Nat.pos_of_ne_zero fun none => by simp only [none, Nat.mul_zero, Nat.not_lt_zero] at hc
  exact ⟨Nat.div_lt_of_lt_mul hc, Nat.mod_lt c half⟩

/-- A core switch by its group. -/
theorem exists_coreIndex {c : Nat} (hc : c < k / 2 * (k / 2)) :
    ∃ a i, a < k / 2 ∧ i < k / 2 ∧ c = a * (k / 2) + i := by
  obtain ⟨ha, hi⟩ := coreIndex_parts hc
  exact ⟨c / (k / 2), c % (k / 2), ha, hi, (Nat.div_add_mod' c _).symm⟩

/-! ## Floods -/

/-- The registry of a fabric knows the tier of every switch. -/
theorem registered_edge {ground : Ground} (fabric : Fabric k ground) {pod e : Nat} (hp : pod < k)
    (he : e < k / 2) : ground.registry.contains (edgeId k pod e) = true := by
  rw [Std.TreeMap.contains_eq_isSome_getElem?, fabric.registry, switchPlans_edge fabric.even hp he]
  rfl

/-- The core switches that the fabric manager knows are those of the plan. -/
theorem core_of_registry {ground : Ground} (fabric : Fabric k ground) {id : Nat}
    {identity : SwitchIdentity} :
    (ground.registry[id]? = some identity ∧ identity.tier = .core) ↔
      ∃ c, c < k / 2 * (k / 2) ∧ id = coreId k c ∧ identity = (corePlan k c).identity := by
  rw [fabric.registry]
  constructor
  · rintro ⟨found, tier⟩
    obtain ⟨plan, planned, rfl⟩ := Option.map_eq_some_iff.mp found
    have within := (List.getElem?_eq_some_iff.mp planned).1
    rw [length_switchPlans fabric.even] at within
    rcases cases_of_lt_numSwitches fabric.even within with
      ⟨pod, e, hp, he, rfl⟩ | ⟨pod, a, hp, ha, rfl⟩ | ⟨c, hc, rfl⟩
    · rw [switchPlans_edge fabric.even hp he] at planned
      cases planned
      cases tier
    · rw [switchPlans_aggregation fabric.even hp ha] at planned
      cases planned
      cases tier
    · rw [switchPlans_core fabric.even hc] at planned
      cases planned
      exact ⟨c, hc, rfl, rfl⟩
  · rintro ⟨c, hc, rfl, rfl⟩
    rw [switchPlans_core fabric.even hc]
    exact ⟨rfl, rfl⟩

/-- **A flood that an edge switch causes reaches exactly the core switches.** -/
theorem floodRecipients {manager : FabricManager} (fabric : Fabric k net.ground)
    (registry : manager.switches = net.ground.registry) {pod e : Nat} (hp : pod < k)
    (he : e < k / 2) :
    manager.floodRecipients (edgeId k pod e) = (List.range (k / 2 * (k / 2))).map (coreId k) := by
  refine eq_of_increasing ?_ ?_ fun id => ?_
  · refine List.pairwise_map.mpr ((List.Pairwise.filter _ Std.TreeMap.ordered_keys_toList).imp ?_)
    exact Nat.compare_eq_lt.mp
  · exact List.pairwise_map.mpr (List.pairwise_lt_range.imp fun h => Nat.add_lt_add_left h _)
  · simp only [FabricManager.floodRecipients, registry, List.mem_map, List.mem_filter,
      List.mem_range, Bool.and_eq_true, decide_eq_true_eq, bne_iff_ne]
    constructor
    · rintro ⟨⟨id, identity⟩, ⟨mem, tier, _⟩, rfl⟩
      rw [Std.TreeMap.mem_toList_iff_getElem?_eq_some] at mem
      obtain ⟨c, hc, rfl, _⟩ := fabric.core_of_registry.mp ⟨mem, tier⟩
      exact ⟨c, hc, rfl⟩
    · rintro ⟨c, hc, rfl⟩
      obtain ⟨mem, tier⟩ := fabric.core_of_registry.mpr ⟨c, hc, rfl, rfl⟩
      rw [← Std.TreeMap.mem_toList_iff_getElem?_eq_some] at mem
      exact ⟨_, ⟨mem, tier, fun same => edgeId_ne_coreId hp he same.symm⟩, rfl⟩

end Fabric

end FatTree

end PmacFabric
