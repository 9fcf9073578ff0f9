import PmacFabric.Proofs.FatTree.Stops

/-!
# Reading the plan

The plan of a fat-tree lists switches and links block by block. The laws of this module find an item
of such a list by its place: `switchPlans_edge`, `switchPlans_aggregation` and `switchPlans_core`
give the plan of the switch with a number, `mem_edgeLinks` and `mem_coreLinks` say which links there
are, and `links_apart` says that no two of them share an end.
-/

namespace PmacFabric.FatTree

/-! ## Lists in blocks -/

section Blocks

variable {α : Type}

/-- Blocks of one length have that length times their number. -/
theorem length_flatMap_range {f : Nat → List α} {m : Nat} (blocks : ∀ i, (f i).length = m)
    (n : Nat) : ((List.range n).flatMap f).length = n * m := by
  induction n with
  | zero => rw [Nat.zero_mul]; rfl
  | succ n ih =>
    rw [List.range_succ, List.flatMap_append, List.length_append, ih, Nat.succ_mul,
      List.flatMap_cons, List.flatMap_nil, List.append_nil, blocks]

/-- Item `j` of block `i`. -/
theorem getElem?_flatMap_range {f : Nat → List α} {m : Nat} (blocks : ∀ i, (f i).length = m)
    {n i j : Nat} (hi : i < n) (hj : j < m) :
    ((List.range n).flatMap f)[i * m + j]? = (f i)[j]? := by
  induction n with
  | zero => cases hi
  | succ n ih =>
    rw [List.range_succ, List.flatMap_append, List.flatMap_cons, List.flatMap_nil, List.append_nil]
    have length := length_flatMap_range blocks n
    rcases Nat.lt_succ_iff_lt_or_eq.mp hi with before | rfl
    · have within : i * m + j < n * m :=
        Nat.lt_of_lt_of_le (Nat.add_lt_add_left hj _)
          (Nat.le_trans (Nat.le_of_eq (Nat.succ_mul i m).symm) (Nat.mul_le_mul_right m before))
      rw [List.getElem?_append_left (length ▸ within), ih before]
    · rw [List.getElem?_append_right (length ▸ Nat.le_add_right _ _), length, Nat.add_sub_cancel_left]

/-- Items of a three-level list are related in pairs if items with different indices are. -/
theorem pairwise_triples {R : α → α → Prop} {f : Nat → Nat → Nat → α} {n m l : Nat}
    (apart : ∀ {a b c a' b' c'}, b < m → c < l → b' < m → c' < l → (a, b, c) ≠ (a', b', c') →
      R (f a b c) (f a' b' c')) :
    ((List.range n).flatMap fun a =>
      (List.range m).flatMap fun b => (List.range l).map (f a b)).Pairwise R := by
  refine List.pairwise_flatMap.mpr ⟨fun a _ => ?_, ?_⟩
  · refine List.pairwise_flatMap.mpr ⟨fun b hb => ?_, ?_⟩
    · refine List.pairwise_map.mpr (List.pairwise_lt_range.imp_of_mem ?_)
      intro c c' hc hc' lt
      refine apart (List.mem_range.mp hb) (List.mem_range.mp hc) (List.mem_range.mp hb)
        (List.mem_range.mp hc') ?_
      simp only [ne_eq, Prod.mk.injEq, true_and]
      exact Nat.ne_of_lt lt
    · apply List.pairwise_lt_range.imp_of_mem
      intro b b' hb hb' lt x hx y hy
      obtain ⟨c, hc, rfl⟩ := List.mem_map.mp hx
      obtain ⟨c', hc', rfl⟩ := List.mem_map.mp hy
      refine apart (List.mem_range.mp hb) (List.mem_range.mp hc) (List.mem_range.mp hb')
        (List.mem_range.mp hc') ?_
      simp only [ne_eq, Prod.mk.injEq, true_and, not_and]
      exact fun same => absurd same (Nat.ne_of_lt lt)
  · apply List.pairwise_lt_range.imp_of_mem
    intro a a' _ _ lt x hx y hy
    obtain ⟨b, hb, hx⟩ := List.mem_flatMap.mp hx
    obtain ⟨c, hc, rfl⟩ := List.mem_map.mp hx
    obtain ⟨b', hb', hy⟩ := List.mem_flatMap.mp hy
    obtain ⟨c', hc', rfl⟩ := List.mem_map.mp hy
    refine apart (List.mem_range.mp hb) (List.mem_range.mp hc) (List.mem_range.mp hb')
      (List.mem_range.mp hc') ?_
    simp only [ne_eq, Prod.mk.injEq, not_and]
    exact fun same => absurd same (Nat.ne_of_lt lt)

/-- What three nested ranges list. -/
theorem mem_triples {f : Nat → Nat → Nat → α} {n m l : Nat} {x : α} :
    (x ∈ (List.range n).flatMap fun a =>
      (List.range m).flatMap fun b => (List.range l).map (f a b)) ↔
      ∃ a b c, a < n ∧ b < m ∧ c < l ∧ f a b c = x := by
  simp only [List.mem_flatMap, List.mem_map, List.mem_range]
  constructor
  · rintro ⟨a, ha, b, hb, c, hc, rfl⟩
    exact ⟨a, b, c, ha, hb, hc, rfl⟩
  · rintro ⟨a, b, c, ha, hb, hc, rfl⟩
    exact ⟨a, ha, b, hb, c, hc, rfl⟩

end Blocks

/-! ## Switches -/

/-- The plan of the switches of one pod. -/
def podPlans (k pod : Nat) : List SwitchPlan :=
  (List.range (k / 2)).map (edgePlan k pod) ++ (List.range (k / 2)).map (aggregationPlan k pod)

/-- The plan goes pod by pod, and ends with the core switches. -/
theorem switchPlans_eq (k : Nat) :
    switchPlans k =
      (List.range k).flatMap (podPlans k) ++ (List.range (k / 2 * (k / 2))).map (corePlan k) :=
  rfl

/-- A pod has as many switches as the parameter. -/
theorem length_podPlans {k : Nat} (even : k % 2 = 0) (pod : Nat) : (podPlans k pod).length = k := by
  rw [podPlans, List.length_append, List.length_map, List.length_map, List.length_range,
    half_add_half even]

/-- All pods together have the square of it. -/
theorem length_podPart {k : Nat} (even : k % 2 = 0) :
    ((List.range k).flatMap (podPlans k)).length = k * k :=
  length_flatMap_range (length_podPlans even) k

/-- There are as many plans as switches. -/
theorem length_switchPlans {k : Nat} (even : k % 2 = 0) :
    (switchPlans k).length = numSwitches k := by
  rw [switchPlans_eq, List.length_append, length_podPart even, List.length_map, List.length_range,
    numSwitches]

/-- Where the plan has the switches of a pod. -/
theorem switchPlans_pod {k pod r : Nat} (even : k % 2 = 0) (hp : pod < k) (hr : r < k) :
    (switchPlans k)[pod * k + r]? = (podPlans k pod)[r]? := by
  rw [switchPlans_eq, List.getElem?_append_left (length_podPart even ▸ pod_offset_lt hp hr),
    getElem?_flatMap_range (length_podPlans even) hp hr]

/-- The number of an edge switch leads to its plan. -/
theorem switchPlans_edge {k pod e : Nat} (even : k % 2 = 0) (hp : pod < k) (he : e < k / 2) :
    (switchPlans k)[edgeId k pod e]? = some (edgePlan k pod e) := by
  have within : e < ((List.range (k / 2)).map (edgePlan k pod)).length := by
    rwa [List.length_map, List.length_range]
  rw [edgeId, switchPlans_pod even hp (by omega), podPlans, List.getElem?_append_left within,
    List.getElem?_map, List.getElem?_range he]
  rfl

/-- The number of an aggregation switch leads to its plan. -/
theorem switchPlans_aggregation {k pod a : Nat} (even : k % 2 = 0) (hp : pod < k) (ha : a < k / 2) :
    (switchPlans k)[aggregationId k pod a]? = some (aggregationPlan k pod a) := by
  have length : ((List.range (k / 2)).map (edgePlan k pod)).length = k / 2 := by
    rw [List.length_map, List.length_range]
  have after : ((List.range (k / 2)).map (edgePlan k pod)).length ≤ k / 2 + a := by
    rw [length]
    exact Nat.le_add_right _ _
  rw [aggregationId, Nat.add_assoc, switchPlans_pod even hp (by omega), podPlans,
    List.getElem?_append_right after, length, Nat.add_sub_cancel_left, List.getElem?_map,
    List.getElem?_range ha]
  rfl

/-- The number of a core switch leads to its plan. -/
theorem switchPlans_core {k c : Nat} (even : k % 2 = 0) (hc : c < k / 2 * (k / 2)) :
    (switchPlans k)[coreId k c]? = some (corePlan k c) := by
  have length := length_podPart even
  rw [coreId, switchPlans_eq, List.getElem?_append_right (length ▸ Nat.le_add_right _ _), length,
    Nat.add_sub_cancel_left, List.getElem?_map, List.getElem?_range hc]
  rfl

/-- Every number of a switch is the number of an edge, aggregation or core switch. -/
theorem cases_of_lt_numSwitches {k id : Nat} (even : k % 2 = 0) (h : id < numSwitches k) :
    (∃ pod e, pod < k ∧ e < k / 2 ∧ id = edgeId k pod e) ∨
      (∃ pod a, pod < k ∧ a < k / 2 ∧ id = aggregationId k pod a) ∨
      ∃ c, c < k / 2 * (k / 2) ∧ id = coreId k c := by
  by_cases low : id < k * k
  · have hk : 0 < k := Nat.pos_of_ne_zero (by rintro rfl; simp only [Nat.mul_zero, Nat.not_lt_zero] at low)
    have hp : id / k < k := Nat.div_lt_of_lt_mul low
    have shape : id = id / k * k + id % k := by rw [Nat.mul_comm]; exact (Nat.div_add_mod id k).symm
    have hr := Nat.mod_lt id hk
    by_cases first : id % k < k / 2
    · exact .inl ⟨id / k, id % k, hp, first, shape⟩
    · refine .inr (.inl ⟨id / k, id % k - k / 2, hp, by omega, ?_⟩)
      rw [aggregationId, Nat.add_assoc, Nat.add_sub_cancel' (Nat.not_lt.mp first)]
      exact shape
  · refine .inr (.inr ⟨id - k * k, ?_, ?_⟩)
    · unfold numSwitches at h
      omega
    · unfold coreId
      omega

/-! ## Links -/

/-- Inside a pod each edge switch is linked to each aggregation switch. -/
theorem mem_edgeLinks {k : Nat} {link : Endpoint × Endpoint} :
    link ∈ edgeLinks k ↔
      ∃ pod e j, pod < k ∧ e < k / 2 ∧ j < k / 2 ∧
        (⟨edgeId k pod e, .upper j⟩, ⟨aggregationId k pod j, .lower e⟩) = link :=
  mem_triples

/-- Each pod is linked to each core switch, by one of its aggregation switches. -/
theorem mem_coreLinks {k : Nat} {link : Endpoint × Endpoint} :
    link ∈ coreLinks k ↔
      ∃ pod a i, pod < k ∧ a < k / 2 ∧ i < k / 2 ∧
        (⟨aggregationId k pod a, .upper i⟩, ⟨coreId k (a * (k / 2) + i), .lower pod⟩) = link :=
  mem_triples

/-- Two links with no end in common. -/
def Apart (l m : Endpoint × Endpoint) : Prop := l.1 ≠ m.1 ∧ l.2 ≠ m.2

/-- No two links inside pods share a port. -/
theorem edgeLinks_apart (k : Nat) : (edgeLinks k).Pairwise Apart := by
  refine pairwise_triples fun {pod e j pod' e' j'} he hj he' hj' other => ⟨?_, ?_⟩
  · rintro same
    obtain ⟨device, port⟩ := Endpoint.mk.injEq .. ▸ same
    obtain ⟨rfl, rfl⟩ := edgeId_inj he he' device
    cases port
    exact other rfl
  · rintro same
    obtain ⟨device, port⟩ := Endpoint.mk.injEq .. ▸ same
    obtain ⟨rfl, rfl⟩ := aggregationId_inj hj hj' device
    cases port
    exact other rfl

/-- No two links to core switches share a port. -/
theorem coreLinks_apart (k : Nat) : (coreLinks k).Pairwise Apart := by
  refine pairwise_triples fun {pod a i pod' a' i'} ha hi ha' hi' other => ⟨?_, ?_⟩
  · rintro same
    obtain ⟨device, port⟩ := Endpoint.mk.injEq .. ▸ same
    obtain ⟨rfl, rfl⟩ := aggregationId_inj ha ha' device
    cases port
    exact other rfl
  · rintro same
    obtain ⟨device, port⟩ := Endpoint.mk.injEq .. ▸ same
    cases port
    obtain ⟨rfl, rfl⟩ := pod_offset_inj hi hi' (Nat.add_left_cancel device)
    exact other rfl

/-- **No two links of the plan share an end.** -/
theorem links_apart (k : Nat) : (edgeLinks k ++ coreLinks k).Pairwise Apart := by
  refine List.pairwise_append.mpr ⟨edgeLinks_apart k, coreLinks_apart k, ?_⟩
  intro l hl m hm
  obtain ⟨pod, e, j, hp, he, hj, rfl⟩ := mem_edgeLinks.mp hl
  obtain ⟨pod', a, i, hp', ha, hi, rfl⟩ := mem_coreLinks.mp hm
  refine ⟨?_, ?_⟩
  · intro same
    exact edgeId_ne_aggregationId he ha (congrArg Endpoint.device same)
  · intro same
    exact aggregationId_ne_coreId hp hj (congrArg Endpoint.device same)

/-- Links of the plan lead up, from one switch to another. -/
theorem links_shape {k : Nat} {link : Endpoint × Endpoint} (mem : link ∈ edgeLinks k ++ coreLinks k) :
    Network.isLink link.1 link.2 = true := by
  have shape : ∀ {d d' : DeviceId} {i j : Nat}, d ≠ d' →
      Network.isLink ⟨d, .upper i⟩ ⟨d', .lower j⟩ = true := by
    intro d d' i j other
    simp only [Network.isLink, Port.isUpper, Bool.not_false, Bool.and_self, Bool.true_and, bne_iff_ne]
    exact other
  rcases List.mem_append.mp mem with h | h
  · obtain ⟨pod, e, j, hp, he, hj, rfl⟩ := mem_edgeLinks.mp h
    exact shape (edgeId_ne_aggregationId he hj)
  · obtain ⟨pod, a, i, hp, ha, hi, rfl⟩ := mem_coreLinks.mp h
    exact shape (aggregationId_ne_coreId hp ha)

/-- No link of the plan takes a port that is meant for a host. -/
theorem links_ne_edgeLower {k pod e i : Nat} {link : Endpoint × Endpoint} (hp : pod < k)
    (he : e < k / 2) (mem : link ∈ edgeLinks k ++ coreLinks k) :
    link.1 ≠ ⟨edgeId k pod e, .lower i⟩ ∧ link.2 ≠ ⟨edgeId k pod e, .lower i⟩ := by
  rcases List.mem_append.mp mem with h | h
  · obtain ⟨_, _, j, _, _, hj, rfl⟩ := mem_edgeLinks.mp h
    refine ⟨?_, ?_⟩
    · intro same
      cases congrArg Endpoint.port same
    · intro same
      exact edgeId_ne_aggregationId he hj (congrArg Endpoint.device same).symm
  · obtain ⟨_, a, i, _, _, _, rfl⟩ := mem_coreLinks.mp h
    refine ⟨?_, ?_⟩
    · intro same
      cases congrArg Endpoint.port same
    · intro same
      exact edgeId_ne_coreId hp he (congrArg Endpoint.device same).symm

end PmacFabric.FatTree
