import PmacFabric.Proofs.FatTree.Termination

/-!
# Fat-trees with hosts

`Populated` lists the fat-trees that come about when hosts are added and there is any traffic: hosts
send, and frames appear at any port. **`Populated.fabric`** says that their switches and the links
between them are always those of the plan, whatever happened; so laws about them need no assumption
about what was sent. `new_keeps` and `addHost_keeps` say that fat-trees are made and extended by
building, so they have whatever building keeps.
-/

namespace PmacFabric.FatTree

open Network (Ground)

/-! ## What building keeps -/

section Building

variable {P : Network → Prop} (keeps : ∀ {net after : Network}, P net → net.Build after → P after)
include keeps

/-- Whatever holds of the empty network and is kept by building holds of a new fat-tree. -/
theorem new_keeps {k : Nat} {config : FabricConfig} {streams : DeviceId → Choice.Stream}
    {tree : FatTree} (empty : P (.empty config streams))
    (made : FatTree.new k config streams = .ok tree) : P tree.net := by
  have planned : ∀ (plans : List SwitchPlan) {net : Network}, P net →
      P (plans.foldl Network.addPlanned net) := by
    intro plans
    induction plans with
    | nil => exact id
    | cons plan rest ih =>
      exact fun holds => ih (keeps holds
        (.addSwitch plan.name plan.identity plan.numLower plan.numUpper))
  have linked : ∀ (links : List (Endpoint × Endpoint)) {net : Network}, P net →
      P (net.addLinks links).2 := by
    intro links
    induction links with
    | nil => exact id
    | cons link rest ih =>
      intro net holds
      have first := keeps holds (.addLink link.1 link.2)
      unfold Network.addLinks
      cases added : net.addLink link.1 link.2 with
      | mk result after =>
        rw [added] at first
        cases result with
        | error e => exact first
        | ok _ => exact ih first
  have all : P ((FatTree.planned k config streams).addLinks (edgeLinks k ++ coreLinks k)).2 :=
    linked _ (planned (switchPlans k) empty)
  unfold FatTree.new at made
  split at made
  · cases made
  · split at made
    · cases made
    · rename_i net added
      cases made
      rwa [added] at all

/-- What is kept by building outlasts the addition of a host. -/
theorem addHost_keeps {tree : FatTree} (holds : P tree.net) (place : Place) (amac : MacAddress)
    (ip : Ipv4Address) : P (tree.addHost place amac ip).2.net := by
  obtain ⟨-, unchanged | ⟨switch, added⟩⟩ := addHost_net tree place amac ip
  · rwa [unchanged]
  · rw [added]
    exact keeps (keeps holds (.addHost place.hostName amac ip)) (.attachHost _ switch place.port)

/-- What is kept by building outlasts the addition of hosts at many places. -/
theorem addHosts_keeps {tree : FatTree} (holds : P tree.net) (places : List Place) :
    P (tree.addHosts places).2.net := by
  induction places generalizing tree with
  | nil => exact holds
  | cons place rest ih =>
    have first := addHost_keeps keeps holds place place.amac place.ip
    unfold addHosts
    cases added : tree.addHost place place.amac place.ip with
    | mk result after =>
      rw [added] at first
      cases result with
      | error e => exact first
      | ok id => exact ih first

/-- Whatever holds of the empty network and is kept by building holds of a complete fat-tree. -/
theorem build_keeps {k : Nat} {config : FabricConfig} {streams : DeviceId → Choice.Stream}
    {tree : FatTree} (empty : P (.empty config streams))
    (built : build k config streams = .ok tree) : P tree.net := by
  unfold build at built
  split at built
  · cases built
  · rename_i made
    have all := addHosts_keeps keeps (new_keeps keeps empty made) (places k)
    split at built
    · cases built
    · rename_i added
      cases built
      rwa [added] at all

end Building

/-! ## Hosts and traffic -/

/-- What happens to a fat-tree: a host is added, or there is traffic. -/
inductive Moves (tree : FatTree) : FatTree → Prop where
  | addHost (place : Place) (amac : MacAddress) (ip : Ipv4Address) :
      Moves tree (tree.addHost place amac ip).2
  | work {net : Network} : tree.net.Work net → Moves tree { tree with net }

/-- The fat-trees that hosts and any traffic lead to. -/
inductive Populated : FatTree → Prop where
  | new {k : Nat} {config : FabricConfig} {streams : DeviceId → Choice.Stream} {tree : FatTree} :
      FatTree.new k config streams = .ok tree → Populated tree
  | move {tree after : FatTree} : Populated tree → tree.Moves after → Populated after

/-- The fat-tree after its oldest event. -/
def advanced (tree : FatTree) : FatTree :=
  match tree.net.step with
  | some (_, net) => { tree with net }
  | none => tree

/-- While events wait, the next one can be processed. -/
theorem step_advanced {tree : FatTree} (busy : tree.net.step.isSome) :
    ∃ result, tree.net.step = some (result, tree.advanced.net) ∧
      tree.advanced = { tree with net := tree.advanced.net } := by
  obtain ⟨⟨result, net⟩, stepped⟩ := Option.isSome_iff_exists.mp busy
  refine ⟨result, ?_, ?_⟩ <;> simp only [advanced, stepped]

/-- A populated fat-tree has grown from a new one. -/
theorem Populated.grown {tree : FatTree} (populated : tree.Populated) : tree.Grown := by
  induction populated with
  | new done => exact .new done
  | move _ move ih =>
    cases move with
    | addHost place amac ip => exact ih.addHost place amac ip
    | work move => exact ih.work move

/-- An operation that sends begins with the work of a host. -/
theorem work_of_post {net net' : Network} {operation : Operation}
    (posted : post net operation = some net') : net.Work net' := by
  obtain ⟨id, sender, posted⟩ := Option.bind_eq_some_iff.mp posted
  obtain ⟨host, here, posted⟩ := Option.bind_eq_some_iff.mp posted
  obtain ⟨⟨events, host'⟩, done, rfl⟩ := Option.map_eq_some_iff.mp posted
  cases operation with
  | addHost => cases sender
  | setStopAfter => cases sender
  | send _ dst bytes =>
    cases sent : host.send dst bytes with
    | error e => simp only [hostPost, sent, Except.toOption, reduceCtorEq] at done
    | ok result =>
      simp only [hostPost, sent, Except.toOption, Option.some.injEq] at done
      exact .send here (done ▸ sent)
  | retransmit _ =>
    cases sent : host.retransmit with
    | error e => simp only [hostPost, sent, Except.toOption, reduceCtorEq] at done
    | ok result =>
      simp only [hostPost, sent, Except.toOption, Option.some.injEq] at done
      exact .retransmit here (done ▸ sent)

section Fabric

variable {k : Nat}

/-- A fabric that grows without new switches stays the fabric that it is. -/
theorem Fabric.of_grows {ground later : Ground} (fabric : Fabric k ground)
    (grows : ground.Grows later)
    (built : ∀ id, (later.outline id).map Switch.Outline.built =
      (ground.outline id).map Switch.Outline.built)
    (registry : later.registry = ground.registry) : Fabric k later where
  accepted := fabric.accepted
  built id := (built id).trans (fabric.built id)
  links link mem := ⟨grows.peer (fabric.links link mem).1, grows.peer (fabric.links link mem).2⟩
  registry id := by rw [registry, fabric.registry]

/-- A new host leaves the fabric. -/
theorem Fabric.addHost {net : Network} (fabric : Fabric k net.ground) (name : String)
    (amac : MacAddress) (ip : Ipv4Address) : Fabric k (net.addHost name amac ip).2.ground := by
  refine fabric.of_grows (Network.grows_addHost net name amac ip) (fun id => ?_) rfl
  rw [Network.outline_addHost]

/-- Attaching a host leaves the fabric. -/
theorem Fabric.attachHost {net : Network} (fabric : Fabric k net.ground) (id switch : DeviceId)
    (port : Nat) : Fabric k (net.attachHost id switch port).2.ground := by
  have grows := Network.Build.grows (.attachHost id switch port : net.Build _)
  rcases net.attachHost_cases id switch port with same | ⟨host, here, -, -, attached⟩
  · rwa [same]
  · rw [attached] at grows ⊢
    have ground := Network.ground_attached here switch port
    refine fabric.of_grows grows (fun key => ?_) (by rw [ground]; rfl)
    rw [ground]
    exact Ground.built_connect _ _ _ key

/-- Switches and links stay those of the plan. -/
theorem Moves.fabric {tree after : FatTree} (move : tree.Moves after)
    (fabric : Fabric tree.k tree.net.ground) :
    after.k = tree.k ∧ Fabric tree.k after.net.ground := by
  cases move with
  | addHost place amac ip =>
    obtain ⟨same, unchanged | ⟨switch, added⟩⟩ := addHost_net tree place amac ip
    · rw [unchanged]
      exact ⟨same, fabric⟩
    · rw [added]
      exact ⟨same, (fabric.addHost _ _ _).attachHost _ _ _⟩
  | work move => exact ⟨rfl, move.ground ▸ fabric⟩

/-- **Every populated fat-tree is a fabric.** -/
theorem Populated.fabric {tree : FatTree} (populated : tree.Populated) :
    Fabric tree.k tree.net.ground := by
  induction populated with
  | new done =>
    obtain ⟨same, legit, -⟩ := legit_new done
    exact same ▸ legit.fabric
  | move _ move ih =>
    obtain ⟨same, fabric⟩ := move.fabric ih
    exact same ▸ fabric

/-- **Every switch of a fabric is one of the plan.** -/
theorem Fabric.planned {net : Network} (fabric : Fabric k net.ground) {id : DeviceId}
    {switch : Switch} (here : net.switchAt? id = some switch) :
    (∃ pod e, pod < k ∧ e < k / 2 ∧ id = edgeId k pod e ∧
        Follows switch id (edgePlan k pod e)) ∨
      (∃ pod a, pod < k ∧ a < k / 2 ∧ id = aggregationId k pod a ∧
        Follows switch id (aggregationPlan k pod a)) ∨
      ∃ c, c < k / 2 * (k / 2) ∧ id = coreId k c ∧ Follows switch id (corePlan k c) := by
  obtain ⟨plan, planned, shape⟩ := fabric.exists_plan here
  have follows := Follows.of_built shape
  rcases cases_of_lt_numSwitches fabric.even (fabric.id_lt here) with
    ⟨pod, e, hp, he, rfl⟩ | ⟨pod, a, hp, ha, rfl⟩ | ⟨c, hc, rfl⟩
  · rw [switchPlans_edge fabric.even hp he] at planned
    cases planned
    exact .inl ⟨pod, e, hp, he, rfl, follows⟩
  · rw [switchPlans_aggregation fabric.even hp ha] at planned
    cases planned
    exact .inr (.inl ⟨pod, a, hp, ha, rfl, follows⟩)
  · rw [switchPlans_core fabric.even hc] at planned
    cases planned
    exact .inr (.inr ⟨c, hc, rfl, follows⟩)

/-- A switch of the edge tier has the number of one. -/
theorem Fabric.edge_of_tier {net : Network} (fabric : Fabric k net.ground) {id : DeviceId}
    {switch : Switch} (here : net.switchAt? id = some switch) (edge : switch.tier = .edge) :
    ∃ pod e, pod < k ∧ e < k / 2 ∧ id = edgeId k pod e := by
  rcases fabric.planned here with
    ⟨pod, e, hp, he, same, -⟩ | ⟨pod, a, -, -, -, follows⟩ | ⟨c, -, -, follows⟩
  · exact ⟨pod, e, hp, he, same⟩
  · cases follows.tier.symm.trans edge
  · cases follows.tier.symm.trans edge

/-- Every event of a populated fat-tree can be processed. -/
theorem Populated.sturdy {tree : FatTree} (populated : tree.Populated) : tree.net.Sturdy :=
  populated.grown.laid.1.sturdy

/-- No move takes a host away. -/
theorem Moves.hostsWithin {tree after : FatTree} (move : tree.Moves after) :
    tree.net.HostsWithin after.net := by
  cases move with
  | addHost place amac ip => exact hostsWithin_addHost tree place amac ip
  | work move => exact .of_ground move.ground

/-- Only hosts are linked to the lower ports of edge switches. -/
theorem Laid.host_below {net : Network} (laid : Laid k net) (wired : net.ground.Wired net.links)
    {pod e i : Nat} (hp : pod < k) (he : e < k / 2) {peer : Endpoint}
    (leads : net.ground.peer? ⟨edgeId k pod e, .lower i⟩ = some peer) :
    (net.hostAt? peer.device).isSome := by
  have mem := wired.lower leads
  rcases laid _ mem with planned | loose
  · exact absurd rfl (links_ne_edgeLower hp he planned).2
  · rcases (wired.joins mem).south with ⟨outline, found⟩ | ⟨card, found, -⟩
    · cases loose.symm.trans found
    · obtain ⟨host, here, -⟩ := Option.map_eq_some_iff.mp found
      rw [here]
      rfl

end Fabric

/-- Fat-trees that the runs of hosts alone bring about are populated. -/
theorem Reached.populated {k : Nat} {log : List Ipv4Packet} {tree : FatTree}
    (reached : Reached k log tree) : tree.Populated := by
  induction reached with
  | new made => exact .new made
  | addHost place amac ip _ _ ih => exact ih.move (.addHost place amac ip)
  | setStopAfter stopAfter _ ih => exact ih.move (.work (.setStopAfter stopAfter))
  | post _ posted ih => exact ih.move (.work (work_of_post posted))
  | event _ stepped ih => exact ih.move (.work (.event stepped))

end PmacFabric.FatTree
