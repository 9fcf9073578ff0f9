import PmacFabric.Proofs.FatTree.Reached
import PmacFabric.Proofs.Network.Termination

/-!
# Events run out in a fat-tree

The planned links of a fat-tree lead from edge to aggregation to core switches, and all others from
hosts to switches. So the network of a fat-tree is ranked (`Laid.ranked`), whatever hosts, switches
and traffic it gets: only links between switches could change that. **`event_loop_terminates`** says
it together with the law of all ranked networks.
-/

namespace PmacFabric

namespace Network

/-! ## What building adds -/

section Build

variable {net : Network}

/-- A host is no switch. -/
theorem outline_of_card {id : DeviceId} {card : Host.Card} (found : net.ground.card id = some card) :
    net.ground.outline id = none := by
  obtain ⟨host, here, -⟩ := Option.map_eq_some_iff.mp found
  simp only [ground, switchAt?_of_hostAt? here, Option.map_none]

/-- The south end of a new link of a host is the host. -/
theorem links_attachHost (net : Network) (id switch : DeviceId) (port : Nat) :
    ∀ link ∈ (net.attachHost id switch port).2.links, link ∈ net.links ∨
      (net.attachHost id switch port).2.ground.outline link.1.device = none := by
  intro link mem
  rcases net.attachHost_cases id switch port with same | ⟨host, here, -, -, attached⟩
  · rw [same] at mem
    exact .inl mem
  · rw [attached] at mem ⊢
    rcases Array.mem_push.mp mem with before | rfl
    · exact .inl before
    · refine .inr (Option.eq_none_iff_forall_ne_some.mpr fun outline found => ?_)
      rw [ground_attached here] at found
      obtain ⟨old, there, -⟩ := Ground.outline_of_connect found
      cases (outline_of_card (ground_card here)).symm.trans there

/-- Adding the planned switches is a sequence of moves of the network. -/
theorem leads_addPlanned (plans : List FatTree.SwitchPlan) (net : Network) :
    net.Leads (plans.foldl addPlanned net) := by
  induction plans generalizing net with
  | nil => exact .refl
  | cons plan rest ih =>
    have added : net.Build (net.addPlanned plan) :=
      .addSwitch plan.name plan.identity plan.numLower plan.numUpper
    exact (Leads.refl.build added).trans (ih (net.addPlanned plan))

/-- Switches are added without links. -/
theorem links_addPlanned (plans : List FatTree.SwitchPlan) (net : Network) :
    (plans.foldl addPlanned net).links = net.links := by
  induction plans generalizing net with
  | nil => rfl
  | cons plan rest ih => exact ih (net.addPlanned plan)

/-- Adding links is made of moves, and adds no other links. -/
theorem leads_addLinks (links : List (Endpoint × Endpoint)) (net : Network) :
    net.Leads (net.addLinks links).2 ∧
      ∀ link ∈ (net.addLinks links).2.links, link ∈ net.links ∨ link ∈ links := by
  induction links generalizing net with
  | nil => exact ⟨.refl, fun link mem => .inl mem⟩
  | cons link rest ih =>
    obtain ⟨south, north⟩ := link
    have first : net.Leads (net.addLink south north).2 := Leads.refl.build (.addLink south north)
    have listed : ∀ link ∈ (net.addLink south north).2.links,
        link ∈ net.links ∨ link ∈ (south, north) :: rest := by
      intro link mem
      rcases net.addLink_cases south north with same | ⟨-, -, -, linked⟩
      · rw [same] at mem
        exact .inl mem
      · rw [linked] at mem
        rcases Array.mem_push.mp mem with before | rfl
        · exact .inl before
        · exact .inr List.mem_cons_self
    unfold addLinks
    cases added : net.addLink south north with
    | mk result after =>
      rw [added] at first listed
      cases result with
      | error e => exact ⟨first, listed⟩
      | ok _ =>
        obtain ⟨later, others⟩ := ih after
        refine ⟨first.trans later, fun link mem => ?_⟩
        rcases others link mem with before | new
        · exact listed link before
        · exact .inr (List.mem_cons_of_mem _ new)

end Build

end Network

namespace FatTree

open Network (Ground)

/-! ## Fat-trees that grow -/

/-- The fat-trees that users can bring about: hosts are added at places, hosts send, and frames appear
at any port; and devices and links may be added to the network itself, as long as no switches are
linked. -/
inductive Grown : FatTree → Prop where
  | new {k : Nat} {config : FabricConfig} {streams : DeviceId → Choice.Stream} {tree : FatTree} :
      FatTree.new k config streams = .ok tree → Grown tree
  | addHost {tree : FatTree} (place : Place) (amac : MacAddress) (ip : Ipv4Address) : Grown tree →
      Grown (tree.addHost place amac ip).2
  | work {tree : FatTree} {net : Network} : Grown tree → tree.net.Work net →
      Grown { tree with net }
  | build {tree : FatTree} {net : Network} : Grown tree → tree.net.Build net →
      (∀ link ∈ net.links, link ∈ tree.net.links ∨ net.switchAt? link.1.device = none) →
      Grown { tree with net }

/-- Links between switches are those of the plan. -/
def Laid (k : Nat) (net : Network) : Prop :=
  ∀ link ∈ net.links, link ∈ edgeLinks k ++ coreLinks k ∨
    net.ground.outline link.1.device = none

/-- A network stays laid if every new link has an end that is not a switch. -/
theorem Laid.build {k : Nat} {net after : Network} (laid : Laid k net)
    (wired : net.ground.Wired net.links) (move : net.Build after)
    (new : ∀ link ∈ after.links, link ∈ net.links ∨
      after.ground.outline link.1.device = none) : Laid k after := by
  intro link mem
  rcases new link mem with before | host
  · rcases laid link before with planned | none
    · exact .inl planned
    · rcases (wired.joins before).south with ⟨outline, found⟩ | ⟨card, found, up, -⟩
      · rw [none] at found
        cases found
      · exact .inr (Network.outline_of_card (move.grows.card found up))
  · exact .inr host

/-- A new fat-tree has the links of its plan. -/
theorem laid_new {k : Nat} {config : FabricConfig} {streams : DeviceId → Choice.Stream}
    {tree : FatTree} (done : FatTree.new k config streams = .ok tree) :
    tree.k = k ∧ (Network.empty config streams).Leads tree.net ∧ Laid k tree.net := by
  obtain ⟨leads, listed⟩ :=
    Network.leads_addLinks (edgeLinks k ++ coreLinks k) (planned k config streams)
  unfold FatTree.new at done
  split at done
  · cases done
  · split at done
    · cases done
    · rename_i net added
      cases done
      rw [added] at leads listed
      refine ⟨rfl, (Network.leads_addPlanned (switchPlans k) _).trans leads, fun link mem => ?_⟩
      rcases listed link mem with before | planned
      · have none : (planned k config streams).links = #[] :=
          Network.links_addPlanned (switchPlans k) (Network.empty config streams)
        rw [none] at before
        cases Array.not_mem_empty link before
      · exact .inl planned

/-- A host that is added to a fat-tree is added to its network and attached there. -/
theorem addHost_net (tree : FatTree) (place : Place) (amac : MacAddress) (ip : Ipv4Address) :
    (tree.addHost place amac ip).2.k = tree.k ∧
      ((tree.addHost place amac ip).2.net = tree.net ∨
        ∃ switch, (tree.addHost place amac ip).2.net =
          ((tree.net.addHost place.hostName amac ip).2.attachHost tree.net.devices.size switch
            place.port).2) := by
  unfold addHost
  split
  · exact ⟨rfl, .inl rfl⟩
  · rename_i switch _
    split
    · exact ⟨rfl, .inl rfl⟩
    · split
      · exact ⟨rfl, .inl rfl⟩
      · dsimp only
        split <;>
          rename_i attached <;>
          exact ⟨rfl, .inr ⟨switch, (congrArg Prod.snd attached).symm⟩⟩

/-- **Links between switches stay those of the plan.** -/
theorem Grown.laid {tree : FatTree} (grown : Grown tree) :
    tree.net.Reached ∧ Laid tree.k tree.net := by
  induction grown with
  | new done =>
    obtain ⟨rfl, leads, laid⟩ := laid_new done
    exact ⟨⟨_, _, leads⟩, laid⟩
  | @addHost tree place amac ip _ ih =>
    obtain ⟨reached, laid⟩ := ih
    obtain ⟨same, unchanged | ⟨switch, added⟩⟩ := addHost_net tree place amac ip
    · rw [unchanged, same]
      exact ⟨reached, laid⟩
    · have first : tree.net.Build (tree.net.addHost place.hostName amac ip).2 := .addHost ..
      have second : Network.Build _ ((tree.net.addHost place.hostName amac ip).2.attachHost
        tree.net.devices.size switch place.port).2 := .attachHost ..
      have mid := reached.leads (Network.Leads.refl.build first)
      rw [added, same]
      refine ⟨mid.leads (Network.Leads.refl.build second), ?_⟩
      exact (laid.build reached.sturdy.wired first fun link mem => .inl mem).build mid.sturdy.wired
        second (Network.links_attachHost _ _ switch place.port)
  | work _ move ih =>
    obtain ⟨reached, laid⟩ := ih
    refine ⟨reached.leads move.leads, fun link mem => ?_⟩
    rw [move.links reached.sturdy] at mem
    rw [move.ground]
    exact laid link mem
  | build _ move apart ih =>
    obtain ⟨reached, laid⟩ := ih
    refine ⟨reached.leads (Network.Leads.refl.build move), ?_⟩
    refine laid.build reached.sturdy.wired move fun link mem => (apart link mem).imp_right ?_
    intro none
    simp only [Network.ground, none, Option.map_none]

/-! ## The order of the switches -/

/-- How high a switch is, by its number: edge, aggregation or core. -/
def level (k : Nat) (id : DeviceId) : Nat :=
  if id < k * k then if id % k < k / 2 then 1 else 2 else 3

/-- Edge switches are on the lowest level of switches. -/
theorem level_edge {k pod e : Nat} (hp : pod < k) (he : e < k / 2) :
    level k (edgeId k pod e) = 1 := by
  have position : edgeId k pod e % k = e := pod_offset_mod (by omega)
  rw [level, if_pos (edgeId_lt hp he), position, if_pos he]

/-- Aggregation switches are one level above edge switches. -/
theorem level_aggregation {k pod a : Nat} (hp : pod < k) (ha : a < k / 2) :
    level k (aggregationId k pod a) = 2 := by
  have within : k / 2 + a < k := by omega
  have position : aggregationId k pod a % k = k / 2 + a := by
    rw [aggregationId, Nat.add_assoc, pod_offset_mod within]
  rw [level, if_pos (aggregationId_lt hp ha), position,
    if_neg (Nat.not_lt.mpr (Nat.le_add_right _ a))]

/-- Core switches are on the highest level. -/
theorem level_core (k c : Nat) : level k (coreId k c) = 3 := if_neg (not_coreId_lt k c)

/-- Planned links lead to the next level. -/
theorem level_lt {k : Nat} {link : Endpoint × Endpoint} (mem : link ∈ edgeLinks k ++ coreLinks k) :
    level k link.1.device < level k link.2.device := by
  rcases List.mem_append.mp mem with mem | mem
  · obtain ⟨pod, e, j, hp, he, hj, rfl⟩ := mem_edgeLinks.mp mem
    rw [level_edge hp he, level_aggregation hp hj]
    decide
  · obtain ⟨pod, a, i, hp, ha, hi, rfl⟩ := mem_coreLinks.mp mem
    rw [level_aggregation hp ha, level_core]
    decide

/-- Hosts alone have level 0. -/
theorem level_pos (k : Nat) (id : DeviceId) : 0 < level k id := by
  unfold level
  split
  · split <;> decide
  · decide

/-- **All links lead up**: from hosts to switches, and between switches by the plan. -/
theorem Laid.ranked {k : Nat} {net : Network} (laid : Laid k net)
    (wired : net.ground.Wired net.links) : net.Ranked := by
  refine ⟨fun id => if (net.ground.outline id).isSome then level k id else 0, fun link mem => ?_⟩
  obtain ⟨outline, north⟩ := (wired.joins mem).north
  have switch : (net.ground.outline link.2.device).isSome = true := by rw [north]; rfl
  dsimp only
  rw [if_pos switch]
  rcases laid link mem with planned | host
  · split
    · exact level_lt planned
    · exact level_pos k _
  · have host : ¬ (net.ground.outline link.1.device).isSome = true := by
      rw [host]
      exact Bool.false_ne_true
    rw [if_neg host]
    exact level_pos k _

end FatTree

/-- **The event loop ends.** Without a limit, the queue of every network whose links lead up runs
empty after finitely many events, whatever has been built, sent and injected, and whatever its
switches draw; and the links of every fat-tree lead up. -/
theorem event_loop_terminates :
    (∀ net : Network, net.Reached → net.Ranked → net.Settles) ∧
      ∀ tree : FatTree, tree.Grown → tree.net.Settles := by
  refine ⟨fun net reached ranked => reached.settles ranked, fun tree grown => ?_⟩
  obtain ⟨reached, laid⟩ := grown.laid
  exact reached.settles (laid.ranked reached.sturdy.wired)

/-- A question from a host that does not exist, for another one. -/
def probe : Frame :=
  ⟨⟨2, 0, 0, 0, 0, 9⟩, .broadcast, .arp (.request ⟨2, 0, 0, 0, 0, 9⟩ ⟨10, 9, 9, 9⟩ ⟨10, 9, 9, 8⟩)⟩

/-- An edge switch below a core switch; no operation may process an event. -/
def tower : Network :=
  let edge := ((Network.empty {} fun _ _ => 0).addSwitch "edge" ⟨.edge, 0, 0⟩ 2 1).2
  let core := (edge.addSwitch "core" ⟨.core, 1, 0⟩ 2 0).2
  (core.addLink ⟨0, .upper 0⟩ ⟨1, .lower 0⟩).2.setStopAfter (some 0)

/-- The tower is built by operations of its network. -/
theorem reached_tower : tower.Reached := by
  refine ⟨{}, fun _ _ => 0, ?_⟩
  exact (((Network.Leads.refl.build (.addSwitch ..)).build (.addSwitch ..)).build
    (.addLink ..)).work (.setStopAfter _)

/-- Events that were left over when the limit was reached, and events that have not begun, run out. -/
theorem interrupted_probes_settle :
    ((tower.inject 0 (.lower 1) probe).2.queue.isEmpty = false ∧
      (tower.inject 0 (.lower 1) probe).2.Settles) ∧
    ∃ tree : FatTree, tree.Grown ∧ tree.net.queue.toList = [.frame ⟨0, .lower 0⟩ probe] ∧
      tree.net.Settles := by
  have reached := reached_tower.leads (Network.leads_inject tower 0 (.lower 1) probe)
  have ranked : (tower.inject 0 (.lower 1) probe).2.Ranked := by
    have links : (tower.inject 0 (.lower 1) probe).2.links =
        #[(⟨0, .upper 0⟩, ⟨1, .lower 0⟩)] := by decide +kernel
    refine ⟨id, fun link mem => ?_⟩
    rw [links] at mem
    cases Array.mem_singleton.mp mem
    decide
  have there : (FatTree.smallest.net.switchAt? 0).isSome = true := by decide +kernel
  obtain ⟨switch, here⟩ := Option.isSome_iff_exists.mp there
  have grown := FatTree.Grown.work (.new FatTree.new_smallest)
    (Network.Work.inject (.lower 0) probe here)
  refine ⟨⟨by decide +kernel, event_loop_terminates.1 _ reached ranked⟩,
    ⟨_, grown, by decide +kernel, event_loop_terminates.2 _ grown⟩⟩

end PmacFabric
