import Mathlib.Data.List.Count
import PmacFabric.Proofs.Control.History

/-!
# The recipients of a flood

A fabric manager keeps its switches in a table, and no order of a table is promised. `floodListed`
carries a flood out by the order of any listing of the table: it picks the core switches but one as
they come, sorts their numbers, and adds a message for each of them behind all waiting events.

**`flood_reaches_cores`** says that every listing leads to the same, which is what
`FabricManager.flood` does: each core switch but one gets the message once, by increasing number, no
other switch gets anything, and only one counter changes, by the number of messages.
-/

namespace PmacFabric

namespace FabricManager

/-! ## A flood by a listing -/

/-- What a flood leads to. -/
structure Flooded where
  /-- How many switches got the message. -/
  recipients : Nat
  manager : FabricManager
  queue : EventQueue

/-- The core switches but one of a listing, as they come. -/
def coresListed (listing : List (DeviceId × SwitchIdentity)) (exclude : DeviceId) :
    List DeviceId :=
  (listing.filter fun entry => entry.2.tier = .core && entry.1 != exclude).map Prod.fst

/-- Adds a message for one switch after another. -/
def tellAll (message : ControlMessage) (queue : EventQueue) (ids : List DeviceId) : EventQueue :=
  ids.foldl (fun queue id => queue.push (.control id message)) queue

/-- Floods as a manager does that comes upon its switches in the order of a listing. -/
def floodListed (manager : FabricManager) (listing : List (DeviceId × SwitchIdentity))
    (message : ControlMessage) (exclude : DeviceId) (queue : EventQueue) : Flooded :=
  let recipients := (coresListed listing exclude).mergeSort
  let counters := manager.counters
  { recipients := recipients.length
    manager :=
      { manager with
        counters := { counters with floods := counters.floods + recipients.length } }
    queue := tellAll message queue recipients }

section Listings

variable {manager : FabricManager} {listing : List (DeviceId × SwitchIdentity)}

/-- Sorting makes up for the order of the listing. -/
theorem mergeSort_coresListed (perm : listing.Perm manager.switches.toList) (exclude : DeviceId) :
    (coresListed listing exclude).mergeSort = manager.floodRecipients exclude := by
  have sorted : (coresListed listing exclude).mergeSort.Pairwise fun a b =>
      decide (a ≤ b) = true := by
    refine List.pairwise_mergeSort (fun a b c before after => ?_) (fun a b => ?_) _
    · exact decide_eq_true (Nat.le_trans (of_decide_eq_true before) (of_decide_eq_true after))
    · rw [Bool.or_eq_true, decide_eq_true_iff, decide_eq_true_iff]
      exact Nat.le_total a b
  have ordered : (manager.floodRecipients exclude).Pairwise (· ≤ ·) :=
    (pairwise_floodRecipients manager exclude).imp Nat.le_of_lt
  have same : (coresListed listing exclude).mergeSort.Perm (manager.floodRecipients exclude) :=
    (List.mergeSort_perm _ _).trans ((perm.filter _).map Prod.fst)
  exact same.eq_of_pairwise (fun _ _ _ _ => Nat.le_antisymm) (sorted.imp of_decide_eq_true) ordered

/-- Telling one switch after another adds all messages in that order. -/
theorem tellAll_eq (message : ControlMessage) (queue : EventQueue) (ids : List DeviceId) :
    tellAll message queue ids = queue.pushAll (ids.map fun id => .control id message) :=
  List.foldl_map.symm

/-- A flood by any listing is the flood of the manager. -/
theorem floodListed_eq (perm : listing.Perm manager.switches.toList) (message : ControlMessage)
    (exclude : DeviceId) (queue : EventQueue) :
    manager.floodListed listing message exclude queue =
      { recipients := (manager.flood message exclude).1.length
        manager := (manager.flood message exclude).2
        queue := queue.pushAll (manager.flood message exclude).1 } := by
  simp only [floodListed, mergeSort_coresListed perm, tellAll_eq, flood, List.length_map]

end Listings

/-- How often a flood has a switch get the message. -/
theorem count_floodEvents (manager : FabricManager) (message : ControlMessage)
    (exclude id : DeviceId) :
    (manager.floodEvents message exclude).count (.control id message) =
      if id ∈ manager.floodRecipients exclude then 1 else 0 := by
  have injective : Function.Injective fun id => Event.control id message :=
    fun _ _ same => (Event.control.inj same).1
  have nodup : (manager.floodRecipients exclude).Nodup :=
    (pairwise_floodRecipients manager exclude).imp Nat.ne_of_lt
  rw [floodEvents, List.count_map_of_injective _ _ injective, nodup.count]

/-! ## Who gets the message -/

/-- A switch is a core switch of the registry. -/
def HasCore (manager : FabricManager) (id : DeviceId) : Prop :=
  ∃ identity, manager.switchIdentity? id = some identity ∧ identity.tier = .core

/-- What a flood should lead to. -/
structure ReachesCores (manager : FabricManager) (message : ControlMessage) (exclude : DeviceId)
    (queue : EventQueue) (flooded : Flooded) : Prop where
  /-- The waiting events stay, and the new ones are for just the core switches but one. -/
  appended : ∃ cores : List DeviceId, cores.Pairwise (· < ·) ∧
    (∀ id, id ∈ cores ↔ manager.HasCore id ∧ id ≠ exclude) ∧
    flooded.queue.toList = queue.toList ++ cores.map fun id => .control id message
  once : ∀ id, manager.HasCore id → id ≠ exclude →
    flooded.queue.toList.count (.control id message) =
      queue.toList.count (.control id message) + 1
  /-- Edge and aggregation switches get nothing, and neither does who is unknown or left out. -/
  spared : ∀ id other, ¬(manager.HasCore id ∧ id ≠ exclude) →
    flooded.queue.toList.count (.control id other) = queue.toList.count (.control id other)
  recipients : flooded.queue.toList.length = queue.toList.length + flooded.recipients
  counters : flooded.manager.counters =
    { manager.counters with floods := manager.counters.floods + flooded.recipients }
  directory : flooded.manager.directory = manager.directory
  switches : flooded.manager.switches = manager.switches

/-- **A flood reaches the core switches but one**, once each and in the order of their numbers, in
whatever order the manager comes upon its switches. It counts its messages and changes nothing
else. -/
theorem flood_reaches_cores (manager : FabricManager)
    {listing : List (DeviceId × SwitchIdentity)} (perm : listing.Perm manager.switches.toList)
    (message : ControlMessage) (exclude : DeviceId) (queue : EventQueue) :
    manager.floodListed listing message exclude queue =
        { recipients := (manager.flood message exclude).1.length
          manager := (manager.flood message exclude).2
          queue := queue.pushAll (manager.flood message exclude).1 } ∧
      manager.ReachesCores message exclude queue
        (manager.floodListed listing message exclude queue) := by
  have same := floodListed_eq perm message exclude queue
  refine ⟨same, ?_⟩
  rw [same]
  have appended : (queue.pushAll (manager.flood message exclude).1).toList =
      queue.toList ++ manager.floodEvents message exclude := EventQueue.toList_pushAll _ _
  have member : ∀ id, id ∈ manager.floodRecipients exclude ↔ manager.HasCore id ∧ id ≠ exclude :=
    fun id => mem_floodRecipients_iff.trans and_comm
  exact
    { appended := ⟨_, pairwise_floodRecipients manager exclude, member, appended⟩
      once := fun id core other => by
        rw [appended, List.count_append, count_floodEvents, if_pos ((member id).mpr ⟨core, other⟩)]
      spared := fun id other left => by
        have absent : Event.control id other ∉ manager.floodEvents message exclude := by
          intro mem
          obtain ⟨id', mem', same⟩ := List.mem_map.mp mem
          cases same
          exact left ((member id).mp mem')
        rw [appended, List.count_append, List.count_eq_zero.mpr absent, Nat.add_zero]
      recipients := by
        rw [appended, List.length_append]
        rfl
      counters := rfl
      directory := rfl
      switches := rfl }

/-- Five switches that were added in no particular order. -/
def scattered : FabricManager :=
  [(7, Tier.core), (2, .edge), (5, .core), (0, .aggregation), (3, .core)].foldl
    (fun manager entry => manager.addSwitch entry.1 ⟨entry.2, 0, 0⟩) .empty

/-- Where the manager comes upon the last switch first, the core switches are still asked from the
first to the last, after what was already waiting. -/
theorem scattered_flood :
    scattered.switches.toList.reverse.Perm scattered.switches.toList ∧
      scattered.ReachesCores .ack 5 ⟨[.control 2 .ack], []⟩
        (scattered.floodListed scattered.switches.toList.reverse .ack 5
          ⟨[.control 2 .ack], []⟩) ∧
      (scattered.floodListed scattered.switches.toList.reverse .ack 5
          ⟨[.control 2 .ack], []⟩).queue.toList =
        [.control 2 .ack, .control 3 .ack, .control 7 .ack] := by
  have reversed := scattered.switches.toList.reverse_perm
  obtain ⟨same, reaches⟩ :=
    flood_reaches_cores scattered reversed .ack 5 ⟨[.control 2 .ack], []⟩
  refine ⟨reversed, reaches, ?_⟩
  rw [same]
  decide +kernel

end FabricManager

end PmacFabric
