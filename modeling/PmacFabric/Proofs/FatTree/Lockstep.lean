import PmacFabric.Proofs.FatTree.Invariant
import PmacFabric.Proofs.FatTree.Twins
import PmacFabric.Proofs.Network.Tally

/-!
# Two runs in lockstep

Two networks are in **lockstep** if they agree in everything but the choices made: hosts, fabric
manager, edge switches, and the totals over aggregation and core switches are the same, and the
waiting events have the same sights in the same order. `Lockstep.step` says that both process their
oldest event with the same result and stay in lockstep, whatever numbers their switches draw, and
`Lockstep.run` that they do so for any number of events.
-/

namespace PmacFabric.FatTree

open Network (Ground)

/-- **Two networks that differ in the choices made only.** -/
structure Lockstep (k : Nat) (net net' : Network) : Prop where
  ground : net'.ground = net.ground
  size : net'.devices.size = net.devices.size
  stopAfter : net'.config.stopAfter = net.config.stopAfter
  horizon : net'.config.horizon = net.config.horizon
  handled : net'.handled = net.handled
  manager : net'.manager = net.manager
  hosts : ∀ id, net'.hostAt? id = net.hostAt? id
  edges : ∀ id switch switch', net.switchAt? id = some switch → net'.switchAt? id = some switch' →
    switch.tier = .edge →
    switch'.table = switch.table ∧ ∀ gauge, switch'.reading gauge = switch.reading gauge
  tallies : ∀ select gauge, net'.tally select gauge = net.tally select gauge
  queue : net'.queue.toList.map (sight k) = net.queue.toList.map (sight k)

namespace Lockstep

variable {k : Nat} {net net' : Network}

/-- Runs in lockstep have the same budget. -/
theorem budget (lock : Lockstep k net net') : net'.budget = net.budget := by
  rw [Network.budget, Network.budget, lock.stopAfter, lock.horizon]

/-- Networks in lockstep are paired. -/
theorem paired (lock : Lockstep k net net') : Paired net net' :=
  ⟨lock.ground, fun here here' edge => (lock.edges _ _ _ here here' edge).1⟩

/-- Switches of one number are of one tier. -/
theorem tier (lock : Lockstep k net net') {id : DeviceId} {switch switch' : Switch}
    (here : net.switchAt? id = some switch) (here' : net'.switchAt? id = some switch') :
    switch'.tier = switch.tier := by
  have outline := Network.ground_outline here'
  rw [lock.ground, Network.ground_outline here] at outline
  have outline : switch.outline = switch'.outline := Option.some.inj outline
  exact (congrArg (fun o => o.identity.tier) outline).symm

/-! ## What devices do -/

/-- A switch that has the site of an edge switch has its number. -/
theorem eq_of_edge (lock : Lockstep k net net') (fabric : Fabric k net.ground) {id id' : DeviceId}
    {switch switch' : Switch} (here : net.switchAt? id = some switch)
    (here' : net'.switchAt? id' = some switch') (kin : switch.Kin switch')
    (edge : switch.tier = .edge) : id' = id := by
  have site := kin.site (fun _ => 0) fun _ => 0
  have fabric' : Fabric k net'.ground := lock.ground ▸ fabric
  have same : switch'.id = switch.id := (site.edge edge).1
  rw [fabric.number here, fabric'.number here'] at same
  exact same

/-- Outcomes of twins keep networks in lockstep. -/
theorem applySwitch (lock : Lockstep k net net') (fabric : Fabric k net.ground)
    {id id' : DeviceId} {switch switch' : Switch} {outcome outcome' : Switch.Outcome}
    (here : net.switchAt? id = some switch) (here' : net'.switchAt? id' = some switch')
    (kin : switch.Kin switch') (abreast : Abreast k switch switch' outcome outcome')
    (ground : (net.applySwitch id outcome).ground = net.ground)
    (ground' : (net'.applySwitch id' outcome').ground = net'.ground) :
    Lockstep k (net.applySwitch id outcome) (net'.applySwitch id' outcome') := by
  have site := kin.site (fun _ => 0) fun _ => 0
  obtain ⟨gain, grows⟩ := abreast.gains
  have number : switch.tier = .edge → id' = id := lock.eq_of_edge fabric here here' kin
  refine ⟨?_, ?_, lock.stopAfter, lock.horizon, lock.handled, abreast.manager, ?_, ?_, ?_, ?_⟩
  · rw [ground, ground', lock.ground]
  · show (Array.setIfInBounds _ _ _).size = (Array.setIfInBounds _ _ _).size
    rw [Array.size_setIfInBounds, Array.size_setIfInBounds, lock.size]
  · intro key
    show (net'.setSwitch id' outcome'.switch).hostAt? key = (net.setSwitch id outcome.switch).hostAt? key
    rw [Network.hostAt?_setSwitch here, Network.hostAt?_setSwitch here', lock.hosts]
  · intro key own own' found found' edge
    have found : (net.setSwitch id outcome.switch).switchAt? key = some own := found
    have found' : (net'.setSwitch id' outcome'.switch).switchAt? key = some own' := found'
    rw [Network.switchAt?_setSwitch here] at found
    rw [Network.switchAt?_setSwitch here'] at found'
    by_cases changed : id = key
    · subst changed
      rw [if_pos rfl] at found
      cases found
      have edge : switch.tier = .edge :=
        (congrArg (fun o => o.identity.tier) abreast.outline).symm.trans edge
      cases number edge
      rw [if_pos rfl] at found'
      cases found'
      refine ⟨abreast.table edge, fun gauge => ?_⟩
      rw [(grows gauge).1, (grows gauge).2, (lock.edges _ _ _ here here' edge).2]
    · rw [if_neg changed] at found
      by_cases changed' : id' = key
      · subst changed'
        have edge' : switch'.tier = .edge := (lock.tier found here').trans edge
        have same : switch'.tier = switch.tier := site.tier
        exact absurd (number (same.symm.trans edge')).symm changed
      · rw [if_neg changed'] at found'
        exact lock.edges key own own' found found' edge
  · intro select gauge
    show (net'.setSwitch id' outcome'.switch).tally select gauge =
      (net.setSwitch id outcome.switch).tally select gauge
    have tier : switch'.tier = switch.tier := site.tier
    have pod : switch'.identity.pod = switch.identity.pod := site.pod
    rw [Network.tally_setSwitch here abreast.outline (grows gauge).1,
      Network.tally_setSwitch here' abreast.outline' (grows gauge).2, lock.tallies, tier, pod]
  · show ((net'.queue.pushAll _).toList).map (sight k) = ((net.queue.pushAll _).toList).map (sight k)
    rw [EventQueue.toList_pushAll, EventQueue.toList_pushAll, List.map_append, List.map_append,
      lock.queue, abreast.events]

/-- A host that does the same in both networks keeps them in lockstep. -/
theorem setHost (lock : Lockstep k net net') {id : DeviceId} {old host : Host}
    (here : net.hostAt? id = some old) (card : host.card = old.card) (events : List Event) :
    Lockstep k ((net.setHost id host).enqueue events) ((net'.setHost id host).enqueue events) := by
  have here' : net'.hostAt? id = some old := (lock.hosts id).trans here
  refine ⟨?_, ?_, lock.stopAfter, lock.horizon, lock.handled, lock.manager, ?_, ?_, ?_, ?_⟩
  · rw [Network.ground_setHost here card, Network.ground_setHost here' card, lock.ground]
  · show (Array.setIfInBounds _ _ _).size = (Array.setIfInBounds _ _ _).size
    rw [Array.size_setIfInBounds, Array.size_setIfInBounds, lock.size]
  · intro key
    show (net'.setHost id host).hostAt? key = (net.setHost id host).hostAt? key
    rw [Network.hostAt?_setHost here, Network.hostAt?_setHost here', lock.hosts]
  · intro key own own' found found' edge
    exact lock.edges key own own' ((Network.switchAt?_setHost here host key).symm.trans found)
      ((Network.switchAt?_setHost here' host key).symm.trans found') edge
  · intro select gauge
    show (net'.setHost id host).tally select gauge = (net.setHost id host).tally select gauge
    rw [Network.tally_setHost here, Network.tally_setHost here', lock.tallies]
  · show ((net'.queue.pushAll _).toList).map (sight k) = ((net.queue.pushAll _).toList).map (sight k)
    rw [EventQueue.toList_pushAll, EventQueue.toList_pushAll, List.map_append, List.map_append,
      lock.queue]

/-! ## Events -/

/-- **Events of one sight are handled alike.** -/
theorem deliver (lock : Lockstep k net net') (sane : Sane k net) {event event' : Event}
    (sound : Sound k net.ground net.manager.directory event)
    (sound' : Sound k net.ground net.manager.directory event')
    (same : sight k event' = sight k event) :
    (net'.deliver event').1 = (net.deliver event).1 ∧
      Lockstep k (net.deliver event).2 (net'.deliver event').2 := by
  have ground := net.ground_deliver event
  have ground' := net'.ground_deliver event'
  cases event with
  | control id message =>
    cases event' with
    | frame => cases same
    | control id' message' =>
      cases same
      cases sound with
      | @ordered seat target c hs known hc =>
        obtain ⟨switch, switch', here, here', -, -, twins⟩ :=
          lock.paired.twins_core sane.fabric hc hc
        rw [Network.deliver_control here, Network.deliver_control here'] at *
        refine ⟨rfl, lock.applySwitch sane.fabric here here' twins.kin ?_ ground ground'⟩
        rw [lock.manager]
        exact twins.receiveMessage _ _ _ _
  | frame target frame =>
    cases event' with
    | control => cases same
    | frame target' frame' =>
      obtain ⟨stops, rfl⟩ : Stop.ofEndpoint k target' = Stop.ofEndpoint k target ∧ frame' = frame :=
        Sight.frame.inj same
      obtain ⟨stop, waits, inside⟩ := sound.waits
      obtain ⟨stop', waits', -⟩ := sound'.waits
      obtain rfl : stop' = stop := by rw [← waits.stop, ← waits'.stop, stops]
      by_cases outside : ∃ id, stop' = .host id
      · obtain ⟨id, rfl⟩ := outside
        obtain ⟨number, card, found⟩ := waits.of_host
        obtain ⟨host, here, -⟩ := Option.map_eq_some_iff.mp found
        have here' : net'.hostAt? id = some host := (lock.hosts id).trans here
        obtain ⟨_, port⟩ := target
        obtain ⟨_, port'⟩ := target'
        cases number
        cases waits'.of_host.1
        rw [Network.deliver_to_host here, Network.deliver_to_host here']
        exact ⟨rfl, lock.setHost here (host.card_receive frame') _⟩
      · have other := inside.resolve_left outside
        obtain ⟨switch, switch', here, here', twins, ports, has, has'⟩ :=
          lock.paired.twins sane.fabric waits waits' fun id isHost => outside ⟨id, isHost⟩
        obtain ⟨id, port⟩ := target
        obtain ⟨id', port'⟩ := target'
        rw [Network.deliver_to_switch here, Network.deliver_to_switch here'] at *
        refine ⟨rfl, lock.applySwitch sane.fabric here here' twins.kin ?_ ground ground'⟩
        rw [lock.manager]
        exact twins.receive _ _ _ ports has has' other

/-! ## Runs -/

/-- The next event, taken and counted in both networks. -/
theorem took (lock : Lockstep k net net') {rest rest' : EventQueue}
    (queue : rest'.toList.map (sight k) = rest.toList.map (sight k)) :
    Lockstep k (took net rest) (took net' rest') :=
  { lock with
    handled := congrArg (· + 1) lock.handled
    queue }

/-- **Networks in lockstep process their oldest events alike**, and stay in lockstep. -/
theorem step (lock : Lockstep k net net') (legit : Legit k net) (legit' : Legit k net') :
    net.step = none ∧ net'.step = none ∨
      ∃ next next', net.step = some (.ok (), next) ∧ net'.step = some (.ok (), next') ∧
        Legit k next ∧ Legit k next' ∧ Lockstep k next next' := by
  have queue := lock.queue
  rcases legit.step with ⟨empty, stuck⟩ | ⟨next, event, rest, _, _, _, done, steps, after⟩ <;>
    rcases legit'.step with ⟨empty', stuck'⟩ | ⟨next', event', rest', _, _, _, done', steps', after'⟩
  · exact .inl ⟨stuck, stuck'⟩
  · rw [empty, steps'.queue] at queue
    cases queue
  · rw [empty', steps.queue] at queue
    cases queue
  · rw [steps.queue, steps'.queue] at queue
    obtain ⟨first, later⟩ := List.cons.inj queue
    have sound' : Sound k net.ground net.manager.directory event' := by
      have sound := steps'.sound
      rwa [lock.ground, lock.manager] at sound
    have delivered := ((lock.took later).deliver (legit.toSane.took rest) steps.sound sound' first).2
    rw [steps.delivered, steps'.delivered] at delivered
    exact .inr ⟨next, next', done, done', after, after', delivered⟩

/-- **Networks in lockstep run alike**, for any number of events. -/
theorem run (n : Nat) {net net' : Network} (lock : Lockstep k net net') (legit : Legit k net)
    (legit' : Legit k net') :
    (Network.run n net').1 = (Network.run n net).1 ∧
      Lockstep k (Network.run n net).2 (Network.run n net').2 := by
  induction n generalizing net net' with
  | zero =>
    have waiting : net'.queue.isEmpty = net.queue.isEmpty := by
      rw [Bool.eq_iff_iff, EventQueue.isEmpty_iff, EventQueue.isEmpty_iff, ← List.map_eq_nil_iff,
        lock.queue, List.map_eq_nil_iff]
    unfold Network.run
    rw [waiting]
    split
    · exact ⟨rfl, lock⟩
    · exact ⟨rfl, lock⟩
  | succ n ih =>
    unfold Network.run
    rcases lock.step legit legit' with
      ⟨stuck, stuck'⟩ | ⟨next, next', done, done', after, after', still⟩
    · rw [stuck, stuck']
      exact ⟨rfl, lock⟩
    · rw [done, done']
      exact ih still after after'

/-- **Settling keeps networks in lockstep**, with the same result. -/
theorem settle (lock : Lockstep k net net') (legit : Legit k net) (legit' : Legit k net') :
    net'.settle.1 = net.settle.1 ∧ Lockstep k net.settle.2 net'.settle.2 := by
  unfold Network.settle
  rw [lock.budget]
  exact lock.run _ legit legit'

end Lockstep

end PmacFabric.FatTree
