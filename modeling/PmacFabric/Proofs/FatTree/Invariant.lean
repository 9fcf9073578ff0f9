import PmacFabric.Proofs.FatTree.Delivery

/-!
# Legitimate states stay legitimate

A reaction keeps a network sane and raises only sound events, so a legitimate state is followed by
legitimate states only: **`Legit.step`** for one event, `Legit.run` for many. No event of such a run
fails, so a run ends well or at the end of its budget.
-/

namespace PmacFabric.FatTree

open Network (Ground)

/-! ## Hosts -/

namespace SaneHost

variable {k : Nat} {ground : Ground} {directory : Directory} {host : Host}

/-- A host that counts an arrival stays sane. -/
theorem countReceived (h : SaneHost k ground directory host) :
    SaneHost k ground directory host.countReceived :=
  ⟨h.cached, h.waiting, h.inbox⟩

/-- A host that counts what it has sent stays sane. -/
theorem countSent (h : SaneHost k ground directory host) (n : Nat) :
    SaneHost k ground directory (host.countSent n) :=
  ⟨h.cached, h.waiting, h.inbox⟩

/-- A host that counts an answer stays sane. -/
theorem countAnswered (h : SaneHost k ground directory host) :
    SaneHost k ground directory host.countAnswered :=
  ⟨h.cached, h.waiting, h.inbox⟩

/-- A host that counts questions stays sane. -/
theorem countAsked (h : SaneHost k ground directory host) (n : Nat) :
    SaneHost k ground directory (host.countAsked n) :=
  ⟨h.cached, h.waiting, h.inbox⟩

/-- A host stays sane with a packet that is for it and comes from a seat. -/
theorem push (h : SaneHost k ground directory host) {packet : Ipv4Packet}
    (own : packet.dst = host.ip) (src : ∃ seat : Seat, Sits k ground seat ∧ seat.ip = packet.src) :
    SaneHost k ground directory { host with inbox := host.inbox.push packet } := by
  refine ⟨h.cached, h.waiting, ?_⟩
  intro other mem
  rcases Array.mem_push.mp mem with old | rfl
  · exact h.inbox other old
  · exact ⟨own, src⟩

/-- A host stays sane when it learns where a registered seat is. -/
theorem knowing (h : SaneHost k ground directory host) {seat : Seat} (sits : Sits k ground seat)
    (known : Registered directory seat) :
    SaneHost k ground directory (host.knowing seat.ip seat.pmac.mac) := by
  have resolve : ∀ ip, (host.knowing seat.ip seat.pmac.mac).resolve? ip =
      if seat.ip = ip then some seat.pmac.mac else host.resolve? ip := by
    intro ip
    simp only [Host.resolve?, Host.knowing, Std.TreeMap.getElem?_insert, Std.compare_eq_iff_eq]
  refine ⟨fun {ip mac} found => ?_, fun {ip items} found => ?_, h.inbox⟩
  · rw [resolve] at found
    split at found
    · rename_i own
      exact ⟨seat, sits, known, own, (Option.some.inj found).symm⟩
    · exact h.cached found
  · have found : (host.pending.erase seat.ip)[ip]? = some items := found
    rw [Std.TreeMap.getElem?_erase] at found
    split at found
    · cases found
    · rename_i apart
      obtain ⟨some_items, unknown⟩ := h.waiting found
      have apart : seat.ip ≠ ip := fun same => apart (Std.compare_eq_iff_eq.mpr same)
      exact ⟨some_items, by rw [resolve, if_neg apart, unknown]⟩

end SaneHost

/-! ## One reaction -/

section Reaction

variable {k : Nat} {net net' : Network} {event : Event} {who : Option Seat}
  {hosts : DeviceId → Option Host} {events : List Event}

/-- Only seats register. -/
theorem Reaction.sits_who (reaction : Reaction k net event who hosts events) {seat : Seat}
    (registers : who = some seat) : Sits k net.ground seat := by
  cases reaction with
  | enter hs => cases registers; exact hs
  | miss hs => cases registers; exact hs
  | _ => cases registers

/-- **An event takes nothing back**: the ground stays and the directory only grows. -/
theorem Changed.extends (changed : Changed k net net' who hosts events) (sane : Sane k net)
    (reaction : Reaction k net event who hosts events) :
    Extends k net.ground net.manager.directory net'.ground net'.manager.directory := by
  refine ⟨fun {seat} sits => changed.ground ▸ sits, fun {seat} known => ?_⟩
  rw [changed.directory]
  cases who with
  | none => exact known
  | some newcomer => exact known.enrol sane.directory sane.housed (reaction.sits_who rfl)

/-- Hosts stay sane. -/
theorem Reaction.sane_hosts (reaction : Reaction k net event who hosts events) (sane : Sane k net)
    {id : DeviceId} {host : Host} (here : hosts id = some host) :
    SaneHost k net.ground net.manager.directory host := by
  have written : ∀ {id id' : DeviceId} {new host : Host},
      SaneHost k net.ground net.manager.directory new → withHost net id' new id = some host →
      SaneHost k net.ground net.manager.directory host := by
    intro id id' new host hnew here
    unfold withHost at here
    split at here
    · exact Option.some.inj here ▸ hnew
    · exact sane.hosts here
  cases reaction with
  | enter => exact sane.hosts here
  | miss => exact sane.hosts here
  | hop => exact sane.hosts here
  | order => exact sane.hosts here
  | fan => exact sane.hosts here
  | offer => exact sane.hosts here
  | data hs hd known known' old =>
    obtain ⟨_, there, card⟩ := hd.host
    cases old.symm.trans there
    have own := congrArg Host.Card.ip card
    exact written ((sane.hosts old).countReceived.push own.symm ⟨_, hs, rfl⟩) here
  | answered hs hd known known' old =>
    exact written (((sane.hosts old).countReceived.knowing hs known).countSent _) here
  | asked hs hd known _ old =>
    exact written (((sane.hosts old).countReceived.knowing hs known).countSent _).countAnswered here
  | ignored hs hd known other old => exact written (sane.hosts old).countReceived here

/-- **A reaction keeps a network sane.** -/
theorem Changed.sane (changed : Changed k net net' who hosts events) (sane : Sane k net)
    (reaction : Reaction k net event who hosts events) : Sane k net' := by
  have ext := changed.extends sane reaction
  refine ⟨changed.ground ▸ sane.fabric, changed.ground ▸ sane.housed, fun {ip pmac} found => ?_,
    fun {id memory} found => ?_, fun {id host} here => ?_⟩
  · rw [changed.directory] at found
    cases who with
    | none =>
      obtain ⟨seat, sits, own, shown⟩ := sane.directory found
      exact ⟨seat, ext.sits sits, own, shown⟩
    | some newcomer =>
      have found : (enrolled net.manager.directory newcomer)[ip]? = some pmac := found
      rw [getElem?_enrolled] at found
      split at found
      · rename_i own
        exact ⟨newcomer, ext.sits (reaction.sits_who rfl), own, (Option.some.inj found).symm⟩
      · obtain ⟨seat, sits, own, shown⟩ := sane.directory found
        exact ⟨seat, ext.sits sits, own, shown⟩
  · rw [changed.memory] at found
    obtain ⟨old, before, rfl⟩ := Option.map_eq_some_iff.mp found
    obtain ⟨rolled, empty⟩ := sane.tables before
    rw [changed.ground, changed.directory]
    cases who with
    | none => exact ⟨rolled, empty⟩
    | some newcomer =>
      exact ⟨rolled.enrol (le_of_accepts sane.fabric.accepted) sane.housed (reaction.sits_who rfl),
        (inbox_enrolMemory _ _ _ _).trans empty⟩
  · rw [changed.hosts] at here
    exact (reaction.sane_hosts sane here).extend ext

/-- **The events of a reaction are sound.** -/
theorem Changed.sound (changed : Changed k net net' who hosts events) (sane : Sane k net)
    (reaction : Reaction k net event who hosts events) :
    ∀ raised ∈ events, Sound k net'.ground net'.manager.directory raised := by
  rw [changed.ground, changed.directory]
  have answers : ∀ {seat dest : Seat} {host : Host} {raised : Event}, Sits k net.ground seat →
      Sits k net.ground dest → Registered net.manager.directory seat →
      raised ∈ released k dest host seat →
      Sound k net.ground net.manager.directory raised := by
    intro seat dest host raised hs hd known mem
    obtain ⟨bytes, _, rfl⟩ := List.mem_map.mp mem
    exact .addressed hd hs known rfl
  intro raised mem
  cases reaction with
  | enter hs hd known bound way hops =>
    cases List.mem_singleton.mp mem
    exact .carried hs hd (registered_enrolled _ _) known bound way
  | miss hs unknown =>
    obtain ⟨c, hc, rfl⟩ := List.mem_map.mp mem
    exact .ordered hs (registered_enrolled _ _) (List.mem_range.mp hc)
  | hop hs hd known known' bound way later =>
    cases List.mem_singleton.mp mem
    exact .carried hs hd known known' bound later
  | order hs known ha hi =>
    obtain ⟨pod, hp, rfl⟩ := List.mem_map.mp mem
    exact .spreading hs known (.pod (List.mem_range.mp hp) ha hi)
  | fan hs known hp ha hi =>
    obtain ⟨e, he, rfl⟩ := List.mem_map.mp mem
    exact .spreading hs known (.edge hp (List.mem_range.mp he) ha)
  | offer hs known hp he hj =>
    obtain ⟨i, _, offered⟩ := List.mem_filterMap.mp mem
    obtain ⟨line, linked, rfl⟩ := Option.map_eq_some_iff.mp offered
    obtain ⟨dest, hd, _, rfl⟩ := sane.housed.attached hp he linked
    exact .spreading hs known (.host hd)
  | data => cases mem
  | answered hs hd known => exact answers hs hd known mem
  | asked hs hd known =>
    rcases List.mem_append.mp mem with old | last
    · exact answers hs hd known old
    · cases List.mem_singleton.mp last
      exact .addressed hd hs known rfl
  | ignored => cases mem

end Reaction

/-! ## One event -/

/-- The network when the oldest event has been taken and counted. -/
def took (net : Network) (rest : EventQueue) : Network :=
  { net with queue := rest, handled := net.handled + 1 }

/-- Taking an event from the queue keeps a network sane. -/
theorem Sane.took {k : Nat} {net : Network} (sane : Sane k net) (rest : EventQueue) :
    Sane k (took net rest) :=
  ⟨sane.fabric, sane.housed, sane.directory, sane.tables, sane.hosts⟩

/-- How a legitimate network processes its oldest event. -/
structure Steps (k : Nat) (net net' : Network) (event : Event) (rest : EventQueue)
    (who : Option Seat) (hosts : DeviceId → Option Host) (events : List Event) : Prop where
  queue : net.queue.toList = event :: rest.toList
  sound : Sound k net.ground net.manager.directory event
  delivered : (took net rest).deliver event = (.ok (), net')
  changed : Changed k (took net rest) net' who hosts events
  reaction : Reaction k (took net rest) event who hosts events

/-- **A legitimate network processes its oldest event without an error, and stays legitimate.** -/
theorem Legit.step {k : Nat} {net : Network} (legit : Legit k net) :
    (net.queue.toList = [] ∧ net.step = none) ∨
      ∃ net' event rest who hosts events, net.step = some (.ok (), net') ∧
        Steps k net net' event rest who hosts events ∧ Legit k net' := by
  cases taken : net.queue.pop? with
  | none =>
    refine .inl ⟨EventQueue.pop?_eq_none_iff.mp taken, ?_⟩
    simp only [Network.step, taken]
  | some popped =>
    obtain ⟨event, rest⟩ := popped
    have queue := EventQueue.toList_of_pop?_eq_some taken
    have sound := legit.queued event (queue ▸ List.mem_cons_self)
    have sane := legit.toSane.took rest
    obtain ⟨who, hosts, events, net', done, changed, reaction⟩ := deliver_of_sound sane sound
    refine .inr ⟨net', event, rest, who, hosts, events, ?_, ⟨queue, sound, done, changed, reaction⟩, ?_⟩
    · have recorded : Network.record { net with queue := rest } event =
          .ok { net with queue := rest } := by
        simp only [Network.record, legit.silent]
      simp only [Network.step, taken, recorded]
      exact congrArg some done
    · refine ⟨changed.sane sane reaction, ?_, changed.trace.trans legit.silent⟩
      intro waiting mem
      rw [changed.queue] at mem
      rcases List.mem_append.mp mem with old | new
      · have before := legit.queued waiting (queue ▸ List.mem_cons_of_mem _ old)
        exact before.extend (changed.extends sane reaction)
      · exact changed.sound sane reaction waiting new

/-! ## Runs -/

/-- **Whatever single events preserve holds after a run**, and the run ends with an empty queue or at
the end of its budget. -/
theorem Legit.run {k : Nat} {P : Network → Prop}
    (preserved : ∀ {net net' event rest who hosts events}, Legit k net → P net →
      Steps k net net' event rest who hosts events → Legit k net' → P net')
    (n : Nat) {net : Network} (legit : Legit k net) (start : P net) :
    Legit k (Network.run n net).2 ∧ P (Network.run n net).2 ∧
      ((Network.run n net).1 = .ok () ∧ (Network.run n net).2.queue.toList = [] ∨
        (Network.run n net).1 = .error .noConvergence ∧
          (Network.run n net).2.handled = net.handled + n) := by
  induction n generalizing net with
  | zero =>
    unfold Network.run
    split
    · rename_i empty
      exact ⟨legit, start, .inl ⟨rfl, EventQueue.isEmpty_iff.mp empty⟩⟩
    · exact ⟨legit, start, .inr ⟨rfl, rfl⟩⟩
  | succ n ih =>
    rcases legit.step with ⟨empty, stuck⟩ | ⟨net', event, rest, who, hosts, events, done, steps, after⟩
    · have same : Network.run (n + 1) net = (.ok (), net) := by simp only [Network.run, stuck]
      rw [same]
      exact ⟨legit, start, .inl ⟨rfl, empty⟩⟩
    · obtain ⟨still, holds, ends⟩ := ih after (preserved legit start steps after)
      have same : Network.run (n + 1) net = Network.run n net' := by simp only [Network.run, done]
      rw [same]
      refine ⟨still, holds, ends.imp_right fun ⟨out, counted⟩ => ⟨out, ?_⟩⟩
      have one : net'.handled = net.handled + 1 := steps.changed.handled
      rw [counted, one]
      omega

end PmacFabric.FatTree
