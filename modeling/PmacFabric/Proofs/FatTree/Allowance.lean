import PmacFabric.Proofs.FatTree.Populated
import PmacFabric.Proofs.FatTree.Toll
import PmacFabric.Proofs.Network.Guarded

/-!
# How far the default budget goes

With the default configuration one operation may process 100000 events. What a host posts for
another host of a complete fat-tree costs fewer than 25 events if that host is found without a
flood, and between `missCost` and `missToll` events otherwise. The default lies above both bounds up
to parameter 16, and below both from 18 on.

**`default_budget_suffices`** tells from this how every sending between hosts ends, as long as all
sendings before it have ended well.
-/

namespace PmacFabric.FatTree

open Network (Ground)

/-! ## The first event of a question -/

section Asking

variable {k n : Nat} {net : Network} {seat : Seat} {asked : Ipv4Address}

/-- The question of a host, at its edge switch. -/
def asking (k : Nat) (seat : Seat) (asked : Ipv4Address) : Event :=
  .frame (seat.uplink k) ((Letter.question asked).frame seat.amac seat.ip .broadcast)

/-- **A question enters the fabric if somebody is known who can answer it, and has all core switches
flood it otherwise.** -/
theorem Reaction.of_asking {event : Event} {who : Option Seat} {hosts : DeviceId → Option Host}
    {events : List Event} (reaction : Reaction k net event who hosts events)
    (hs : Sits k net.ground seat) (here : event = asking k seat asked) :
    (∃ (dest : Seat) (letter : Letter) (n : Nat) (target : Endpoint),
        Sits k net.ground dest ∧ letter.dst = dest.ip ∧
        Registered (enrolled net.manager.directory seat) dest ∧ dest.ip = asked ∧
        OnWay k seat dest n target ∧
        events = [.frame target (letter.frame seat.pmac.mac seat.ip (dest.address n))]) ∨
      (enrolled net.manager.directory seat)[asked]? = none ∧
        events = (List.range (k / 2 * (k / 2))).map fun c =>
          .control (coreId k c) (.arpFlood asked seat.ip seat.pmac) := by
  cases reaction with
  | @enter other dest letter dst n target ho hd known bound way =>
    obtain ⟨port, same⟩ := Event.frame.injEq .. ▸ here
    cases ho.eq_of_uplink hs port
    have ips := congrArg (fun frame => frame.headers.ips) same
    rw [Letter.ips_frame, Letter.ips_frame] at ips
    have own : letter.dst = asked := (Prod.mk.inj (Option.some.inj ips)).2
    exact .inl ⟨dest, letter, n, target, hd, bound, known, bound.symm.trans own, way, rfl⟩
  | @miss other question ho unknown =>
    obtain ⟨port, same⟩ := Event.frame.injEq .. ▸ here
    cases ho.eq_of_uplink hs port
    have ips := congrArg (fun frame => frame.headers.ips) same
    rw [Letter.ips_frame, Letter.ips_frame] at ips
    cases (Prod.mk.inj (Option.some.inj ips)).2
    exact .inr ⟨unknown, rfl⟩
  | hop _ _ _ _ _ way =>
    obtain ⟨port, -⟩ := Event.frame.injEq .. ▸ here
    exact absurd port (way.ne_below hs.within.1 hs.within.2.1)
  | order => cases here
  | _ =>
    -- All others wait at upper ports.
    obtain ⟨port, -⟩ := Event.frame.injEq .. ▸ here
    cases congrArg Endpoint.port port

/-- A run within the toll of its queue ends well. -/
theorem Legit.run_ok_of_toll (legit : Legit k net) (brief : Brief k net)
    (enough : totalOf (toll k net.ground) net.queue.toList < n) :
    (Network.run n net).1 = .ok () := by
  refine @Legit.run_ok k n net (fun now => Brief k now ∧ now.ground = net.ground)
    (toll k net.ground) ?_ legit ⟨brief, rfl⟩ enough
  intro now next event rest who hosts events before ⟨brief, same⟩ steps
  have pays := steps.reaction.toll_lt (before.toSane.took rest) brief
  rw [show (took now rest).ground = net.ground from same] at pays
  exact ⟨⟨brief.step steps, steps.changed.ground.trans same⟩, pays⟩

/-- In a complete fat-tree a run that is short of the copies owed stops before its end. -/
theorem Legit.run_exhausted_of_owed (legit : Legit k net) (complete : Complete k net.ground)
    (short : n < totalOf (owed k) net.queue.toList) :
    (Network.run n net).1 = .error .noConvergence := by
  refine @Legit.run_exhausted k n net (fun now => now.ground = net.ground) (owed k) ?_ legit rfl
    short
  intro now next event rest who hosts events _ same steps
  exact ⟨steps.changed.ground.trans same, steps.reaction.owed_le (same ▸ complete)⟩

/-- **How the run of a single question begins**: with a letter that is cheap, or with all floods. -/
theorem Legit.exists_asked (legit : Legit k net) (hs : Sits k net.ground seat)
    (queue : net.queue.toList = [asking k seat asked]) :
    ∃ net', (∀ n, Network.run (n + 1) net = Network.run n net') ∧ Legit k net' ∧
      (Brief k net → Brief k net') ∧ net'.ground = net.ground ∧
      ((enrolled net.manager.directory seat)[asked]? ≠ none ∧
          totalOf (toll k net'.ground) net'.queue.toList < 24 ∨
        (enrolled net.manager.directory seat)[asked]? = none ∧
          missCost k ≤ totalOf (owed k) net'.queue.toList) := by
  rcases legit.step with ⟨empty, -⟩ | ⟨net', event, rest, who, hosts, events, done, steps, after⟩
  · cases queue.symm.trans empty
  · obtain ⟨here, alone⟩ := List.cons.inj (queue.symm.trans steps.queue)
    have ground : net'.ground = net.ground := steps.changed.ground
    have raised : net'.queue.toList = events := by
      rw [steps.changed.queue]
      show rest.toList ++ events = events
      rw [← alone, List.nil_append]
    refine ⟨net', fun n => by simp only [Network.run, done], after,
      fun brief => brief.step steps, ground, ?_⟩
    rw [raised, ground]
    rcases steps.reaction.of_asking hs here.symm with
      ⟨dest, letter, n, target, hd, bound, known, rfl, way, rfl⟩ | ⟨unknown, rfl⟩
    · refine .inl ⟨fun nobody => ?_, ?_⟩
      · cases nobody.symm.trans known
      · have half : 0 < k / 2 := by
          have := two_le_of_accepts legit.fabric.accepted
          omega
        have near := dataCost_onWay half hs hd way
        have extra := Letter.surcharge_le letter
        rw [totalOf_cons, totalOf_nil, toll_onWay hs hd bound way]
        omega
    · exact .inr ⟨unknown, owed_orders seat asked⟩

end Asking

/-! ## Sendings -/

section Sending

variable {k n : Nat} {log : List Ipv4Packet} {tree : FatTree} {net : Network}
  {operation : Operation} {seat dest : Seat} {bytes : Bytes}

/-- A bound on the events of a question. -/
def missToll (k : Nat) : Nat := 24 + k / 2 * (k / 2) * (floodCost k + 18)

/-- What a host of a settled fat-tree posts for another host: data, or a single question. -/
theorem Settled.posted_cases (settled : Settled k log tree) (hs : Sits k tree.net.ground seat)
    (hd : Sits k tree.net.ground dest) (shape : operation = .send seat.id dest.ip bytes)
    (posted : post tree.net operation = some net) :
    Legit k net ∧ net.ground = tree.net.ground ∧
      net.manager.directory = tree.net.manager.directory ∧
      (Registered tree.net.manager.directory dest ∧
          totalOf (toll k net.ground) net.queue.toList = 6 ∨
        net.queue.toList = [asking k seat dest.ip]) := by
  obtain ⟨-, legit, -⟩ := settled.reached.legit
  obtain ⟨poster, host, events, posts, rfl⟩ := post_cases legit.toSane posted
  have changed := posts.changed
  refine ⟨posts.legit legit, changed.ground, changed.directory, ?_⟩
  rw [changed.queue, changed.ground, settled.quiet, List.nil_append]
  cases posts with
  | data hp hd' known =>
    obtain ⟨number, same, -⟩ := Operation.send.inj shape
    cases hp.eq_of_id hs number
    cases legit.housed.eq_of_ip hd' hd same
    refine .inl ⟨known, ?_⟩
    rw [totalOf_cons, totalOf_nil, toll_uplink hs]
    rfl
  | first hp =>
    obtain ⟨number, rfl, -⟩ := Operation.send.inj shape
    cases hp.eq_of_id hs number
    exact .inr rfl
  | more hp here _ waits =>
    -- Nothing waits for a seat in a settled fat-tree.
    obtain ⟨number, rfl, -⟩ := Operation.send.inj shape
    cases hp.eq_of_id hs number
    have empty := settled.resolved hs hd
    rw [waiting, here, Option.elim_some] at empty
    exact absurd empty waits
  | again => cases shape

/-- **A sending whose question is answered at once ends well**, within 24 events. -/
theorem Settled.run_found (settled : Settled k log tree) (hs : Sits k tree.net.ground seat)
    (hd : Sits k tree.net.ground dest) (shape : operation = .send seat.id dest.ip bytes)
    (posted : post tree.net operation = some net)
    (found : (enrolled tree.net.manager.directory seat)[dest.ip]? ≠ none) (enough : 24 < n) :
    (Network.run n net).1 = .ok () := by
  obtain ⟨legit, ground, directory, ⟨-, six⟩ | queue⟩ := settled.posted_cases hs hd shape posted
  · exact legit.run_ok_of_toll (settled.brief posted) (by omega)
  · obtain ⟨net', runs, after, brief, -, ⟨-, cheap⟩ | ⟨unknown, -⟩⟩ :=
      legit.exists_asked (ground ▸ hs) queue
    · obtain ⟨m, rfl⟩ : ∃ m, n = m + 1 := ⟨n - 1, by omega⟩
      rw [runs]
      exact after.run_ok_of_toll (brief (settled.brief posted)) (by omega)
    · rw [directory] at unknown
      exact absurd unknown found

/-- **Every sending ends well with a budget above `missToll`.** -/
theorem Settled.run_within (settled : Settled k log tree) (hs : Sits k tree.net.ground seat)
    (hd : Sits k tree.net.ground dest) (shape : operation = .send seat.id dest.ip bytes)
    (posted : post tree.net operation = some net) (enough : missToll k < n) :
    (Network.run n net).1 = .ok () := by
  obtain ⟨legit, ground, -, ⟨-, six⟩ | queue⟩ := settled.posted_cases hs hd shape posted
  · refine legit.run_ok_of_toll (settled.brief posted) (Nat.lt_of_le_of_lt ?_ enough)
    unfold missToll
    omega
  · refine legit.run_ok_of_toll (settled.brief posted) (Nat.lt_of_le_of_lt ?_ enough)
    rw [queue, totalOf_cons, totalOf_nil, asking, toll_uplink (ground ▸ hs)]
    exact Nat.le_refl (missToll k)

/-- **A sending whose question is flooded stops with a budget up to `missCost`.** -/
theorem Settled.run_missed (settled : Settled k log tree) (complete : Complete k tree.net.ground)
    (hs : Sits k tree.net.ground seat) (hd : Sits k tree.net.ground dest)
    (shape : operation = .send seat.id dest.ip bytes) (posted : post tree.net operation = some net)
    (unknown : (enrolled tree.net.manager.directory seat)[dest.ip]? = none)
    (short : n ≤ missCost k) (some_budget : 0 < n) :
    (Network.run n net).1 = .error .noConvergence := by
  obtain ⟨legit, ground, directory, ⟨known, -⟩ | queue⟩ := settled.posted_cases hs hd shape posted
  · obtain ⟨-, before, -⟩ := settled.reached.legit
    have listed := known.enrol before.directory before.housed hs
    cases unknown.symm.trans listed
  · obtain ⟨net', runs, after, -, same, ⟨found, -⟩ | ⟨-, owes⟩⟩ :=
      legit.exists_asked (ground ▸ hs) queue
    · rw [directory] at found
      exact absurd unknown found
    · obtain ⟨m, rfl⟩ : ∃ m, n = m + 1 := ⟨n - 1, by omega⟩
      rw [runs]
      have complete' : Complete k net'.ground := by
        rw [same, ground]
        exact complete
      exact after.run_exhausted_of_owed complete' (by omega)

end Sending

/-! ## Sequences of sendings -/

/-- An operation by which a host sends to a host of the same network. -/
def Internal (net : Network) : Operation → Prop
  | .send id dst _ => (net.hostAt? id).isSome ∧ (net.hostOf? dst).isSome
  | _ => False

/-- Whether a host is found without a flood: by itself, or because the fabric manager knows it. -/
def Finds (net : Network) (id : DeviceId) (dst : Ipv4Address) : Prop :=
  (net.hostAt? id).map Host.ip = some dst ∨ net.manager.isRegistered dst = true

instance (net : Network) (id : DeviceId) (dst : Ipv4Address) : Decidable (Finds net id dst) :=
  inferInstanceAs (Decidable (_ ∨ _))

/-- Nothing is on its way, and nothing waits at a host. -/
structure Idle (net : Network) : Prop where
  queue : net.queue.toList = []
  pending : ∀ {id host}, net.hostAt? id = some host → ∀ ip, host.pendingFor ip = []

/-- A complete fat-tree after sendings between its hosts that have all ended well. -/
structure Rested (k : Nat) (start : Network) (log : List Ipv4Packet) (tree : FatTree) : Prop where
  settled : Settled k log tree
  complete : Complete k tree.net.ground
  ground : tree.net.ground = start.ground
  config : tree.net.config = start.config
  bound : ∀ packet ∈ log, ∃ seat : Seat, Sits k tree.net.ground seat ∧ seat.ip = packet.dst

/-- A sending inside the network leads from one seat to another. -/
theorem Internal.exists_seats {k : Nat} {net : Network} {operation : Operation}
    (internal : Internal net operation) (housed : Housed k net.ground) :
    ∃ seat dest bytes, Sits k net.ground seat ∧ Sits k net.ground dest ∧
      operation = .send seat.id dest.ip bytes := by
  cases operation with
  | send id dst bytes =>
    obtain ⟨sender, receiver⟩ := internal
    obtain ⟨host, here⟩ := Option.isSome_iff_exists.mp sender
    obtain ⟨peer, found⟩ := Option.isSome_iff_exists.mp receiver
    obtain ⟨id', there⟩ := Network.mem_hosts_iff.mp (List.mem_of_find?_eq_some found)
    have own : peer.ip = dst := by
      have shown := List.find?_some (show net.hosts.find? _ = some peer from found)
      exact of_decide_eq_true shown
    obtain ⟨seat, hs, rfl, -⟩ := housed.seated (Network.ground_card here)
    obtain ⟨dest, hd, -, card⟩ := housed.seated (Network.ground_card there)
    have same : peer.ip = dest.ip := congrArg Host.Card.ip card
    exact ⟨seat, dest, bytes, hs, hd, by rw [← same, own]⟩
  | _ => cases internal

/-- What a seat finds without a flood is known at its edge switch once it has sent something. -/
theorem finds_iff {k : Nat} {net : Network} {seat : Seat} (hs : Sits k net.ground seat)
    (dst : Ipv4Address) :
    Finds net seat.id dst ↔ (enrolled net.manager.directory seat)[dst]? ≠ none := by
  obtain ⟨host, here, card⟩ := hs.host
  have own : host.ip = seat.ip := congrArg Host.Card.ip card
  rw [Finds, here, Option.map_some, own, getElem?_enrolled, FabricManager.isRegistered,
    Std.TreeMap.contains_eq_isSome_getElem?, Option.some.injEq, Option.isSome_iff_ne_none]
  by_cases self : seat.ip = dst
  · simp only [self, true_or, if_true, ne_eq, reduceCtorEq, not_false_eq_true]
  · simp only [self, false_or, if_false]

section Rested

variable {k n : Nat} {start : Network} {log : List Ipv4Packet} {tree : FatTree}
  {operation : Operation}

/-- A fat-tree at rest is idle. -/
theorem Rested.idle (rested : Rested k start log tree) : Idle tree.net := by
  obtain ⟨-, legit, -⟩ := rested.settled.reached.legit
  refine ⟨rested.settled.quiet, fun {id host} here ip => ?_⟩
  rw [rested.settled.pendingFor here]
  split
  · rfl
  · rename_i nobody
    apply between_eq_nil
    rintro packet mem - rfl
    obtain ⟨seat, sits, own⟩ := rested.bound packet mem
    obtain ⟨receiver, there, -⟩ := sits.host
    rw [← own, legit.toSane.hostOf? sits there] at nobody
    exact absurd rfl nobody

/-- A sending that ends well leaves a fat-tree at rest. -/
theorem Rested.next {answer : Answer} (rested : Rested k start log tree)
    (internal : Internal start operation) (done : (tree.perform operation).1 = .ok answer) :
    Rested k start (log ++ handed tree.net operation) (tree.perform operation).2 := by
  obtain ⟨-, legit, -⟩ := rested.settled.reached.legit
  obtain ⟨seat, dest, bytes, hs, hd, rfl⟩ := internal.exists_seats (rested.ground ▸ legit.housed)
  rw [← rested.ground] at hs hd
  obtain ⟨settled, config, ground⟩ := rested.settled.of_perform_ok rfl done
  refine ⟨settled, ?_, ground.trans rested.ground, config.trans rested.config, ?_⟩
  · rw [ground]
    exact rested.complete
  · intro packet mem
    rw [ground]
    rcases List.mem_append.mp mem with old | new
    · exact rested.bound packet old
    · rw [handed_send hs] at new
      cases List.mem_singleton.mp new
      exact ⟨dest, hd, rfl⟩

/-- Sendings that all end well leave a fat-tree at rest. -/
theorem Rested.performAll {sends : List Operation} (rested : Rested k start log tree)
    (internal : ∀ send ∈ sends, Internal start send)
    (done : ∀ result ∈ (tree.performAll sends).1, ∃ answer, result = .ok answer) :
    ∃ log, Rested k start log (tree.performAll sends).2 := by
  induction sends generalizing log tree with
  | nil => exact ⟨log, rested⟩
  | cons send rest ih =>
    obtain ⟨answer, ended⟩ := done _ List.mem_cons_self
    have next := rested.next (internal send List.mem_cons_self) ended
    exact ih next (fun later mem => internal later (List.mem_cons_of_mem send mem))
      fun result mem => done result (List.mem_cons_of_mem _ mem)

/-- A sending is a posting and a run of the budget. -/
theorem Rested.exists_post (rested : Rested k start log tree)
    (limited : start.config.stopAfter = some n) {id : DeviceId} {dst : Ipv4Address} {bytes : Bytes}
    (internal : Internal start (.send id dst bytes)) :
    ∃ seat dest net answer, Sits k tree.net.ground seat ∧ Sits k tree.net.ground dest ∧
      id = seat.id ∧ dst = dest.ip ∧ post tree.net (.send id dst bytes) = some net ∧
      (tree.perform (.send id dst bytes)).1 =
        ((Network.run n net).1.mapError .network).map fun _ => answer := by
  obtain ⟨-, legit, -⟩ := rested.settled.reached.legit
  obtain ⟨seat, dest, _, hs, hd, shape⟩ := internal.exists_seats (rested.ground ▸ legit.housed)
  obtain ⟨rfl, rfl, rfl⟩ := Operation.send.inj shape
  rw [← rested.ground] at hs hd
  obtain ⟨host, here, -⟩ := hs.host
  obtain ⟨net, posted⟩ := FatTree.exists_post legit.toSane
    (show (Operation.send seat.id dest.ip bytes).sender? = some seat.id from rfl) here
  have budget : net.budget = n := by
    obtain ⟨poster, after, events, posts, rfl⟩ := post_cases legit.toSane posted
    rw [Network.budget, posts.changed.config, rested.config, limited]
    rfl
  rcases perform_send tree (.send seat.id dest.ip bytes) rfl with
    ⟨_, refused, _⟩ | ⟨_, answer, same, result⟩
  · cases refused.symm.trans posted
  · cases posted.symm.trans same
    refine ⟨seat, dest, net, answer, hs, hd, rfl, rfl, posted, ?_⟩
    rw [result, Network.settle, budget]

/-- **With enough events a sending ends well**, and few are enough if its receiver is found. -/
theorem Rested.send_ok (rested : Rested k start log tree)
    (limited : start.config.stopAfter = some n) {id : DeviceId} {dst : Ipv4Address} {bytes : Bytes}
    (internal : Internal start (.send id dst bytes))
    (enough : missToll k < n ∨ Finds tree.net id dst ∧ 24 < n) :
    ∃ answer, (tree.perform (.send id dst bytes)).1 = .ok answer := by
  obtain ⟨seat, dest, net, answer, hs, hd, rfl, rfl, posted, result⟩ :=
    rested.exists_post limited internal
  have done : (Network.run n net).1 = .ok () := by
    rcases enough with ample | ⟨finds, ample⟩
    · exact rested.settled.run_within hs hd rfl posted ample
    · exact rested.settled.run_found hs hd rfl posted ((finds_iff hs _).mp finds) ample
  rw [done] at result
  exact ⟨answer, result⟩

/-- **A sending stops before its end if its receiver is not found and its events are not enough for
the copies of the question.** -/
theorem Rested.send_exhausted (rested : Rested k start log tree)
    (limited : start.config.stopAfter = some n) {id : DeviceId} {dst : Ipv4Address} {bytes : Bytes}
    (internal : Internal start (.send id dst bytes)) (lost : ¬ Finds tree.net id dst)
    (short : n ≤ missCost k) (some_budget : 0 < n) :
    (tree.perform (.send id dst bytes)).1 = .error (.network .noConvergence) := by
  obtain ⟨seat, dest, net, answer, hs, hd, rfl, rfl, posted, result⟩ :=
    rested.exists_post limited internal
  have unknown := Classical.not_not.mp (mt (finds_iff hs dest.ip).mpr lost)
  have stopped := rested.settled.run_missed rested.complete hs hd rfl posted unknown short
    some_budget
  rw [stopped] at result
  exact result

/-- With enough events for every flood all sendings end well. -/
theorem Rested.performAll_ok {sends : List Operation} (rested : Rested k start log tree)
    (limited : start.config.stopAfter = some n) (enough : missToll k < n)
    (internal : ∀ send ∈ sends, Internal start send) :
    ∀ result ∈ (tree.performAll sends).1, ∃ answer, result = .ok answer := by
  induction sends generalizing log tree with
  | nil => exact List.forall_mem_nil _
  | cons send rest ih =>
    have first := internal send List.mem_cons_self
    have ended : ∃ answer, (tree.perform send).1 = .ok answer := by
      cases send with
      | send => exact rested.send_ok limited first (.inl enough)
      | _ => cases first
    obtain ⟨answer, done⟩ := ended
    intro result mem
    rcases List.mem_cons.mp mem with rfl | later
    · exact ⟨answer, done⟩
    · exact ih (rested.next first done)
        (fun send mem => internal send (List.mem_cons_of_mem _ mem)) result later

end Rested

/-! ## The default budget -/

section Default

variable {k : Nat}

/-- Up to parameter 16 the default budget is enough for every flood. -/
theorem missToll_lt (small : k ≤ 16) : missToll k < 100000 := by
  have each : ∀ n < 17, missToll n < 100000 := by decide
  exact each k (Nat.lt_succ_of_le small)

/-- Above parameter 16 no flood ends within the default budget. -/
theorem le_missCost (accepted : accepts k = true) (large : 16 < k) : 100000 ≤ missCost k := by
  have each : ∀ n < 33, 16 < n → n % 2 = 0 → 100000 ≤ missCost n := by decide
  exact each k (Nat.lt_succ_of_le (le_of_accepts accepted)) large (even_of_accepts accepted)

/-- The fabric manager of a complete fat-tree knows nobody yet. -/
theorem isRegistered_of_build {config : FabricConfig} {streams : DeviceId → Choice.Stream}
    {tree : FatTree} (built : build k config streams = .ok tree) (ip : Ipv4Address) :
    tree.net.manager.isRegistered ip = false := by
  have keeps : ∀ {net after : Network}, (∀ ip, net.manager.isRegistered ip = false) →
      net.Build after → ∀ ip, after.manager.isRegistered ip = false := by
    intro net after nobody move ip
    rw [move.isRegistered, nobody]
  refine build_keeps (P := fun net => ∀ ip, net.manager.isRegistered ip = false) keeps ?_ built ip
  intro ip
  exact Std.TreeMap.contains_emptyc

/-- A complete fat-tree rests. -/
theorem Filled.rested {config : FabricConfig} {streams : DeviceId → Choice.Stream} {tree : FatTree}
    (filled : Filled k config (places k) tree) (built : build k config streams = .ok tree) :
    Rested k tree.net [] tree :=
  ⟨filled.settled, filled.complete built, rfl, rfl, List.forall_mem_nil _⟩

/-- **How far the default budget goes**, in every complete fat-tree with the default configuration,
for every seed and all choices of ports. Up to parameter 16 all sendings between hosts end well.
Beyond, a sending after others that ended well does so if the receiver is the sender itself or known
to the fabric manager, and otherwise stops with its budget used up. At first the fabric manager
knows nobody, so this is what happens to the first sending to another host. As long as all sendings
end well, nothing is left on its way or waiting. -/
theorem default_budget_suffices (accepted : accepts k = true) (seed : Option Nat)
    (streams : DeviceId → Choice.Stream) :
    ∃ tree, build k { seed } streams = .ok tree ∧
      (∀ ip, tree.net.manager.isRegistered ip = false) ∧
      ∀ sends : List Operation, (∀ send ∈ sends, Internal tree.net send) →
        (k ≤ 16 → ∀ result ∈ (tree.performAll sends).1, ∃ answer, result = .ok answer) ∧
        ((∀ result ∈ (tree.performAll sends).1, ∃ answer, result = .ok answer) →
          Idle (tree.performAll sends).2.net ∧
          ∀ id dst bytes, Internal tree.net (.send id dst bytes) →
            if k ≤ 16 ∨ Finds (tree.performAll sends).2.net id dst then
              ∃ answer, ((tree.performAll sends).2.perform (.send id dst bytes)).1 = .ok answer
            else
              ((tree.performAll sends).2.perform (.send id dst bytes)).1 =
                .error (.network .noConvergence)) := by
  obtain ⟨tree, built, filled⟩ := build_ok accepted { seed } streams
  have limited : tree.net.config.stopAfter = some 100000 := by rw [filled.config]
  have rested := filled.rested built
  refine ⟨tree, built, isRegistered_of_build built, fun sends internal => ⟨fun small => ?_, ?_⟩⟩
  · exact rested.performAll_ok limited (missToll_lt small) internal
  · intro done
    obtain ⟨log, after⟩ := rested.performAll internal done
    refine ⟨after.idle, fun id dst bytes last => ?_⟩
    split
    · rename_i finds
      exact after.send_ok limited last (finds.imp missToll_lt fun finds => ⟨finds, by decide⟩)
    · rename_i lost
      obtain ⟨large, lost⟩ := not_or.mp lost
      exact after.send_exhausted limited last lost (le_missCost accepted (Nat.not_le.mp large))
        (by decide)

/-- The smallest complete fat-tree with the default configuration; all choices of ports are 0. -/
def furnished : FatTree := ((build 2 {} fun _ _ => 0).toOption).getD smallest

/-- Its two hosts send to each other, and one of them to itself. -/
def gossip : List Operation :=
  [.send 5 ⟨10, 1, 0, 2⟩ [7], .send 6 ⟨10, 0, 0, 2⟩ [8], .send 6 ⟨10, 1, 0, 2⟩ [9]]

/-- All gossip ends well and leaves nothing behind. -/
theorem gossip_ends : (∀ result ∈ (furnished.performAll gossip).1, ∃ answer, result = .ok answer) ∧
    Idle (furnished.performAll gossip).2.net ∧
    ∃ answer, ((furnished.performAll gossip).2.perform (.send 5 ⟨10, 1, 0, 2⟩ [10])).1 =
      .ok answer := by
  obtain ⟨tree, built, -, law⟩ := @default_budget_suffices 2 (by decide) none fun _ _ => 0
  have same : tree = furnished := by
    rw [furnished, built]
    rfl
  subst same
  have hosts : ∀ id ∈ [5, 6], (furnished.net.hostAt? id).isSome := by decide +kernel
  have addresses : ∀ ip ∈ [(⟨10, 1, 0, 2⟩ : Ipv4Address), ⟨10, 0, 0, 2⟩],
      (furnished.net.hostOf? ip).isSome := by decide +kernel
  have internal : ∀ send ∈ gossip, Internal furnished.net send := by
    simp only [gossip, List.forall_mem_cons, Internal]
    exact ⟨⟨hosts 5 (by decide), addresses _ (by decide)⟩,
      ⟨hosts 6 (by decide), addresses _ (by decide)⟩,
      ⟨hosts 6 (by decide), addresses _ (by decide)⟩, List.forall_mem_nil _⟩
  obtain ⟨all, rest⟩ := law gossip internal
  obtain ⟨idle, outcome⟩ := rest (all (by decide))
  have last := outcome 5 ⟨10, 1, 0, 2⟩ [10] ⟨hosts 5 (by decide), addresses _ (by decide)⟩
  rw [if_pos (.inl (by decide))] at last
  exact ⟨all (by decide), idle, last⟩

/-- In a complete fat-tree with parameter 18 the first letter from the first host to the last one
uses up the default budget. -/
theorem cold_letter_exhausts_default_budget :
    ∃ tree id, build 18 {} (fun _ _ => 0) = .ok tree ∧ tree.host ⟨0, 0, 0⟩ = .ok id ∧
      Internal tree.net (.send id ⟨10, 17, 8, 10⟩ [1]) ∧
      (tree.perform (.send id ⟨10, 17, 8, 10⟩ [1])).1 = .error (.network .noConvergence) := by
  obtain ⟨tree, built, filled⟩ := @build_ok 18 (by decide) {} fun _ _ => 0
  obtain ⟨same, legit, slotted⟩ := filled.reached.legit
  have rested := filled.rested built
  have limited : tree.net.config.stopAfter = some 100000 := by rw [filled.config]
  obtain ⟨seat, hs, first⟩ := @rested.complete ⟨0, 0, 0⟩ ⟨by decide, by decide, by decide⟩
  obtain ⟨dest, hd, last⟩ := @rested.complete ⟨17, 8, 8⟩ ⟨by decide, by decide, by decide⟩
  have ip : dest.ip = ⟨10, 17, 8, 10⟩ := by
    rw [(filled.seats hd).2.2, last]
    rfl
  have own : seat.ip = ⟨10, 0, 0, 2⟩ := by
    rw [(filled.seats hs).2.2, first]
    rfl
  obtain ⟨host, here, card⟩ := hs.host
  obtain ⟨peer, there, -⟩ := hd.host
  have internal : Internal tree.net (.send seat.id ⟨10, 17, 8, 10⟩ [1]) := by
    refine ⟨by rw [here]; rfl, ?_⟩
    rw [← ip, legit.toSane.hostOf? hd there]
    rfl
  have lost : ¬ Finds tree.net seat.id ⟨10, 17, 8, 10⟩ := by
    have number : host.ip = ⟨10, 0, 0, 2⟩ := (congrArg Host.Card.ip card).trans own
    rintro (self | known)
    · rw [here, Option.map_some, number] at self
      exact absurd self (by decide)
    · cases (isRegistered_of_build built _).symm.trans known
  refine ⟨tree, seat.id, built, ?_, internal, rested.send_exhausted limited internal lost
    (le_missCost (by decide) (by decide)) (by decide)⟩
  have slot : tree.hostSlots[0]? = some seat.id := by
    have within : (⟨0, 0, 0⟩ : Place).slot? tree.k = some 0 := by rw [same]; rfl
    exact (slotted within seat.id).mpr ⟨seat, same ▸ hs, first, rfl⟩
  have found : tree.hostAt? ⟨0, 0, 0⟩ = some seat.id := by
    rw [hostAt?, same]
    exact slot
  rw [FatTree.host, found]

end Default

end PmacFabric.FatTree
