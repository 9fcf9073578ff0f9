import PmacFabric.Proofs.FatTree.Ledger
import PmacFabric.Proofs.FatTree.Stock
import PmacFabric.Proofs.Network.Names
import PmacFabric.Simulation.Basic

/-!
# Reports balance

A report adds up counters of many devices and sorts them by name. `Report.Balances` says what its
numbers have to do with each other and with the network: flows have arrived or wait, each switch is
listed once, each drop is counted under its reason, and the totals are those of the fabric manager.

A fat-tree **rests** when nothing is under way (`Rests`). Each operation that ends well leaves it so
and sends at most one packet, which is what the report of the run rests on: **`report_balances`**. A
simulation reports nothing else (`simulate_balances`). No two hosts of a fat-tree share a name, so it
reports the same in whatever order hosts are searched for names (`simulate_listing_eq`).
-/

namespace PmacFabric

/-! ## Sorting by name -/

/-- A list that is sorted by different names is sorted strictly. -/
theorem ascending_mergeSort {α : Type} {key : α → String} {xs : List α}
    (distinct : (xs.map key).Nodup) :
    (xs.mergeSort fun x y => key x ≤ key y).Pairwise fun x y => key x < key y := by
  have total : ∀ x y, (decide (key x ≤ key y) || decide (key y ≤ key x)) = true := by
    intro x y
    rw [Bool.or_eq_true, decide_eq_true_iff, decide_eq_true_iff]
    exact String.le_total _ _
  have sorted : (xs.mergeSort fun x y => key x ≤ key y).Pairwise fun x y =>
      decide (key x ≤ key y) = true := by
    refine List.pairwise_mergeSort (fun x y z before after => ?_) total xs
    exact decide_eq_true (String.le_trans (of_decide_eq_true before) (of_decide_eq_true after))
  have perm := List.mergeSort_perm xs fun x y => key x ≤ key y
  have apart := List.pairwise_map.mp ((perm.map key).nodup_iff.mpr distinct)
  exact (sorted.and apart).imp fun both =>
    String.not_le.mp fun after => both.2 (String.le_antisymm (of_decide_eq_true both.1) after)

/-! ## Drops -/

/-- The drops of a switch, listed by reason. -/
structure SwitchReport.Itemizes (report : SwitchReport) (drops : DropCounts) : Prop where
  /-- No two entries share a name. -/
  apart : report.dropped.Pairwise fun entry other => entry.1 < other.1
  entries : ∀ entry, entry ∈ report.dropped ↔
    ∃ reason, drops.count reason ≠ 0 ∧ entry = (reason.text, drops.count reason)
  total : totalOf Prod.snd report.dropped = drops.total

/-- No reason is missing from the list of reasons. -/
theorem DropReason.mem_all (reason : DropReason) : reason ∈ DropReason.all := by
  cases reason <;> decide

/-- Drops are listed for the reasons that occurred, with their counts. -/
theorem DropCounts.mem_toList_iff {drops : DropCounts} {reason : DropReason} {n : Nat} :
    (reason, n) ∈ drops.toList ↔ drops.count reason ≠ 0 ∧ n = drops.count reason := by
  rw [toList, List.mem_filter, List.mem_map]
  constructor
  · rintro ⟨⟨reason, -, same⟩, occurred⟩
    cases same
    exact ⟨bne_iff_ne.mp occurred, rfl⟩
  · rintro ⟨occurred, rfl⟩
    exact ⟨⟨reason, reason.mem_all, rfl⟩, bne_iff_ne.mpr occurred⟩

/-- The listed drops are all drops. -/
theorem DropCounts.totalOf_toList (drops : DropCounts) :
    totalOf Prod.snd drops.toList = drops.total := by
  rw [toList, totalOf_filter, totalOf_map, total]
  refine totalOf_congr fun reason _ => ?_
  dsimp only
  split
  · rfl
  · next absent => exact (Decidable.not_not.mp fun occurred => absent (bne_iff_ne.mpr occurred)).symm

/-- **The report of a switch lists each of its drops.** -/
theorem Report.itemizes_ofSwitch (switch : Switch) :
    (ofSwitch switch).Itemizes switch.drops := by
  have perm : (ofSwitch switch).dropped.Perm
      (switch.drops.toList.map fun entry => (entry.1.text, entry.2)) := List.mergeSort_perm _ _
  have names :
      ((switch.drops.toList.map fun entry => (entry.1.text, entry.2)).map Prod.fst).Nodup := by
    have chosen : (switch.drops.toList.map fun entry => entry.1.text).Sublist
        (DropReason.all.map DropReason.text) := by
      have kept := (List.filter_sublist (p := fun entry : DropReason × Nat => entry.2 != 0)
        (l := DropReason.all.map fun reason => (reason, switch.drops.count reason))).map
          fun entry => entry.1.text
      rwa [List.map_map] at kept
    rw [List.map_map]
    exact List.Nodup.sublist chosen (by decide)
  refine ⟨ascending_mergeSort names, fun entry => ?_, ?_⟩
  · rw [perm.mem_iff, List.mem_map]
    constructor
    · rintro ⟨⟨reason, n⟩, mem, rfl⟩
      obtain ⟨occurred, rfl⟩ := DropCounts.mem_toList_iff.mp mem
      exact ⟨reason, occurred, rfl⟩
    · rintro ⟨reason, occurred, rfl⟩
      exact ⟨(reason, _), DropCounts.mem_toList_iff.mpr ⟨occurred, rfl⟩, rfl⟩
  · rw [totalOf_perm _ perm, totalOf_map]
    exact switch.drops.totalOf_toList

/-- What is dropped for one reason only is all that is dropped. -/
theorem DropCounts.total_of_only {drops : DropCounts} {reason : DropReason}
    (only : ∀ other, drops.count other ≠ 0 → other = reason) :
    drops.total = drops.count reason := by
  refine totalOf_eq_of_alone (by decide) reason.mem_all fun other _ differ => ?_
  exact Decidable.not_not.mp fun occurred => differ (only other occurred)

namespace FatTree

/-! ## Names of devices -/

/-- Two numbers as they stand in the name of a switch. -/
def numbered (pod position : Nat) : List Char :=
  Nat.toDigits 10 pod ++ '-' :: Nat.toDigits 10 position

/-- A number can be read from its digits. -/
theorem eq_of_digits {m n : Nat} (same : Nat.toDigits 10 m = Nat.toDigits 10 n) : m = n := by
  have read := congrArg (Nat.ofDigitChars 10 · 0) same
  simpa only [Nat.ofDigitChars_ten_toDigits] using read

/-- A dash is no digit, so that it ends a number in a name. -/
theorem dash_notMem_digits (n : Nat) : '-' ∉ Nat.toDigits 10 n := fun mem => by
  cases Nat.isDigit_of_mem_toDigits (by decide) (by decide) mem

/-- Up to its first dash, a name can be read. -/
theorem eq_of_dashed {m n : Nat} {rest rest' : List Char}
    (same : Nat.toDigits 10 m ++ '-' :: rest = Nat.toDigits 10 n ++ '-' :: rest') :
    m = n ∧ rest = rest' := by
  have read (n : Nat) (rest : List Char) :
      (Nat.toDigits 10 n ++ '-' :: rest).takeWhile (· ≠ '-') = Nat.toDigits 10 n := by
    have digits : ∀ c ∈ Nat.toDigits 10 n, decide (c ≠ '-') = true := fun c mem =>
      decide_eq_true fun dash => dash_notMem_digits n (dash ▸ mem)
    rw [List.takeWhile_append_of_pos digits, List.takeWhile_cons_of_neg (by decide),
      List.append_nil]
  have first : Nat.toDigits 10 m = Nat.toDigits 10 n := by rw [← read m rest, same, read]
  rw [first] at same
  exact ⟨eq_of_digits first, (List.cons.inj (List.append_cancel_left same)).2⟩

/-- Both numbers can be read back. -/
theorem eq_of_numbered {m n m' n' : Nat} (same : numbered m n = numbered m' n') :
    m = m' ∧ n = n' := by
  obtain ⟨first, last⟩ := eq_of_dashed same
  exact ⟨first, eq_of_digits last⟩

/-- A number is written with its digits. -/
theorem toList_toString (n : Nat) : (toString n).toList = Nat.toDigits 10 n := by
  rw [Nat.toString_eq_ofList_toDigits, String.toList_ofList]

/-- What a switch is called. -/
theorem Fabric.titled {k : Nat} {net : Network} (fabric : Fabric k net.ground)
    {id : DeviceId} {switch : Switch} (here : net.switchAt? id = some switch) :
    (∃ pod e, id = edgeId k pod e ∧
        switch.name.toList = "edge-".toList ++ numbered pod e) ∨
      (∃ pod a, id = aggregationId k pod a ∧
        switch.name.toList = "agg-".toList ++ numbered pod a) ∨
      ∃ c, id = coreId k c ∧ switch.name.toList = "core-".toList ++ Nat.toDigits 10 c := by
  have even := fabric.even
  have named : ∀ {plan}, (switchPlans k)[id]? = some plan → switch.name = plan.name := by
    intro plan planned
    obtain ⟨plan', planned', shape⟩ := fabric.exists_plan here
    cases planned'.symm.trans planned
    exact congrArg (fun built => built.2.name) shape
  have pair : ∀ (tier : String) (m n : Nat),
      (tier ++ toString m ++ "-" ++ toString n).toList = tier.toList ++ numbered m n := by
    intro tier m n
    rw [String.toList_append, String.toList_append, String.toList_append, toList_toString,
      toList_toString, List.append_assoc, List.append_assoc]
    rfl
  rcases fabric.planned here with
    ⟨pod, e, hp, he, rfl, -⟩ | ⟨pod, a, hp, ha, rfl, -⟩ | ⟨c, hc, rfl, -⟩
  · rw [named (switchPlans_edge even hp he)]
    exact .inl ⟨pod, e, rfl, pair "edge-" pod e⟩
  · rw [named (switchPlans_aggregation even hp ha)]
    exact .inr (.inl ⟨pod, a, rfl, pair "agg-" pod a⟩)
  · rw [named (switchPlans_core even hc)]
    refine .inr (.inr ⟨c, rfl, ?_⟩)
    exact String.toList_append.trans (congrArg _ (toList_toString c))

/-- **The name of a switch is its own.** -/
theorem Fabric.eq_of_name {k : Nat} {net : Network} (fabric : Fabric k net.ground) {id id' : DeviceId}
    {switch switch' : Switch} (here : net.switchAt? id = some switch)
    (here' : net.switchAt? id' = some switch') (same : switch.name = switch'.name) : id = id' := by
  have shared := congrArg String.toList same
  rcases fabric.titled here with ⟨pod, e, rfl, name⟩ | ⟨pod, a, rfl, name⟩ | ⟨c, rfl, name⟩ <;>
    rcases fabric.titled here' with
      ⟨pod', e', rfl, name'⟩ | ⟨pod', a', rfl, name'⟩ | ⟨c', rfl, name'⟩ <;>
    rw [name, name'] at shared
  case inl.inl =>
    obtain ⟨rfl, rfl⟩ := eq_of_numbered (List.append_cancel_left shared)
    rfl
  case inr.inl.inr.inl =>
    obtain ⟨rfl, rfl⟩ := eq_of_numbered (List.append_cancel_left shared)
    rfl
  case inr.inr.inr.inr =>
    rw [eq_of_digits (List.append_cancel_left shared)]
  -- The tiers have different initials.
  all_goals cases congrArg List.head? shared

/-- The name of a host is its place, as it is written. -/
theorem toList_hostName (place : Place) : place.hostName.toList =
    "host-".toList ++ (Nat.toDigits 10 place.pod ++ '-' :: numbered place.edge place.port) := by
  have written : place.hostName =
      "host-" ++ toString place.pod ++ "-" ++ toString place.edge ++ "-" ++ toString place.port := rfl
  simp only [written, String.toList_append, toList_toString, List.append_assoc]
  rfl

/-- A place can be read from the name of its host. -/
theorem eq_of_hostName {place other : Place} (same : place.hostName = other.hostName) :
    place = other := by
  have shared := congrArg String.toList same
  rw [toList_hostName, toList_hostName] at shared
  obtain ⟨pod, rest⟩ := eq_of_dashed (List.append_cancel_left shared)
  obtain ⟨edge, port⟩ := eq_of_numbered rest
  exact (Place.mk.injEq ..).mpr ⟨pod, edge, port⟩

/-- **The name of a host is its own.** -/
theorem Housed.eq_of_name {k : Nat} {net : Network} (housed : Housed k net.ground)
    {wanted : String} {id id' : DeviceId} (named : net.HostNamed wanted id)
    (named' : net.HostNamed wanted id') : id = id' := by
  obtain ⟨host, found, rfl⟩ := named
  obtain ⟨host', found', same⟩ := named'
  have card := Network.ground_card (Network.getHost_eq_ok_iff.mp found)
  have card' := Network.ground_card (Network.getHost_eq_ok_iff.mp found')
  obtain ⟨seat, sits, rfl, own⟩ := housed.seated card
  obtain ⟨seat', sits', rfl, own'⟩ := housed.seated card'
  have places : seat'.place.hostName = seat.place.hostName :=
    (congrArg Host.Card.name own').symm.trans (same.trans (congrArg Host.Card.name own))
  rw [sits.eq_of_place sits' (eq_of_hostName places).symm]

end FatTree

/-! ## What a report says -/

/-- **How the numbers of a report belong together**, and to the network that it is about. -/
structure Report.Balances (report : Report) (net : Network) : Prop where
  /-- What has been sent has arrived or waits. -/
  flows : report.delivered + report.pending = report.sent
  /-- Every switch of the network is listed once. -/
  switches : report.switches.Perm (net.switches.map ofSwitch)
  /-- What can be looked up is listed. -/
  known : ∀ id switch, net.getSwitch id = .ok switch → ofSwitch switch ∈ report.switches
  /-- The list ascends, and no two switches share a name. -/
  names : report.switches.Pairwise fun switch other => switch.name < other.name
  drops : ∀ switch ∈ net.switches, (ofSwitch switch).Itemizes switch.drops
  directory : report.manager.directorySize = totalOf SwitchReport.pmacEntries report.switches
  dropped : report.totalDropped = report.manager.misses
  summary : report.summary =
    s!"[k={report.k}, events={report.numEvents}] delivered {report.delivered}/{report.sent}, " ++
      s!"pending {report.pending}, dropped {report.manager.misses}, " ++
      s!"directory {report.manager.directorySize} (hits={report.manager.hits}, " ++
      s!"misses={report.manager.misses}, floods={report.manager.floods})"

namespace FatTree

/-- A fat-tree in which nothing is under way, after so many packets have been sent. -/
structure Rests (k sent : Nat) (tree : FatTree) : Prop where
  accounted : ∃ log, Reached k log tree ∧ log.length = sent
  quiet : tree.net.queue.toList = []

section Rests

variable {k sent : Nat} {tree : FatTree}

/-- **The report of a fat-tree at rest balances.** -/
theorem Rests.balances (rests : Rests k sent tree) (seed : Option Nat) :
    (Report.ofTree tree seed sent).Balances tree.net := by
  obtain ⟨⟨log, reached, length⟩, quiet⟩ := rests
  obtain ⟨-, legit, -⟩ := reached.legit
  have sane := legit.toSane
  have books := reached.books.1
  have listed : (Report.ofTree tree seed sent).switches.Perm
      (tree.net.switches.map Report.ofSwitch) := List.mergeSort_perm _ _
  have dropped : (Report.ofTree tree seed sent).totalDropped = tree.net.manager.counters.misses := by
    rw [Report.totalDropped, totalOf_perm _ listed, totalOf_map, ← books.misses,
      Network.tally_all]
    refine totalOf_congr fun switch mem => ?_
    obtain ⟨id, here⟩ := Network.mem_switches_iff.mp mem
    rw [(Report.itemizes_ofSwitch switch).total]
    exact DropCounts.total_of_only fun reason occurred => (books.reasons here occurred).1
  have names : ((tree.net.switches.map Report.ofSwitch).map SwitchReport.name).Nodup := by
    refine List.pairwise_map.mpr (List.pairwise_map.mpr ?_)
    exact Network.pairwise_switches fun differ here here' same =>
      differ (sane.fabric.eq_of_name here here' same)
  exact
    { flows := (reached.ordered.length_log sane quiet).symm.trans length
      switches := listed
      known := fun id switch found => by
        have mem := Network.mem_switches_iff.mpr ⟨id, Network.getSwitch_eq_ok_iff.mp found⟩
        exact listed.mem_iff.mpr (List.mem_map_of_mem mem)
      names := ascending_mergeSort names
      drops := fun switch _ => Report.itemizes_ofSwitch switch
      directory := by
        rw [totalOf_perm _ listed, totalOf_map]
        exact sane.sizes.symm
      dropped
      summary := by
        delta Report.summary
        rw [dropped]
        rfl }

/-! ## Runs -/

/-- **An operation of a host that ends well leaves the fat-tree at rest.** -/
theorem Rests.send (rests : Rests k sent tree) {operation : Operation} {answer : Answer}
    (sends : operation.sender?.isSome) (done : (tree.perform operation).1 = .ok answer) :
    Rests k (sent + if operation.isSend then 1 else 0) (tree.perform operation).2 := by
  obtain ⟨⟨log, reached, length⟩, -⟩ := rests
  obtain ⟨-, legit, -⟩ := reached.legit
  obtain ⟨net, posted, ended, result⟩ := perform_send_ok sends done
  obtain ⟨seat, host, events, posts, -⟩ := post_cases legit.toSane posted
  rw [result]
  refine ⟨⟨_, (reached.post posted).run net.budget, ?_⟩, Network.queue_of_run_ok ended⟩
  rw [List.length_append, length, posts.length_handed_eq]

/-- Any operation that ends well, of a host or not, leaves the fat-tree at rest. -/
theorem Rests.perform (rests : Rests k sent tree) {operation : Operation}
    (done : operation.sender?.isSome → (tree.perform operation).1.isOk)
    (distinct : (tree.perform operation).2.net.DistinctHosts) :
    Rests k (sent + if operation.isSend then 1 else 0) (tree.perform operation).2 := by
  have ended : operation.sender?.isSome → ∃ answer, (tree.perform operation).1 = .ok answer := by
    intro sends
    have done := done sends
    cases result : (tree.perform operation).1 with
    | ok answer => exact ⟨answer, rfl⟩
    | error e =>
      rw [result] at done
      cases done
  obtain ⟨⟨log, reached, length⟩, quiet⟩ := id rests
  cases operation with
  | addHost place amac ip =>
    refine ⟨⟨log, reached.addHost place amac ip distinct, length⟩, ?_⟩
    obtain ⟨rfl, legit, slotted⟩ := reached.legit
    rcases addHost_cases legit.fabric legit.housed slotted place amac ip with
      ⟨e, same⟩ | ⟨net, slot, -, added, joins⟩
    · rw [FatTree.perform, same]
      exact quiet
    · rw [FatTree.perform, added]
      exact joins.joined.traffic.queue ▸ quiet
  | setStopAfter stopAfter => exact ⟨⟨log, reached.setStopAfter stopAfter, length⟩, quiet⟩
  | send id dst bytes =>
    obtain ⟨answer, done⟩ := ended rfl
    exact rests.send rfl done
  | retransmit id =>
    obtain ⟨answer, done⟩ := ended rfl
    exact rests.send rfl done

/-- **So does any sequence of operations.** -/
theorem Rests.performAll (rests : Rests k sent tree) {operations : List Operation}
    (done : ∀ entry ∈ operations.zip (tree.performAll operations).1,
      entry.1.sender?.isSome → entry.2.isOk)
    (distinct : (tree.performAll operations).2.net.DistinctHosts) :
    Rests k (sent + operations.countP Operation.isSend) (tree.performAll operations).2 := by
  induction operations generalizing sent tree with
  | nil => exact rests
  | cons operation rest ih =>
    -- Hosts stay, so no two shared an address before the rest either.
    have before := (hostsWithin_performAll rest (tree.perform operation).2).distinct distinct
    have next := rests.perform (done (operation, _) List.mem_cons_self) before
    rw [List.countP_cons, Nat.add_comm (rest.countP _), ← Nat.add_assoc]
    exact ih next (fun entry mem => done entry (List.mem_cons_of_mem _ mem)) distinct

end Rests

/-- **Reports balance.** Build a fat-tree, add hosts that share no address, and have them send and ask
again, all with success: the report of the fat-tree balances, for as many packets as were sent. -/
theorem report_balances {k : Nat} {config : FabricConfig} {streams : DeviceId → Choice.Stream}
    {tree : FatTree} (made : new k config streams = .ok tree) (operations : List Operation)
    (done : ∀ entry ∈ operations.zip (tree.performAll operations).1,
      entry.1.sender?.isSome → entry.2.isOk)
    (distinct : (tree.performAll operations).2.net.DistinctHosts) (seed : Option Nat) :
    (Report.ofTree (tree.performAll operations).2 seed
      (operations.countP Operation.isSend)).Balances (tree.performAll operations).2.net := by
  have start : Rests k 0 tree := ⟨⟨[], .new made, rfl⟩, (filled_new made).quiet⟩
  have last := start.performAll done distinct
  rw [Nat.zero_add] at last
  exact last.balances seed

/-- A greeting, and a letter to nobody that is asked for again. -/
def correspondence : List Operation := greeting ++ [.send 6 ⟨10, 0, 0, 9⟩ [8], .retransmit 6]

/-- The greeting has arrived and the letter waits. Three questions found nobody: the one for the second
host, which had not been heard yet, and both for the letter. -/
theorem correspondence_balances :
    (Report.ofTree (smallest.performAll correspondence).2 none 2).Balances
        (smallest.performAll correspondence).2.net ∧
      (Report.ofTree (smallest.performAll correspondence).2 none 2).summary =
        "[k=2, events=36] delivered 1/2, pending 1, dropped 3, directory 2 " ++
          "(hits=2, misses=3, floods=3)" := by
  have balances :=
    report_balances new_smallest correspondence (by decide +kernel) (by decide +kernel) none
  exact ⟨balances, balances.summary.trans (by decide +kernel)⟩

/-! ## Simulations -/

section Simulation

variable {k sent : Nat} {tree : FatTree} {start net : Network}

/-- After a flow nothing is under way, and one more packet has been sent. -/
theorem Rests.sendFlow {flow : Flow} (rests : Rests k sent { tree with net := start })
    (done : Simulation.sendFlow start flow = .ok net) :
    Rests k (sent + 1) { tree with net } := by
  unfold Simulation.sendFlow at done
  split at done
  · cases done
  · next host _ =>
    split at done
    · cases done
    · next posted =>
      cases done
      have performed : FatTree.perform { tree with net := start } (.send flow.src host.ip flow.data) =
          (.ok .done, { tree with net }) := by
        rw [FatTree.perform, posted]
        rfl
      have next := rests.send rfl (congrArg Prod.fst performed)
      rwa [performed] at next

/-- After several flows nothing is under way, and as many more packets have been sent. -/
theorem Rests.sendFlows {flows : List Flow} (rests : Rests k sent { tree with net := start })
    (done : flows.foldlM Simulation.sendFlow start = .ok net) :
    Rests k (sent + flows.length) { tree with net } := by
  induction flows generalizing sent start with
  | nil =>
    cases done
    exact rests
  | cons flow rest ih =>
    rw [List.foldlM_cons] at done
    cases first : Simulation.sendFlow start flow with
    | error e =>
      rw [first] at done
      cases done
    | ok mid =>
      rw [first] at done
      rw [List.length_cons, Nat.add_comm rest.length, ← Nat.add_assoc]
      exact ih (rests.sendFlow first) done

/-- Asking again sends no new packet. -/
theorem Rests.retransmitAll {ids : List DeviceId} {count : Nat}
    (rests : Rests k sent { tree with net := start })
    (done : Simulation.retransmitAll start ids = .ok (count, net)) :
    Rests k sent { tree with net } := by
  induction ids generalizing start count with
  | nil =>
    cases done
    exact rests
  | cons id rest ih =>
    unfold Simulation.retransmitAll at done
    split at done
    · cases done
    · next asked mid posted =>
      have performed : FatTree.perform { tree with net := start } (.retransmit id) =
          (.ok (.asked asked), { tree with net := mid }) := by
        rw [FatTree.perform, posted]
        rfl
      have next := rests.send rfl (congrArg Prod.fst performed)
      rw [performed] at next
      cases later : Simulation.retransmitAll mid rest with
      | error e =>
        rw [later] at done
        cases done
      | ok result =>
        rw [later] at done
        cases done
        exact ih next later

/-- Rounds of asking again send no new packet. -/
theorem Rests.retry {hosts : List DeviceId} {rounds : Nat}
    (rests : Rests k sent { tree with net := start })
    (done : Simulation.retry hosts rounds start = .ok net) : Rests k sent { tree with net } := by
  induction rounds generalizing start with
  | zero =>
    cases done
    exact rests
  | succ rounds ih =>
    unfold Simulation.retry at done
    split at done
    · cases done
    · next asked =>
      cases done
      exact rests.retransmitAll asked
    · next asked => exact ih (rests.retransmitAll asked) done

/-- A simulation sends one packet for each of its flows, and leaves nothing under way. -/
theorem Rests.traffic {flows : List Flow} {retries : Nat} {last : FatTree}
    (rests : Rests k sent tree) (done : Simulation.traffic tree flows retries = .ok last) :
    Rests k (sent + flows.length) last := by
  unfold Simulation.traffic at done
  split at done
  · cases done
  · next mid flown =>
    cases retried : Simulation.retry tree.hosts retries mid with
    | error e =>
      rw [retried] at done
      cases done
    | ok net =>
      rw [retried] at done
      cases done
      have flying : Rests k (sent + flows.length) { tree with net := mid } :=
        rests.sendFlows flown
      exact flying.retry retried

end Simulation

/-- A fat-tree with all hosts rests when it has just been built. -/
theorem rests_build {k : Nat} {config : FabricConfig} {streams : DeviceId → Choice.Stream}
    {tree : FatTree} (built : build k config streams = .ok tree) : Rests k 0 tree := by
  have accepted : accepts k = true := by
    unfold build at built
    split at built
    · cases built
    · next made => exact accepts_of_new_ok made
  obtain ⟨full, same, filled⟩ := build_ok accepted config streams
  cases built.symm.trans same
  exact ⟨⟨[], filled.reached, rfl⟩, filled.quiet⟩

/-- **A simulation reports nothing that does not balance.** -/
theorem simulate_balances {options : Simulation.Options} {fresh : Nat}
    {listing : (net : Network) → net.Listing} {report : Report}
    (done : simulate options fresh listing = .ok report) :
    ∃ (tree : FatTree) (sent : Nat), report = .ofTree tree options.seed sent ∧
      report.Balances tree.net := by
  unfold simulate at done
  dsimp only at done
  split at done
  · cases done
  · next tree built =>
    split at done
    · cases done
    · next flows _ =>
      split at done
      · cases done
      · next last traffic =>
        cases done
        have rests := (rests_build built).traffic traffic
        rw [Nat.zero_add] at rests
        exact ⟨last, flows.length, rfl, rests.balances options.seed⟩

/-- In a fat-tree that has just been built, a host is found by its name in any order. -/
theorem getHostId_build {k : Nat} {config : FabricConfig} {streams : DeviceId → Choice.Stream}
    {tree : FatTree} (built : build k config streams = .ok tree)
    (listing listing' : tree.net.Listing) (wanted : String) :
    tree.net.getHostId listing wanted = tree.net.getHostId listing' wanted := by
  obtain ⟨log, reached, -⟩ := (rests_build built).accounted
  have housed := reached.legit.2.1.housed
  have found := Network.finds_hosts reached.populated.grown.laid.1 wanted
  exact found.eq_of_unique (fun named named' => housed.eq_of_name named' named) listing listing'

/-- **The order in which hosts are searched for names has no part in a simulation.** -/
theorem simulate_listing_eq (options : Simulation.Options) (fresh : Nat)
    (listing listing' : (net : Network) → net.Listing) :
    simulate options fresh listing = simulate options fresh listing' := by
  unfold simulate
  dsimp only
  split
  · rfl
  · next tree built =>
    have same : Simulation.flows tree (listing tree.net) =
        Simulation.flows tree (listing' tree.net) := by
      funext stream command
      cases command with
      | run count size => rfl
      | ping src dst =>
        simp only [Simulation.flows, getHostId_build built (listing tree.net) (listing' tree.net)]
    rw [same]

end FatTree

end PmacFabric
