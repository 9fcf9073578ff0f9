import PmacFabric.Proofs.Network.Termination
import PmacFabric.Proofs.Network.Tracing

/-!
# A limit only cuts a run short

No event reads the configuration (`step_reconfigured`), so a run with a limit and one without
process the same events. `after? n` is the network after `n` events, and a network `Drains` in `n`
events if nothing waits then.

**`limit_cuts_run`** says that within a limit of `n` events a network drains if it does so in at
most `n` events at all, and otherwise is left as it is after `n` events, with all that waits. So
what is left can be taken up again, and two limits in turn are as good as their sum.
-/

namespace PmacFabric.Network

/-- The network after just `n` events; none if they run out before, or one of them fails. -/
def after? : Nat → Network → Option Network
  | 0, net => some net
  | n + 1, net =>
    match net.step with
    | some (.ok (), next) => after? n next
    | _ => none

/-- Nothing waits after just `n` events. -/
def Drains (net : Network) (n : Nat) (last : Network) : Prop :=
  net.after? n = some last ∧ last.queue.toList = []

/-- The same network with another configuration. -/
def reconfigured (net : Network) (config : FabricConfig) : Network := { net with config }

/-- The same network without a limit. The horizon takes the place of an unbounded loop. -/
def unlimited (net : Network) (horizon : Nat) : Network :=
  net.reconfigured { net.config with stopAfter := none, horizon }

/-! ## No event reads the configuration -/

section Configuration

variable (net : Network) (config : FabricConfig)

/-- The configuration has no part in handling an event. -/
theorem deliver_reconfigured (event : Event) :
    (net.reconfigured config).deliver event =
      ((net.deliver event).1, (net.deliver event).2.reconfigured config) := by
  have found : ∀ id, (net.reconfigured config).getDevice? id = net.getDevice? id := fun _ => rfl
  cases event with
  | frame target frame =>
    simp only [deliver, found]
    cases net.getDevice? target.device with
    | none => rfl
    | some device => cases device <;> rfl
  | control id message =>
    simp only [deliver, found]
    cases net.getDevice? id with
    | none => rfl
    | some device => cases device <;> rfl

/-- The configuration has no part in tracing an event. -/
theorem record_reconfigured (event : Event) :
    (net.reconfigured config).record event =
      (net.record event).map fun net => net.reconfigured config := by
  have trace : (net.reconfigured config).trace = net.trace := rfl
  have line : (net.reconfigured config).describeEvent event = net.describeEvent event := rfl
  simp only [record, trace, line]
  cases net.trace with
  | none => rfl
  | some lines => cases net.describeEvent event <;> rfl

/-- **A step does the same with every configuration.** -/
theorem step_reconfigured :
    (net.reconfigured config).step =
      net.step.map fun outcome => (outcome.1, outcome.2.reconfigured config) := by
  cases popped : net.queue.pop? with
  | none =>
    have popped' : (net.reconfigured config).queue.pop? = none := popped
    simp only [step, popped, popped', Option.map_none]
  | some first =>
    obtain ⟨event, queue⟩ := first
    have popped' : (net.reconfigured config).queue.pop? = some (event, queue) := popped
    have recorded : record { net.reconfigured config with queue } event = _ :=
      record_reconfigured { net with queue } config event
    simp only [step, popped, popped', recorded]
    cases record { net with queue } event with
    | error e => rfl
    | ok net =>
      have delivered := deliver_reconfigured { net with handled := net.handled + 1 } config event
      exact congrArg some delivered

/-- A run does the same with every configuration; only its length is read from there. -/
theorem run_reconfigured (n : Nat) :
    run n (net.reconfigured config) = ((run n net).1, (run n net).2.reconfigured config) := by
  induction n generalizing net with
  | zero =>
    have same : (net.reconfigured config).queue.isEmpty = net.queue.isEmpty := rfl
    unfold run
    rw [same]
    split <;> rfl
  | succ n ih =>
    simp only [run, step_reconfigured]
    cases net.step with
    | none => rfl
    | some outcome =>
      obtain ⟨result, next⟩ := outcome
      cases result with
      | error e => rfl
      | ok => exact ih next

end Configuration

/-! ## Counting events -/

section Counting

variable {net last : Network}

/-- The network after some events, counted from the next one. -/
theorem after?_succ {n : Nat} {next : Network} (stepped : net.step = some (.ok (), next)) :
    net.after? (n + 1) = next.after? n := by
  simp only [after?, stepped]

/-- Events can be processed in two batches. -/
theorem after?_add (net : Network) (n m : Nat) :
    net.after? (n + m) = (net.after? n).bind fun mid => mid.after? m := by
  induction n generalizing net with
  | zero => rw [Nat.zero_add, after?, Option.bind_some]
  | succ n ih =>
    rw [Nat.succ_add]
    simp only [after?]
    split
    · exact ih _
    · rfl

/-- Without events there is no step. -/
theorem step_of_empty (empty : net.queue.toList = []) : net.step = none := by
  simp only [step, EventQueue.pop?_eq_none_iff.mpr empty]

/-- A network drains once. -/
theorem Drains.unique {i j : Nat} {other : Network} (drains : net.Drains i last)
    (again : net.Drains j other) : i = j ∧ last = other := by
  -- Nothing follows the event that leaves nothing.
  have never : ∀ {i : Nat} {last : Network} (d : Nat), net.Drains i last →
      net.after? (i + (d + 1)) = none := by
    intro i last d drains
    rw [after?_add, drains.1, Option.bind_some, after?, step_of_empty drains.2]
  rcases Nat.lt_trichotomy i j with less | rfl | more
  · have gone := never (j - i - 1) drains
    rw [show i + (j - i - 1 + 1) = j by omega, again.1] at gone
    cases gone
  · exact ⟨rfl, Option.some.inj (drains.1.symm.trans again.1)⟩
  · have gone := never (i - j - 1) again
    rw [show j + (i - j - 1 + 1) = i by omega, drains.1] at gone
    cases gone

/-- **Each event is counted once.** -/
theorem Sturdy.handled_after (sturdy : net.Sturdy) {n : Nat} (after : net.after? n = some last) :
    last.handled = net.handled + n := by
  induction n generalizing net with
  | zero =>
    cases after
    rfl
  | succ n ih =>
    simp only [after?] at after
    split at after
    · next next stepped =>
      obtain ⟨event, queue, trace, raised, -, -, reacts, -⟩ := sturdy.step stepped
      have counted : next.handled = net.handled + 1 := by cases reacts <;> rfl
      rw [ih (sturdy.work (.event stepped)) after, counted, Nat.add_assoc, Nat.add_comm 1]
    · cases after

/-- **What a run of `n` events leads to**: nothing waits, or events remain after `n` of them. -/
theorem Sturdy.run_spec (sturdy : net.Sturdy) (n : Nat) :
    (∃ i ≤ n, ∃ last, net.Drains i last ∧ run n net = (.ok (), last)) ∨
      ∃ mid, net.after? n = some mid ∧ mid.queue.toList ≠ [] ∧
        run n net = (.error .noConvergence, mid) := by
  induction n generalizing net with
  | zero =>
    unfold run
    split
    · next empty =>
      exact .inl ⟨0, Nat.le_refl _, net, ⟨rfl, EventQueue.isEmpty_iff.mp empty⟩, rfl⟩
    · next waiting =>
      exact .inr ⟨net, rfl, fun empty => waiting (EventQueue.isEmpty_iff.mpr empty), rfl⟩
  | succ n ih =>
    unfold run
    cases stepped : net.step with
    | none =>
      exact .inl ⟨0, Nat.zero_le _, net, ⟨rfl, queue_of_step_eq_none stepped⟩, rfl⟩
    | some outcome =>
      obtain ⟨result, next⟩ := outcome
      obtain ⟨_, _, _, _, rfl, -⟩ := sturdy.step stepped
      dsimp only
      rcases ih (sturdy.work (.event stepped)) with
        ⟨i, within, last, drains, done⟩ | ⟨mid, after, waits, done⟩
      · exact .inl ⟨i + 1, Nat.succ_le_succ within, last,
          ⟨(after?_succ stepped).trans drains.1, drains.2⟩, done⟩
      · exact .inr ⟨mid, (after?_succ stepped).trans after, waits, done⟩

/-- A run that is long enough ends where the network drains. -/
theorem Sturdy.run_of_drains (sturdy : net.Sturdy) {i n : Nat} (drains : net.Drains i last)
    (within : i ≤ n) : run n net = (.ok (), last) := by
  rcases sturdy.run_spec n with ⟨j, -, other, again, done⟩ | ⟨mid, after, waits, -⟩
  · rw [done, (drains.unique again).2]
  · obtain ⟨d, rfl⟩ := Nat.exists_eq_add_of_le within
    rw [after?_add, drains.1, Option.bind_some] at after
    cases d with
    | zero =>
      cases after
      exact absurd drains.2 waits
    | succ d =>
      rw [after?, step_of_empty drains.2] at after
      cases after

/-- A run succeeds exactly if the events run out within its budget. -/
theorem Sturdy.run_ok_iff (sturdy : net.Sturdy) (n : Nat) :
    (run n net).1 = .ok () ↔ ∃ i ≤ n, ∃ last, net.Drains i last := by
  constructor
  · intro ok
    rcases sturdy.run_spec n with ⟨i, within, last, drains, -⟩ | ⟨mid, -, -, done⟩
    · exact ⟨i, within, last, drains⟩
    · rw [done] at ok
      cases ok
  · rintro ⟨i, within, last, drains⟩
    rw [sturdy.run_of_drains drains within]

/-- Otherwise a run stops after just as many events as it may process. -/
theorem Sturdy.run_of_not_drains (sturdy : net.Sturdy) {n : Nat}
    (short : ¬∃ i ≤ n, ∃ last, net.Drains i last) :
    ∃ mid, net.after? n = some mid ∧ mid.queue.toList ≠ [] ∧
      run n net = (.error .noConvergence, mid) := by
  rcases sturdy.run_spec n with ⟨i, within, last, drains, -⟩ | stopped
  · exact absurd ⟨i, within, last, drains⟩ short
  · exact stopped

/-- **What a run has left can be taken up by another one.** -/
theorem Sturdy.run_add (sturdy : net.Sturdy) {n : Nat}
    (stopped : (run n net).1 = .error .noConvergence) (m : Nat) :
    run (n + m) net = run m (run n net).2 := by
  induction n generalizing net with
  | zero =>
    unfold run at stopped
    split at stopped
    · cases stopped
    · next waiting => rw [Nat.zero_add, run, if_neg waiting]
  | succ n ih =>
    rw [Nat.succ_add]
    unfold run at stopped
    simp only [run]
    cases stepped : net.step with
    | none =>
      rw [stepped] at stopped
      cases stopped
    | some outcome =>
      obtain ⟨result, next⟩ := outcome
      obtain ⟨_, _, _, _, rfl, -⟩ := sturdy.step stepped
      rw [stepped] at stopped
      exact ih (sturdy.work (.event stepped)) stopped

end Counting

/-! ## What a limit does -/

/-- What a limit of `n` events makes of an operation, as against none. -/
structure Cuts (net : Network) (n : Nat) : Prop where
  ok_iff : (net.setStopAfter (some n)).settle.1 = .ok () ↔
    ∃ i ≤ n, ∃ last, (net.setStopAfter none).Drains i last
  /-- Where the limit is not reached, it makes no difference. -/
  drained : ∀ i last, i ≤ n → (net.setStopAfter none).Drains i last →
    (net.setStopAfter (some n)).settle = (.ok (), last.setStopAfter (some n)) ∧
      (net.setStopAfter (some n)).settle.2.handled = net.handled + i
  /-- Where it is, the network is left as it is after `n` events. -/
  stopped : (¬∃ i ≤ n, ∃ last, (net.setStopAfter none).Drains i last) →
    ∃ mid, (net.setStopAfter none).after? n = some mid ∧ mid.queue.toList ≠ [] ∧
      (net.setStopAfter (some n)).settle = (.error .noConvergence, mid.setStopAfter (some n)) ∧
      (net.setStopAfter (some n)).settle.2.handled = net.handled + n
  /-- Two limits in turn are as good as their sum. -/
  resumed : ∀ m, (net.setStopAfter (some n)).settle.1 = .error .noConvergence →
    ((net.setStopAfter (some n)).settle.2.setStopAfter (some m)).settle =
      ((net.setStopAfter (some (n + m))).settle.1,
        (net.setStopAfter (some (n + m))).settle.2.setStopAfter (some m))

section Limits

variable {net : Network}

/-- No event changes the configuration. -/
theorem config_run (net : Network) (n : Nat) : (run n net).2.config = net.config :=
  congrArg (config ∘ Prod.snd) (run_reconfigured net net.config n)

/-- A run of a given length does the same under every limit. -/
theorem run_setStopAfter (net : Network) (stopAfter : Option Nat) (n : Nat) :
    run n (net.setStopAfter stopAfter) =
      ((run n net).1, (run n net).2.setStopAfter stopAfter) := by
  refine (run_reconfigured net { net.config with stopAfter } n).trans ?_
  rw [← config_run net n]
  rfl

/-- An operation with a limit is a run of the network without one. -/
theorem settle_setStopAfter (net : Network) (n : Nat) :
    (net.setStopAfter (some n)).settle =
      ((run n (net.setStopAfter none)).1,
        (run n (net.setStopAfter none)).2.setStopAfter (some n)) :=
  run_setStopAfter (net.setStopAfter none) (some n) n

/-- **A limit cuts an operation off, and does nothing else to it.** -/
theorem Sturdy.cuts (sturdy : net.Sturdy) (n : Nat) : net.Cuts n := by
  have free : (net.setStopAfter none).Sturdy := sturdy.work (.setStopAfter none)
  refine ⟨?_, fun i last within drains => ?_, fun short => ?_, fun m stopped => ?_⟩
  · rw [settle_setStopAfter]
    exact free.run_ok_iff n
  · have counted : last.handled = net.handled + i := free.handled_after drains.1
    rw [settle_setStopAfter, free.run_of_drains drains within]
    exact ⟨rfl, counted⟩
  · obtain ⟨mid, after, waits, done⟩ := free.run_of_not_drains short
    have counted : mid.handled = net.handled + n := free.handled_after after
    rw [settle_setStopAfter, done]
    exact ⟨mid, after, waits, rfl, counted⟩
  · rw [settle_setStopAfter] at stopped
    rw [settle_setStopAfter net n, settle_setStopAfter net (n + m), free.run_add stopped]
    exact run_setStopAfter (run n (net.setStopAfter none)).2 (some m) m

/-- Without a limit an operation ends just if the network drains, within any horizon that is far
enough. -/
theorem Sturdy.settle_unlimited (sturdy : net.Sturdy) (horizon : Nat) :
    ((net.unlimited horizon).settle.1 = .ok () ↔
        ∃ i ≤ horizon, ∃ last, (net.setStopAfter none).Drains i last) ∧
      ∀ i last, i ≤ horizon → (net.setStopAfter none).Drains i last →
        (net.unlimited horizon).settle = (.ok (), last.unlimited horizon) := by
  have free : (net.setStopAfter none).Sturdy := sturdy.work (.setStopAfter none)
  have settled : (net.unlimited horizon).settle =
      ((run horizon (net.setStopAfter none)).1,
        (run horizon (net.setStopAfter none)).2.unlimited horizon) := by
    refine (run_reconfigured (net.setStopAfter none)
      { net.config with stopAfter := none, horizon } horizon).trans ?_
    rw [unlimited, config_run]
    rfl
  rw [settled]
  refine ⟨free.run_ok_iff horizon, fun i last within drains => ?_⟩
  rw [free.run_of_drains drains within]

end Limits

/-- **A limit only cuts a run short.** In every network that users can bring about, an operation
that may process `n` events succeeds just if the queue runs empty in at most `n` events when nothing
limits them, and then ends as it does without a limit. Otherwise it reports that events remain after
just `n` of them, and leaves the network as it is then; going on with a limit of `m` is as good as a
limit of `n + m` from the start. -/
theorem limit_cuts_run {net : Network} (reached : net.Reached) :
    (∀ n, net.Cuts n) ∧
      ∀ horizon, ((net.unlimited horizon).settle.1 = .ok () ↔
          ∃ i ≤ horizon, ∃ last, (net.setStopAfter none).Drains i last) ∧
        ∀ i last, i ≤ horizon → (net.setStopAfter none).Drains i last →
          (net.unlimited horizon).settle = (.ok (), last.unlimited horizon) :=
  ⟨reached.sturdy.cuts, reached.sturdy.settle_unlimited⟩

/-- The lonely switch with two frames that it has not handled for want of a budget. -/
def congested : Network := (delayed.inject 0 (.lower 0) spoof).2

/-- One event is not enough for two frames, two are, and so is one after one. -/
theorem congested_cut :
    congested.Cuts 1 ∧ (congested.setStopAfter (some 1)).settle.1 = .error .noConvergence ∧
      ((congested.setStopAfter (some 1)).settle.2.setStopAfter (some 1)).settle =
        ((congested.setStopAfter (some 2)).settle.1,
          (congested.setStopAfter (some 2)).settle.2.setStopAfter (some 1)) ∧
      (congested.setStopAfter (some 2)).settle.1 = .ok () := by
  have reached : congested.Reached :=
    reached_delayed.leads (leads_inject delayed 0 (.lower 0) spoof)
  have one : congested.Cuts 1 := (limit_cuts_run reached).1 1
  have result : ∀ limit, (congested.setStopAfter limit).Sturdy :=
    fun limit => reached.sturdy.work (.setStopAfter limit)
  have short : (congested.setStopAfter (some 1)).settle.1 = .error .noConvergence := by
    rcases (result (some 1)).run_cases 1 with ⟨-, empty⟩ | ⟨stopped, -⟩
    · exact absurd empty (by decide +kernel)
    · exact stopped
  have enough : (congested.setStopAfter (some 2)).settle.1 = .ok () := by
    rcases (result (some 2)).run_cases 2 with ⟨done, -⟩ | ⟨-, waits⟩
    · exact done
    · exact absurd (by decide +kernel) waits
  exact ⟨one, short, one.resumed 1 short, enough⟩

end PmacFabric.Network
