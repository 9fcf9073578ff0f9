import PmacFabric.Proofs.Network.Guarded

/-!
# Only the budget can fail, and tracing shows nothing else

Every waiting event of a reached network finds somebody who handles it, and can be written down. So a
run ends with an empty queue or with a budget that is used up (`Sturdy.run_cases`), and writing the
trace cannot get in its way: a step does the same with tracing and without (`Sturdy.step_retraced`).

`Request` lists all that callers may ask of a network. **`only_budget_fails`** collects what holds
between any two events, and says that sessions of the same requests have the same replies and end in
the same state, however their tracing is turned on and off.
-/

namespace PmacFabric.Network

/-! ## Requests -/

/-- What callers may ask of a network. -/
inductive Request where
  | addSwitch (name : String) (identity : SwitchIdentity) (numLower numUpper : Nat)
  | addHost (name : String) (amac : MacAddress) (ip : Ipv4Address)
  | addLink (south north : Endpoint)
  | attachHost (id switch : DeviceId) (port : Nat)
  | send (id : DeviceId) (dst : Ipv4Address) (data : Bytes)
  | retransmit (id : DeviceId)
  | inject (id : DeviceId) (port : Port) (frame : Frame)
  | setStopAfter (stopAfter : Option Nat)

/-- What callers are told. -/
inductive Reply where
  | device (id : DeviceId)
  | done (result : Except NetworkError Unit)
  | asked (result : Except NetworkError Nat)

/-- What an operation leads to, with its result as a reply. -/
def replied {α : Type} (reply : α → Reply) (outcome : α × Network) : Reply × Network :=
  (reply outcome.1, outcome.2)

def serve (net : Network) : Request → Reply × Network
  | .addSwitch name identity numLower numUpper =>
    replied .device (net.addSwitch name identity numLower numUpper)
  | .addHost name amac ip => replied .device (net.addHost name amac ip)
  | .addLink south north => replied .done (net.addLink south north)
  | .attachHost id switch port => replied .done (net.attachHost id switch port)
  | .send id dst data => replied .done (net.send id dst data)
  | .retransmit id => replied .asked (net.retransmit id)
  | .inject id port frame => replied .done (net.inject id port frame)
  | .setStopAfter stopAfter => (.done (.ok ()), net.setStopAfter stopAfter)

/-- The same network with another trace, or with none. -/
def retraced (net : Network) (trace : Option (Array String)) : Network := { net with trace }

/-- All of a network but its trace. -/
def untraced (net : Network) : Network := net.retraced none

/-- Serves requests in order. Before each of them, tracing is turned on or off. -/
def serveAll : List (Option (Array String) × Request) → Network → List Reply × Network
  | [], net => ([], net)
  | (trace, request) :: rest, net =>
    let (reply, net) := (net.retraced trace).serve request
    let (replies, net) := serveAll rest net
    (reply :: replies, net)

theorem serveAll_cons (trace : Option (Array String)) (request : Request)
    (rest : List (Option (Array String) × Request)) (net : Network) :
    serveAll ((trace, request) :: rest) net =
      (((net.retraced trace).serve request).1 ::
          (serveAll rest ((net.retraced trace).serve request).2).1,
        (serveAll rest ((net.retraced trace).serve request).2).2) := rfl

/-- Serving a request is a sequence of moves. -/
theorem leads_serve (net : Network) (request : Request) : net.Leads (net.serve request).2 := by
  cases request with
  | addSwitch => exact Leads.refl.build (.addSwitch ..)
  | addHost => exact Leads.refl.build (.addHost ..)
  | addLink => exact Leads.refl.build (.addLink ..)
  | attachHost => exact Leads.refl.build (.attachHost ..)
  | send id dst data => exact leads_send net id dst data
  | retransmit id => exact leads_retransmit net id
  | inject id port frame => exact leads_inject net id port frame
  | setStopAfter stopAfter => exact (Work.setStopAfter stopAfter).leads

/-! ## Runs -/

section Runs

variable {net : Network}

/-- Handling an event does not depend on the trace. -/
theorem deliver_retraced (net : Network) (trace : Option (Array String)) (event : Event) :
    (net.retraced trace).deliver event =
      ((net.deliver event).1, (net.deliver event).2.retraced trace) := by
  have found : ∀ id, (net.retraced trace).getDevice? id = net.getDevice? id := fun _ => rfl
  cases event with
  | frame target frame =>
    simp only [deliver, found]
    cases net.getDevice? target.device with
    | none => rfl
    | some device => cases device <;> rfl
  | control id message =>
    simp only [deliver, found]
    cases net.getDevice? id with
    | none => rfl
    | some device => cases device <;> rfl

/-- **A step does the same with every trace.** -/
theorem Sturdy.step_retraced (sturdy : net.Sturdy) (trace : Option (Array String)) :
    net.step = none ∧ (net.retraced trace).step = none ∨
      ∃ after trace', net.step = some (.ok (), after) ∧
        (net.retraced trace).step = some (.ok (), after.retraced trace') := by
  cases popped : net.queue.pop? with
  | none =>
    have popped' : (net.retraced trace).queue.pop? = none := popped
    exact .inl ⟨by simp only [Network.step, popped], by simp only [Network.step, popped']⟩
  | some first =>
    obtain ⟨event, queue⟩ := first
    have popped' : (net.retraced trace).queue.pop? = some (event, queue) := popped
    have taken := EventQueue.toList_of_pop?_eq_some popped
    have reaches := sturdy.posted event (taken ▸ List.mem_cons_self)
    obtain ⟨written, done⟩ := step_eq popped reaches
    obtain ⟨written', done'⟩ := step_eq popped' reaches
    obtain ⟨_, after, delivered, -⟩ := deliver_reacts
      { net with queue, trace := written, handled := net.handled + 1 } sturdy.wired reaches
    have other := deliver_retraced
      { net with queue, trace := written, handled := net.handled + 1 } written' event
    rw [delivered] at done other
    exact .inr ⟨after, written', done, done'.trans (congrArg some other)⟩

/-- **A run fails only when its budget is used up before the events are.** -/
theorem Sturdy.run_cases (sturdy : net.Sturdy) (n : Nat) :
    (Network.run n net).1 = .ok () ∧ (Network.run n net).2.queue.toList = [] ∨
      (Network.run n net).1 = .error .noConvergence ∧
        (Network.run n net).2.queue.toList ≠ [] := by
  induction n generalizing net with
  | zero =>
    unfold Network.run
    split
    · rename_i empty
      exact .inl ⟨rfl, EventQueue.isEmpty_iff.mp empty⟩
    · rename_i waiting
      exact .inr ⟨rfl, fun empty => waiting (EventQueue.isEmpty_iff.mpr empty)⟩
  | succ n ih =>
    unfold Network.run
    cases stepped : net.step with
    | none =>
      refine .inl ⟨rfl, EventQueue.pop?_eq_none_iff.mp ?_⟩
      cases popped : net.queue.pop? with
      | none => rfl
      | some first =>
        obtain ⟨trace, done⟩ := step_eq popped (sturdy.posted first.1
          (EventQueue.toList_of_pop?_eq_some popped ▸ List.mem_cons_self))
        cases done.symm.trans stepped
    | some outcome =>
      obtain ⟨result, after⟩ := outcome
      obtain ⟨_, _, _, _, rfl, -⟩ := sturdy.step stepped
      exact ih (sturdy.work (.event stepped))

/-- Runs with and without a trace differ in it at most. -/
theorem Sturdy.run_retraced (sturdy : net.Sturdy) (n : Nat) (trace : Option (Array String)) :
    ∃ trace', Network.run n (net.retraced trace) =
      ((Network.run n net).1, (Network.run n net).2.retraced trace') := by
  induction n generalizing net trace with
  | zero =>
    have same : (net.retraced trace).queue.isEmpty = net.queue.isEmpty := rfl
    refine ⟨trace, ?_⟩
    unfold Network.run
    rw [same]
    split <;> rfl
  | succ n ih =>
    unfold Network.run
    rcases sturdy.step_retraced trace with ⟨done, done'⟩ | ⟨after, trace', done, done'⟩
    · rw [done, done']
      exact ⟨trace, rfl⟩
    · rw [done, done']
      exact ih (sturdy.work (.event done)) trace'

/-- Processing the queue does not read the trace. -/
theorem Sturdy.settle_retraced (sturdy : net.Sturdy) (trace : Option (Array String)) :
    ∃ trace', (net.retraced trace).settle = (net.settle.1, net.settle.2.retraced trace') :=
  sturdy.run_retraced net.budget trace

/-! ## Whole operations -/

/-- Sending data does the same with and without a trace. -/
theorem Sturdy.send_retraced (sturdy : net.Sturdy) (trace : Option (Array String)) (id : DeviceId)
    (dst : Ipv4Address) (data : Bytes) :
    ∃ trace', (net.retraced trace).send id dst data =
      ((net.send id dst data).1, (net.send id dst data).2.retraced trace') := by
  have same : (net.retraced trace).getHost id = net.getHost id := rfl
  unfold Network.send
  rw [same]
  cases found : net.getHost id with
  | error e => exact ⟨trace, rfl⟩
  | ok host =>
    dsimp only
    cases posted : host.send dst data with
    | error e => exact ⟨trace, rfl⟩
    | ok sent => exact (sturdy.work (.send (getHost_eq_ok_iff.mp found) posted)).settle_retraced trace

/-- Asking again does the same with and without a trace. -/
theorem Sturdy.retransmit_retraced (sturdy : net.Sturdy) (trace : Option (Array String))
    (id : DeviceId) :
    ∃ trace', (net.retraced trace).retransmit id =
      ((net.retransmit id).1, (net.retransmit id).2.retraced trace') := by
  have same : (net.retraced trace).getHost id = net.getHost id := rfl
  unfold Network.retransmit
  rw [same]
  cases found : net.getHost id with
  | error e => exact ⟨trace, rfl⟩
  | ok host =>
    dsimp only
    cases posted : host.retransmit with
    | error e => exact ⟨trace, rfl⟩
    | ok sent =>
      obtain ⟨events, after⟩ := sent
      obtain ⟨trace', settled⟩ :=
        (sturdy.work (.retransmit (getHost_eq_ok_iff.mp found) posted)).settle_retraced trace
      have whole : ((net.retraced trace).setHost id after).enqueue events =
        ((net.setHost id after).enqueue events).retraced trace := rfl
      refine ⟨trace', ?_⟩
      dsimp only
      rw [whole, settled]

/-- An injected frame does the same with and without a trace. -/
theorem Sturdy.inject_retraced (sturdy : net.Sturdy) (trace : Option (Array String)) (id : DeviceId)
    (port : Port) (frame : Frame) :
    ∃ trace', (net.retraced trace).inject id port frame =
      ((net.inject id port frame).1, (net.inject id port frame).2.retraced trace') := by
  have same : (net.retraced trace).getSwitch id = net.getSwitch id := rfl
  unfold Network.inject
  rw [same]
  cases found : net.getSwitch id with
  | error e => exact ⟨trace, rfl⟩
  | ok switch =>
    exact (sturdy.work (.inject port frame (getSwitch_eq_ok_iff.mp found))).settle_retraced trace

/-- **No request reads the trace.** -/
theorem Sturdy.serve_retraced (sturdy : net.Sturdy) (trace : Option (Array String))
    (request : Request) :
    ∃ trace', (net.retraced trace).serve request =
      ((net.serve request).1, (net.serve request).2.retraced trace') := by
  have dressed : ∀ net : Network, net.retraced trace = net.redressed id id fun _ => trace :=
    fun _ => rfl
  cases request with
  | addSwitch => exact ⟨trace, rfl⟩
  | addHost => exact ⟨trace, rfl⟩
  | addLink south north =>
    refine ⟨trace, ?_⟩
    rw [dressed, dressed, serve, serve, addLink_redressed]
    rfl
  | attachHost id switch port =>
    refine ⟨trace, ?_⟩
    rw [dressed, dressed, serve, serve, attachHost_redressed]
    rfl
  | send id dst data =>
    obtain ⟨trace', same⟩ := sturdy.send_retraced trace id dst data
    exact ⟨trace', by rw [serve, serve, same]; rfl⟩
  | retransmit id =>
    obtain ⟨trace', same⟩ := sturdy.retransmit_retraced trace id
    exact ⟨trace', by rw [serve, serve, same]; rfl⟩
  | inject id port frame =>
    obtain ⟨trace', same⟩ := sturdy.inject_retraced trace id port frame
    exact ⟨trace', by rw [serve, serve, same]; rfl⟩
  | setStopAfter => exact ⟨trace, rfl⟩

/-- Sessions of the same requests differ in their traces only. -/
theorem Sturdy.serveAll_retraced (sturdy : net.Sturdy) (trace : Option (Array String))
    {session session' : List (Option (Array String) × Request)}
    (same : session'.map Prod.snd = session.map Prod.snd) :
    ∃ trace', serveAll session' (net.retraced trace) =
      ((serveAll session net).1, (serveAll session net).2.retraced trace') := by
  induction session generalizing net trace session' with
  | nil =>
    cases List.map_eq_nil_iff.mp same
    exact ⟨trace, rfl⟩
  | cons first rest ih =>
    cases session' with
    | nil => cases same
    | cons first' rest' =>
      obtain ⟨watched, request⟩ := first
      obtain ⟨watched', request'⟩ := first'
      obtain ⟨rfl, tails⟩ := List.cons.inj same
      have sturdy' : (net.retraced watched).Sturdy := sturdy.work (.watch watched)
      obtain ⟨trace', served⟩ := sturdy'.serve_retraced watched' request'
      obtain ⟨last, later⟩ :=
        ih (sturdy'.leads (leads_serve (net.retraced watched) request')) trace' tails
      have served : ((net.retraced trace).retraced watched').serve request' = _ := served
      refine ⟨last, ?_⟩
      rw [serveAll_cons, serveAll_cons, served, later]

end Runs

/-! ## What callers may rely on -/

/-- What makes every event of a network succeed. -/
structure Dependable (net : Network) : Prop where
  /-- Frames go to switches and to attached hosts. -/
  frames : ∀ target frame, .frame target frame ∈ net.queue.toList →
    (∃ switch, net.getSwitch target.device = .ok switch) ∨
      ∃ host, net.getHost target.device = .ok host ∧ host.uplink.isSome = true
  /-- Messages go to switches. -/
  messages : ∀ id message, .control id message ∈ net.queue.toList →
    ∃ switch, net.getSwitch id = .ok switch
  written : ∀ event ∈ net.queue.toList, ∃ line, net.describeEvent event = .ok line
  succeeds : ∀ result after, net.step = some (result, after) → result = .ok ()

/-- In a sturdy network every event succeeds. -/
theorem Sturdy.dependable {net : Network} (sturdy : net.Sturdy) : net.Dependable where
  frames target frame mem := by
    rcases sturdy.posted _ mem with ⟨outline, found⟩ | ⟨card, found, up, -⟩
    · obtain ⟨switch, here, rfl⟩ := Option.map_eq_some_iff.mp found
      exact .inl ⟨switch, getSwitch_eq_ok_iff.mpr here⟩
    · obtain ⟨host, here, rfl⟩ := Option.map_eq_some_iff.mp found
      exact .inr ⟨host, getHost_eq_ok_iff.mpr here, up⟩
  messages id message mem := by
    obtain ⟨outline, found⟩ := sturdy.posted _ mem
    obtain ⟨switch, here, rfl⟩ := Option.map_eq_some_iff.mp found
    exact ⟨switch, getSwitch_eq_ok_iff.mpr here⟩
  written event mem := net.describeEvent_ok (sturdy.posted event mem)
  succeeds result after stepped := by
    obtain ⟨_, _, _, _, ok, -⟩ := sturdy.step stepped
    exact ok

/-- **Nothing but the budget can fail.** In a network that users can bring about, no event fails, and
a run of any length, the one that ends an operation among them, returns without an error or reports
that events remain. Whether it is traced changes neither its result nor its state, and the same holds
of whole sessions. -/
theorem only_budget_fails {net : Network} (reached : net.Reached) :
    net.Dependable ∧
      (∀ n, (run n net).1 = .ok () ∧ (run n net).2.queue.toList = [] ∨
        (run n net).1 = .error .noConvergence ∧ (run n net).2.queue.toList ≠ []) ∧
      (∀ n trace, (run n (net.retraced trace)).1 = (run n net).1 ∧
        (run n (net.retraced trace)).2.untraced = (run n net).2.untraced) ∧
      ∀ session session' : List (Option (Array String) × Request),
        session'.map Prod.snd = session.map Prod.snd →
        (serveAll session' net).1 = (serveAll session net).1 ∧
          (serveAll session' net).2.untraced = (serveAll session net).2.untraced := by
  have sturdy := reached.sturdy
  refine ⟨sturdy.dependable, sturdy.run_cases, fun n trace => ?_, fun session session' same => ?_⟩
  · obtain ⟨trace', traced⟩ := sturdy.run_retraced n trace
    rw [traced]
    exact ⟨rfl, rfl⟩
  · obtain ⟨trace', traced⟩ := sturdy.serveAll_retraced net.trace same
    have own : net.retraced net.trace = net := rfl
    rw [own] at traced
    rw [traced]
    exact ⟨rfl, rfl⟩

/-- The lonely switch with a frame that it has not handled for want of a budget. -/
def delayed : Network := ((lonely.setStopAfter (some 0)).inject 0 (.lower 1) spoof).2

/-- A budget of no events is one that users may set. -/
theorem reached_delayed : delayed.Reached := by
  have built : lonely.Reached := ⟨_, _, Leads.refl.build (.addSwitch ..)⟩
  exact built.leads ((Work.setStopAfter (some 0)).leads.trans (leads_inject _ 0 (.lower 1) spoof))

/-- A delayed frame is handled by the next operation, and the trace does not show in its reply. -/
theorem delayed_dependable :
    delayed.queue.toList = [.frame ⟨0, .lower 1⟩ spoof] ∧ delayed.Dependable ∧
      ((run 1 delayed).1 = .ok () ∧ (run 1 delayed).2.queue.toList = [] ∨
        (run 1 delayed).1 = .error .noConvergence ∧ (run 1 delayed).2.queue.toList ≠ []) ∧
      (serveAll [(some #[], .setStopAfter (some 9)), (some #[], .inject 0 (.lower 0) spoof)]
          delayed).1 =
        (serveAll [(none, .setStopAfter (some 9)), (none, .inject 0 (.lower 0) spoof)]
          delayed).1 := by
  obtain ⟨dependable, runs, -, sessions⟩ := only_budget_fails reached_delayed
  exact ⟨by decide +kernel, dependable, runs 1, (sessions _ _ rfl).1⟩

end PmacFabric.Network
