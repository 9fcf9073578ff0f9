import PmacFabric.Proofs.Network.Building

/-!
# Everything that can happen to a network

A network changes by **moves**. A `Build` is a whole operation that adds a device or a link; a `Work`
is the beginning of an operation that sends, a change of the budget or of the trace, or the
processing of one event. `Leads` is any sequence of moves, and **`Reached`** holds of the networks
that moves lead to from an empty one: every network that its users can bring about, also between two
events, whatever they build, send and inject. `leads_send`, `leads_retransmit`, `leads_inject` and
`leads_settle` say that whole operations are made of moves.

`addLink_cases` and `attachHost_cases` say what the operations that may be refused do otherwise.
-/

namespace PmacFabric.Network

/-! ## Moves -/

/-- Adding a device or a link. -/
inductive Build (net : Network) : Network → Prop where
  | addSwitch (name : String) (identity : SwitchIdentity) (numLower numUpper : Nat) :
      Build net (net.addSwitch name identity numLower numUpper).2
  | addHost (name : String) (amac : MacAddress) (ip : Ipv4Address) :
      Build net (net.addHost name amac ip).2
  | addLink (south north : Endpoint) : Build net (net.addLink south north).2
  | attachHost (id switch : DeviceId) (port : Nat) : Build net (net.attachHost id switch port).2

/-- What does not change what has been built. -/
inductive Work (net : Network) : Network → Prop where
  /-- A host begins to send data. -/
  | send {id : DeviceId} {host after : Host} {dst : Ipv4Address} {data : Bytes}
      {events : List Event} : net.hostAt? id = some host →
      host.send dst data = .ok (events, after) → Work net ((net.setHost id after).enqueue events)
  /-- A host begins to ask again. -/
  | retransmit {id : DeviceId} {host after : Host} {events : List Event} :
      net.hostAt? id = some host → host.retransmit = .ok (events, after) →
      Work net ((net.setHost id after).enqueue events)
  /-- Any frame appears at any port of a switch. -/
  | inject {id : DeviceId} {switch : Switch} (port : Port) (frame : Frame) :
      net.switchAt? id = some switch → Work net (net.enqueue [.frame ⟨id, port⟩ frame])
  | setStopAfter (stopAfter : Option Nat) : Work net (net.setStopAfter stopAfter)
  /-- Tracing begins or ends. -/
  | watch (trace : Option (Array String)) : Work net { net with trace }
  /-- One event is processed. -/
  | event {result : Except NetworkError Unit} {after : Network} :
      net.step = some (result, after) → Work net after

/-- Any sequence of moves. -/
inductive Leads (net : Network) : Network → Prop where
  | refl : Leads net net
  | build {mid last : Network} : Leads net mid → Build mid last → Leads net last
  | work {mid last : Network} : Leads net mid → Work mid last → Leads net last

/-- The networks that users can bring about. -/
def Reached (net : Network) : Prop :=
  ∃ config streams, (Network.empty config streams).Leads net

/-- Sequences of moves can be joined. -/
theorem Leads.trans {a b c : Network} (first : a.Leads b) (second : b.Leads c) : a.Leads c := by
  induction second with
  | refl => exact first
  | build _ move ih => exact ih.build move
  | work _ move ih => exact ih.work move

/-- Whatever events do is a move. -/
theorem Work.leads {net after : Network} (move : net.Work after) : net.Leads after :=
  Leads.refl.work move

/-- What a network leads to can be reached if the network can. -/
theorem Reached.leads {net later : Network} (reached : net.Reached) (leads : net.Leads later) :
    later.Reached := by
  obtain ⟨config, streams, before⟩ := reached
  exact ⟨config, streams, before.trans leads⟩

/-! ## Whole operations -/

/-- A run is a sequence of moves. -/
theorem leads_run (n : Nat) (net : Network) : net.Leads (run n net).2 := by
  induction n generalizing net with
  | zero =>
    unfold run
    split <;> exact .refl
  | succ n ih =>
    unfold run
    split
    · exact .refl
    · rename_i stepped
      exact (Work.event stepped).leads
    · rename_i after stepped
      exact (Work.event stepped).leads.trans (ih after)

/-- Processing events within the budget is a sequence of moves. -/
theorem leads_settle (net : Network) : net.Leads net.settle.2 := leads_run net.budget net

/-- Sending data is a sequence of moves. -/
theorem leads_send (net : Network) (id : DeviceId) (dst : Ipv4Address) (data : Bytes) :
    net.Leads (net.send id dst data).2 := by
  unfold send
  split
  · exact .refl
  · rename_i host found
    split
    · exact .refl
    · rename_i posted
      exact (Work.send (getHost_eq_ok_iff.mp found) posted).leads.trans (leads_settle _)

/-- Asking again is a sequence of moves. -/
theorem leads_retransmit (net : Network) (id : DeviceId) :
    net.Leads (net.retransmit id).2 := by
  unfold retransmit
  split
  · exact .refl
  · rename_i host found
    split
    · exact .refl
    · rename_i posted
      exact (Work.retransmit (getHost_eq_ok_iff.mp found) posted).leads.trans (leads_settle _)

/-- Injecting a frame is a sequence of moves. -/
theorem leads_inject (net : Network) (id : DeviceId) (port : Port) (frame : Frame) :
    net.Leads (net.inject id port frame).2 := by
  unfold inject
  split
  · exact .refl
  · rename_i switch found
    exact (Work.inject port frame (getSwitch_eq_ok_iff.mp found)).leads.trans (leads_settle _)

/-! ## Operations that may be refused -/

/-- What passes the check is a port of a switch that has no link. -/
theorem free_of_checkFree {net : Network} {target : Endpoint}
    (passed : net.checkFree target = .ok ()) :
    net.ground.HasPort target ∧ net.ground.peer? target = none := by
  unfold checkFree at passed
  cases found : net.getSwitch target.device with
  | error e =>
    rw [found] at passed
    cases passed
  | ok switch =>
    have here := getSwitch_eq_ok_iff.mp found
    rw [found] at passed
    have outline := ground_outline here
    cases port : switch.port? target.port with
    | none =>
      simp only [Switch.checkFree, port] at passed
      cases passed
    | some state =>
      have loose : state.peer = none := by
        cases peer : state.peer with
        | none => rfl
        | some _ =>
          simp only [Switch.checkFree, port, peer, Option.isSome_some, if_true] at passed
          cases passed
      have present : (switch.port? target.port).isSome = true := by rw [port]; rfl
      refine ⟨⟨switch.outline, outline, (switch.hasPort_outline _).mpr present⟩, ?_⟩
      rw [Ground.peer?, outline, Option.bind_some, Switch.outline_peer?, Switch.peer?, port,
        Option.bind_some, loose]

/-- A link is refused, or it joins two free ports. -/
theorem addLink_cases (net : Network) (south north : Endpoint) :
    (net.addLink south north).2 = net ∨
      isLink south north = true ∧
        (net.ground.HasPort south ∧ net.ground.peer? south = none) ∧
        (net.ground.HasPort north ∧ net.ground.peer? north = none) ∧
        (net.addLink south north).2 = net.linked south north := by
  cases shape : isLink south north with
  | false =>
    left
    simp only [addLink, shape, Bool.not_false, if_true]
  | true =>
    cases passedSouth : net.checkFree south with
    | error e =>
      left
      simp only [addLink, shape, passedSouth, Bool.not_true, Bool.false_eq_true, if_false]
    | ok =>
      cases passedNorth : net.checkFree north with
      | error e =>
        left
        simp only [addLink, shape, passedSouth, passedNorth, Bool.not_true, Bool.false_eq_true,
          if_false]
      | ok =>
        have freeSouth := free_of_checkFree passedSouth
        have freeNorth := free_of_checkFree passedNorth
        have done := addLink_of_free shape freeSouth.1 freeNorth.1 freeSouth.2 freeNorth.2
        exact .inr ⟨rfl, freeSouth, freeNorth, congrArg Prod.snd done⟩

/-- An attachment is refused, or it joins a loose host with a free port. -/
theorem attachHost_cases (net : Network) (id switch : DeviceId) (port : Nat) :
    (net.attachHost id switch port).2 = net ∨
      ∃ host, net.hostAt? id = some host ∧ host.uplink = none ∧
        (net.ground.HasPort ⟨switch, .lower port⟩ ∧
          net.ground.peer? ⟨switch, .lower port⟩ = none) ∧
        (net.attachHost id switch port).2 = net.attached id switch port host := by
  cases found : net.getHost id with
  | error e =>
    left
    simp only [attachHost, found]
  | ok host =>
    have here := getHost_eq_ok_iff.mp found
    cases loose : host.uplink with
    | some uplink =>
      left
      simp only [attachHost, found, loose, Option.isSome_some, if_true]
    | none =>
      cases passed : net.checkFree ⟨switch, .lower port⟩ with
      | error e =>
        left
        simp only [attachHost, found, loose, passed, Option.isSome_none, Bool.false_eq_true,
          if_false]
      | ok =>
        have free := free_of_checkFree passed
        have done := attachHost_of_free here loose free.1 free.2
        exact .inr ⟨host, here, loose, free, congrArg Prod.snd done⟩

/-- **Work does not change the ground.** -/
theorem Work.ground {net after : Network} (move : net.Work after) : after.ground = net.ground := by
  cases move with
  | send here posted => exact ground_setHost here (Host.card_send posted) _
  | retransmit here posted => exact ground_setHost here (Host.card_retransmit posted) _
  | inject => rfl
  | setStopAfter => rfl
  | watch => rfl
  | event stepped => exact ground_step stepped

/-- Work leaves all switches their outlines. -/
theorem Work.outlines {net after : Network} (move : net.Work after) (id : DeviceId) :
    (after.switchAt? id).map Switch.outline = (net.switchAt? id).map Switch.outline :=
  congrFun (congrArg Ground.outline move.ground) id

end PmacFabric.Network
