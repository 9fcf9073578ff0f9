import PmacFabric.Proofs.Network.Topology
import PmacFabric.Proofs.Network.Tracing

/-!
# Refused operations

Operations that link two ends change both of them, one after the other, and each of these steps may
fail. Both ends are checked first, so that none of them does: a link is refused and nothing changes,
or it is made (`addLink_outcome`, `attachHost_outcome`). Operations that send are refused before
they begin, for the device that they name. Once they have begun no event fails, and only the budget
can end them early (`Sturdy.send_outcome`, `Sturdy.retransmit_outcome`, `Sturdy.inject_outcome`).

**`operations_atomic`** says for every network that users can bring about which operations are
refused, and that one which reports an error has changed nothing, unless its budget was used up.
-/

namespace PmacFabric.Network

section Atomic

variable {net : Network}

/-! ## What may be linked -/

/-- Whether a link end is a port of a switch, and has no link. -/
def Free (net : Network) (target : Endpoint) : Prop :=
  ∃ switch state, net.getSwitch target.device = .ok switch ∧
    switch.port? target.port = some state ∧ state.peer = none

/-- Whether a device is a host, and has no link. -/
def Loose (net : Network) (id : DeviceId) : Prop :=
  ∃ host, net.getHost id = .ok host ∧ host.uplink = none

/-- Whether a device is a host, and has a link. -/
def Attached (net : Network) (id : DeviceId) : Prop :=
  ∃ host uplink, net.getHost id = .ok host ∧ host.uplink = some uplink

/-- Whether a link end is free can be read off the ground. -/
theorem free_iff {target : Endpoint} :
    net.Free target ↔ net.ground.HasPort target ∧ net.ground.peer? target = none := by
  constructor
  · rintro ⟨switch, state, found, port, loose⟩
    have outline := ground_outline (getSwitch_eq_ok_iff.mp found)
    have present : (switch.port? target.port).isSome = true := by rw [port]; rfl
    refine ⟨⟨switch.outline, outline, (switch.hasPort_outline _).mpr present⟩, ?_⟩
    rw [Ground.peer?, outline, Option.bind_some, Switch.outline_peer?, Switch.peer?, port,
      Option.bind_some, loose]
  · rintro ⟨⟨outline, found, has⟩, alone⟩
    obtain ⟨switch, here, rfl⟩ := Option.map_eq_some_iff.mp found
    obtain ⟨state, port⟩ := Option.isSome_iff_exists.mp ((switch.hasPort_outline _).mp has)
    refine ⟨switch, state, getSwitch_eq_ok_iff.mpr here, port, ?_⟩
    rwa [Ground.peer?, ground_outline here, Option.bind_some, Switch.outline_peer?, Switch.peer?,
      port, Option.bind_some] at alone

/-- The check before a link is passed by free ports only. -/
theorem checkFree_eq_ok_iff {target : Endpoint} :
    net.checkFree target = .ok () ↔ net.Free target := by
  rw [free_iff]
  exact ⟨free_of_checkFree, fun free => checkFree_of_free free.1 free.2⟩

/-! ## Making links -/

/-- Whether two ends may be linked: a free upper port, and a free lower port of another switch. -/
def Linkable (net : Network) (south north : Endpoint) : Prop :=
  south.port.isUpper = true ∧ north.port.isUpper = false ∧ south.device ≠ north.device ∧
    net.Free south ∧ net.Free north

/-- What becomes of an operation that makes a link: it is refused, or it is done. -/
def Makes (net : Network) (admitted : Prop) (outcome : Except NetworkError Unit × Network) : Prop :=
  (¬ admitted ∧ ∃ e, outcome = (.error e, net)) ∨ admitted ∧ outcome.1 = .ok ()

/-- An operation that makes links changes nothing when it is refused. -/
theorem Makes.unchanged {admitted : Prop} {outcome : Except NetworkError Unit × Network}
    (makes : net.Makes admitted outcome) {e : NetworkError} (failed : outcome.1 = .error e) :
    outcome.2 = net := by
  rcases makes with ⟨-, _, same⟩ | ⟨-, done⟩
  · rw [same]
  · cases done.symm.trans failed

/-- It succeeds exactly if it is admitted. -/
theorem Makes.ok_iff {admitted : Prop} {outcome : Except NetworkError Unit × Network}
    (makes : net.Makes admitted outcome) : outcome.1 = .ok () ↔ admitted := by
  rcases makes with ⟨refused, e, same⟩ | ⟨granted, done⟩
  · refine ⟨fun done => ?_, fun granted => absurd granted refused⟩
    cases (congrArg Prod.fst same).symm.trans done
  · exact ⟨fun _ => granted, fun _ => done⟩

/-- **Two ends are linked exactly if they may be**, and otherwise nothing changes: behind the
checks, connecting does not fail. -/
theorem addLink_outcome (net : Network) (south north : Endpoint) :
    net.Makes (net.Linkable south north) (net.addLink south north) := by
  cases shape : isLink south north with
  | false =>
    refine .inl ⟨?_, .invalidLink south north, ?_⟩
    · rintro ⟨up, down, apart, -⟩
      rw [isLink_iff.mpr ⟨up, down, apart⟩] at shape
      cases shape
    · simp only [addLink, shape, Bool.not_false, if_true]
  | true =>
    obtain ⟨up, down, apart⟩ := isLink_iff.mp shape
    cases southern : net.checkFree south with
    | error e =>
      refine .inl ⟨?_, e, ?_⟩
      · rintro ⟨-, -, -, free, -⟩
        cases southern.symm.trans (checkFree_eq_ok_iff.mpr free)
      · simp only [addLink, shape, southern, Bool.not_true, Bool.false_eq_true, if_false]
    | ok =>
      cases northern : net.checkFree north with
      | error e =>
        refine .inl ⟨?_, e, ?_⟩
        · rintro ⟨-, -, -, -, free⟩
          cases northern.symm.trans (checkFree_eq_ok_iff.mpr free)
        · simp only [addLink, shape, southern, northern, Bool.not_true, Bool.false_eq_true,
            if_false]
      | ok =>
        have first := free_of_checkFree southern
        have second := free_of_checkFree northern
        have made := addLink_of_free shape first.1 second.1 first.2 second.2
        exact .inr ⟨⟨up, down, apart, free_iff.mpr first, free_iff.mpr second⟩,
          congrArg Prod.fst made⟩

/-- **A host is attached exactly if it and the port may be linked**, and otherwise nothing
changes. -/
theorem attachHost_outcome (net : Network) (id switch : DeviceId) (port : Nat) :
    net.Makes (net.Loose id ∧ net.Free ⟨switch, .lower port⟩) (net.attachHost id switch port) := by
  cases found : net.getHost id with
  | error e =>
    refine .inl ⟨?_, e, ?_⟩
    · rintro ⟨⟨host, here, -⟩, -⟩
      cases found.symm.trans here
    · simp only [attachHost, found]
  | ok host =>
    cases loose : host.uplink with
    | some uplink =>
      refine .inl ⟨?_, .device (.portAlreadyConnected (.upper 0)), ?_⟩
      · rintro ⟨⟨host', here, alone⟩, -⟩
        cases found.symm.trans here
        cases loose.symm.trans alone
      · simp only [attachHost, found, loose, Option.isSome_some, if_true]
    | none =>
      cases passed : net.checkFree ⟨switch, .lower port⟩ with
      | error e =>
        refine .inl ⟨?_, e, ?_⟩
        · rintro ⟨-, free⟩
          cases passed.symm.trans (checkFree_eq_ok_iff.mpr free)
        · simp only [attachHost, found, loose, passed, Option.isSome_none, Bool.false_eq_true,
            if_false]
      | ok =>
        have free := free_of_checkFree passed
        have made := attachHost_of_free (getHost_eq_ok_iff.mp found) loose free.1 free.2
        exact .inr ⟨⟨⟨host, found, loose⟩, free_iff.mpr free⟩, congrArg Prod.fst made⟩

/-! ## Sending -/

/-- What becomes of an operation that sends: it is refused, or it ends without an error or for want
of budget. -/
def Begins {α : Type} (net : Network) (admitted : Prop)
    (outcome : Except NetworkError α × Network) : Prop :=
  (¬ admitted ∧ ∃ e, e ≠ .noConvergence ∧ outcome = (.error e, net)) ∨
    admitted ∧ ((∃ a, outcome.1 = .ok a) ∨ outcome.1 = .error .noConvergence)

/-- Events that are processed end without an error or for want of budget. -/
theorem Sturdy.settles (sturdy : net.Sturdy) :
    net.settle.1 = .ok () ∨ net.settle.1 = .error .noConvergence := by
  rcases sturdy.run_cases net.budget with ⟨done, -⟩ | ⟨exhausted, -⟩
  · exact .inl done
  · exact .inr exhausted

/-- A missing host is not reported as a missing budget. -/
theorem getHost_error {id : DeviceId} {e : NetworkError} (absent : net.getHost id = .error e) :
    e ≠ .noConvergence := by
  unfold getHost at absent
  split at absent <;> cases absent <;> exact NetworkError.noConfusion

/-- A missing switch is not taken for want of budget. -/
theorem getSwitch_error {id : DeviceId} {e : NetworkError} (absent : net.getSwitch id = .error e) :
    e ≠ .noConvergence := by
  unfold getSwitch at absent
  split at absent <;> cases absent <;> exact NetworkError.noConfusion

/-- What is no host is not attached. -/
theorem not_attached_of_error {id : DeviceId} {e : NetworkError}
    (absent : net.getHost id = .error e) : ¬ net.Attached id := by
  rintro ⟨host, uplink, found, -⟩
  cases absent.symm.trans found

/-- A host without a link is not attached. -/
theorem not_attached_of_loose {id : DeviceId} {host : Host} (found : net.getHost id = .ok host)
    (loose : host.uplink = none) : ¬ net.Attached id := by
  rintro ⟨host', uplink, found', attached⟩
  cases found.symm.trans found'
  cases loose.symm.trans attached

/-- Sending is refused unless the host is attached. -/
theorem Sturdy.send_outcome (sturdy : net.Sturdy) (id : DeviceId) (dst : Ipv4Address)
    (data : Bytes) : net.Begins (net.Attached id) (net.send id dst data) := by
  cases found : net.getHost id with
  | error e =>
    refine .inl ⟨not_attached_of_error found, e, getHost_error found, ?_⟩
    simp only [send, found]
  | ok host =>
    cases loose : host.uplink with
    | none =>
      refine .inl ⟨not_attached_of_loose found loose, .device .notConnected, nofun, ?_⟩
      simp only [send, found, Host.send, loose]
    | some uplink =>
      obtain ⟨⟨events, later⟩, posted⟩ : ∃ sent, host.send dst data = .ok sent := by
        cases known : host.resolve? dst with
        | some mac => exact ⟨_, Host.send_eq_known loose known data⟩
        | none => exact ⟨_, Host.send_eq_unknown loose known data⟩
      have begun := sturdy.work (.send (getHost_eq_ok_iff.mp found) posted)
      refine .inr ⟨⟨host, uplink, found, loose⟩, ?_⟩
      simp only [send, found, posted]
      rcases begun.settles with done | exhausted
      · exact .inl ⟨(), done⟩
      · exact .inr exhausted

/-- Asking again is refused unless the host is attached. -/
theorem Sturdy.retransmit_outcome (sturdy : net.Sturdy) (id : DeviceId) :
    net.Begins (net.Attached id) (net.retransmit id) := by
  cases found : net.getHost id with
  | error e =>
    refine .inl ⟨not_attached_of_error found, e, getHost_error found, ?_⟩
    simp only [retransmit, found]
  | ok host =>
    cases loose : host.uplink with
    | none =>
      refine .inl ⟨not_attached_of_loose found loose, .device .notConnected, nofun, ?_⟩
      simp only [retransmit, found, Host.retransmit, loose]
    | some uplink =>
      have posted := Host.retransmit_eq loose
      have begun := sturdy.work (.retransmit (getHost_eq_ok_iff.mp found) posted)
      refine .inr ⟨⟨host, uplink, found, loose⟩, ?_⟩
      simp only [retransmit, found, posted]
      rcases begun.settles with done | exhausted
      · exact .inl ⟨_, congrArg (Except.map _) done⟩
      · exact .inr (congrArg (Except.map _) exhausted)

/-- A frame is refused unless it is injected at a switch. -/
theorem Sturdy.inject_outcome (sturdy : net.Sturdy) (id : DeviceId) (port : Port) (frame : Frame) :
    net.Begins (∃ switch, net.getSwitch id = .ok switch) (net.inject id port frame) := by
  cases found : net.getSwitch id with
  | error e =>
    refine .inl ⟨nofun, e, getSwitch_error found, ?_⟩
    simp only [inject, found]
  | ok switch =>
    have begun := sturdy.work (.inject port frame (getSwitch_eq_ok_iff.mp found))
    refine .inr ⟨⟨switch, rfl⟩, ?_⟩
    simp only [inject, found]
    rcases begun.settles with done | exhausted
    · exact .inl ⟨(), done⟩
    · exact .inr exhausted

/-- An error that is not about the budget has changed nothing. -/
theorem Begins.unchanged {α : Type} {admitted : Prop} {outcome : Except NetworkError α × Network}
    (begins : net.Begins admitted outcome) {e : NetworkError} (failed : outcome.1 = .error e)
    (other : e ≠ .noConvergence) : outcome.2 = net := by
  rcases begins with ⟨-, _, -, same⟩ | ⟨-, ⟨a, done⟩ | exhausted⟩
  · rw [same]
  · cases done.symm.trans failed
  · cases exhausted.symm.trans failed
    exact absurd rfl other

/-- An operation is refused exactly if it is not admitted; want of budget is no refusal. -/
theorem Begins.refused_iff {α : Type} {admitted : Prop}
    {outcome : Except NetworkError α × Network} (begins : net.Begins admitted outcome) :
    (∃ e, outcome.1 = .error e ∧ e ≠ .noConvergence) ↔ ¬ admitted := by
  constructor
  · rintro ⟨e, failed, other⟩
    rcases begins with ⟨refused, -⟩ | ⟨-, ⟨a, done⟩ | exhausted⟩
    · exact refused
    · cases done.symm.trans failed
    · cases exhausted.symm.trans failed
      exact absurd rfl other
  · intro refused
    rcases begins with ⟨-, e, other, same⟩ | ⟨granted, -⟩
    · exact ⟨e, congrArg Prod.fst same, other⟩
    · exact absurd granted refused

/-! ## What callers may rely on -/

/-- Operations that fail have changed nothing, and links are made exactly between ends that may be
linked. -/
structure Atomic (net : Network) : Prop where
  addLink : ∀ south north e, (net.addLink south north).1 = .error e →
    (net.addLink south north).2 = net
  attachHost : ∀ id switch port e, (net.attachHost id switch port).1 = .error e →
    (net.attachHost id switch port).2 = net
  send : ∀ id dst data e, (net.send id dst data).1 = .error e → e ≠ .noConvergence →
    (net.send id dst data).2 = net
  retransmit : ∀ id e, (net.retransmit id).1 = .error e → e ≠ .noConvergence →
    (net.retransmit id).2 = net
  inject : ∀ id port frame e, (net.inject id port frame).1 = .error e → e ≠ .noConvergence →
    (net.inject id port frame).2 = net
  addLink_ok : ∀ south north, (net.addLink south north).1 = .ok () ↔ net.Linkable south north
  attachHost_ok : ∀ id switch port, (net.attachHost id switch port).1 = .ok () ↔
    net.Loose id ∧ net.Free ⟨switch, .lower port⟩
  send_refused : ∀ id dst data,
    (∃ e, (net.send id dst data).1 = .error e ∧ e ≠ .noConvergence) ↔ ¬ net.Attached id
  retransmit_refused : ∀ id,
    (∃ e, (net.retransmit id).1 = .error e ∧ e ≠ .noConvergence) ↔ ¬ net.Attached id
  inject_refused : ∀ id port frame,
    (∃ e, (net.inject id port frame).1 = .error e ∧ e ≠ .noConvergence) ↔
      ¬ ∃ switch, net.getSwitch id = .ok switch

/-- **Operations are atomic**: in every network that users can bring about, an error other than that
of the budget comes from an operation that has changed nothing. -/
theorem operations_atomic (reached : net.Reached) : net.Atomic where
  addLink south north _ := (net.addLink_outcome south north).unchanged
  attachHost id switch port _ := (net.attachHost_outcome id switch port).unchanged
  send id dst data _ := (reached.sturdy.send_outcome id dst data).unchanged
  retransmit id _ := (reached.sturdy.retransmit_outcome id).unchanged
  inject id port frame _ := (reached.sturdy.inject_outcome id port frame).unchanged
  addLink_ok south north := (net.addLink_outcome south north).ok_iff
  attachHost_ok id switch port := (net.attachHost_outcome id switch port).ok_iff
  send_refused id dst data := (reached.sturdy.send_outcome id dst data).refused_iff
  retransmit_refused id := (reached.sturdy.retransmit_outcome id).refused_iff
  inject_refused id port frame := (reached.sturdy.inject_outcome id port frame).refused_iff

end Atomic

/-- A network that has refused links before refuses to attach a host twice and to send from a
switch, and still makes a link. -/
theorem stubborn_atomic :
    (stubborn.attachHost 1 2 1).1 = .error (.device (.portAlreadyConnected (.upper 0))) ∧
      (stubborn.send 0 ⟨10, 0, 0, 2⟩ []).1 = .error (.deviceIsNotAHost 0) ∧
      (stubborn.addLink ⟨0, .upper 0⟩ ⟨2, .lower 1⟩).1 = .ok () ∧ stubborn.Atomic :=
  ⟨by decide +kernel, by decide +kernel, by decide +kernel, operations_atomic reached_stubborn⟩

end PmacFabric.Network
