import PmacFabric.Proofs.Device.Accounting
import PmacFabric.Proofs.Network.Deeds
import PmacFabric.Proofs.Network.Limit

/-!
# The addresses of switches

A switch keeps the frames that are addressed to it, and its address holds the low sixteen bits of
its number. So the addresses of two switches are the same exactly if their numbers differ by a
multiple of 65536 (`Switch.address_eq_iff`), which takes a network of more than 65536 devices.

Whatever happens, the inbox of a switch only ever holds frames for its own address (`Reached.kept`).
**`address_shared_iff`** combines both: two switches of a network take frames for each other exactly
if they are that far apart, and no two do in a network of up to 65536 devices. `addresses_repeat` is
the first network in which two do.
-/

namespace PmacFabric

/-- Two octets of a number are its low sixteen bits. -/
theorem octets_eq_iff {m n : Nat} :
    (UInt8.ofNat (m / 256) = UInt8.ofNat (n / 256) ∧ UInt8.ofNat m = UInt8.ofNat n) ↔
      m % 65536 = n % 65536 := by
  simp only [← UInt8.toNat_inj, UInt8.toNat_ofNat']
  omega

namespace Switch

variable {switch : Switch}

/-- Switches share an address when the low 16 bits of their numbers are the same. -/
theorem address_eq_iff {other : Switch} :
    switch.address = other.address ↔ switch.id % 65536 = other.id % 65536 := by
  simp only [address, MacAddress.mk.injEq, true_and, octets_eq_iff]

theorem address_congr {other : Switch} (same : switch.id = other.id) :
    switch.address = other.address := by
  rw [address, address, same]

/-- A switch keeps the frames for its own address that arrive at a port, and no others. -/
theorem inbox_receive (switch : Switch) (stream : Choice.Stream) (manager : FabricManager)
    (port : Port) (frame : Frame) :
    (switch.receive stream manager port frame).switch.inbox =
      if (switch.port? port).isSome = true ∧ frame.dst = switch.address then
        switch.inbox.push frame
      else switch.inbox := by
  cases found : switch.port? port with
  | none =>
    rw [if_neg fun own => Bool.noConfusion own.1]
    simp only [receive, found]
  | some state =>
    have here : (switch.port? port).isSome = true := by rw [found, Option.isSome_some]
    by_cases own : frame.dst = switch.address
    · rw [if_pos ⟨rfl, own⟩, receive_own found own]
      exact congrArg (·.push frame) (inbox_countReceived switch port frame)
    · rw [if_neg fun all => own all.2]
      exact (receive_handled here own).inbox

/-- A switch keeps exactly those frames for itself that arrive at one of its ports under its
address. -/
theorem takes_iff (switch : Switch) (stream : Choice.Stream) (manager : FabricManager)
    (port : Port) (frame : Frame) :
    (switch.receive stream manager port frame).switch.inbox = switch.inbox.push frame ↔
      (switch.port? port).isSome = true ∧ frame.dst = switch.address := by
  rw [inbox_receive]
  split
  · rename_i taken
    exact ⟨fun _ => taken, fun _ => rfl⟩
  · rename_i ignored
    refine ⟨fun same => ?_, fun taken => absurd taken ignored⟩
    have size := congrArg Array.size same
    rw [Array.size_push] at size
    omega

end Switch

namespace Network

variable {net after : Network} {id : DeviceId} {switch : Switch}

/-! ## Inboxes -/

/-- The inboxes of switches hold frames for their own addresses only. -/
def Kept (net : Network) : Prop :=
  ∀ id switch, net.switchAt? id = some switch → ∀ frame ∈ switch.inbox, frame.dst = switch.address

/-- Nothing comes into an inbox while devices and links are added. -/
theorem Kept.build (kept : net.Kept) (move : net.Build after) : after.Kept := by
  intro id switch' found frame mem
  rcases move.switchAt? found with fresh | ⟨switch, here, same, memory⟩
  · have bare : switch'.inbox = #[] := congrArg Switch.Memory.inbox fresh
    rw [bare] at mem
    exact absurd mem (Array.not_mem_empty _)
  · have inbox : switch'.inbox = switch.inbox := congrArg Switch.Memory.inbox memory
    rw [inbox] at mem
    rw [kept id switch here frame mem, Switch.address_congr same.id]

/-- A switch that takes in frames for its own address only keeps the law. -/
theorem Kept.applySwitch (kept : net.Kept) (here : net.switchAt? id = some switch)
    {outcome : Switch.Outcome} (outline : outcome.switch.outline = switch.outline)
    (own : ∀ frame ∈ outcome.switch.inbox, frame ∈ switch.inbox ∨ frame.dst = switch.address) :
    (net.applySwitch id outcome).Kept := by
  intro key switch' found frame mem
  have found : (net.setSwitch id outcome.switch).switchAt? key = some switch' := found
  rw [switchAt?_setSwitch here] at found
  split at found
  · cases found
    rw [Switch.address_congr (congrArg Switch.Outline.id outline)]
    rcases own frame mem with before | new
    · exact kept id switch here frame before
    · exact new
  · exact kept key switch' found frame mem

/-- Nothing comes into an inbox of a switch when a host changes. -/
theorem Kept.setHost {host : Host} (kept : net.Kept) (here : net.hostAt? id = some host)
    (later : Host) : (net.setHost id later).Kept :=
  fun key switch found => kept key switch ((switchAt?_setHost here _ _).symm.trans found)

/-- **A switch takes in no frame for others**, whatever happens to it. -/
theorem Kept.deliver (kept : net.Kept) (event : Event) : (net.deliver event).2.Kept := by
  cases event with
  | frame target frame =>
    obtain ⟨id, port⟩ := target
    cases found : net.getDevice? id with
    | none => simpa only [Network.deliver, found] using kept
    | some device =>
      cases device with
      | switch switch =>
        have here := switchAt?_of_getDevice? found
        rw [deliver_to_switch here]
        refine kept.applySwitch here (switch.outline_receive _ _ _ _) fun other mem => ?_
        rw [Switch.inbox_receive] at mem
        split at mem
        · rename_i own
          rcases Array.mem_push.mp mem with before | rfl
          · exact .inl before
          · exact .inr own.2
        · exact .inl mem
      | host host =>
        have here := hostAt?_of_getDevice? found
        rw [deliver_to_host here]
        exact kept.setHost here _
  | control id message =>
    cases found : net.getDevice? id with
    | none => simpa only [Network.deliver, found] using kept
    | some device =>
      cases device with
      | switch switch =>
        have here := switchAt?_of_getDevice? found
        have handled := switch.receiveMessage_handled (net.streams id) net.manager message
        rw [deliver_control here]
        refine kept.applySwitch here handled.outline fun other mem => ?_
        rw [handled.inbox] at mem
        exact .inl mem
      | host host => simpa only [Network.deliver, found] using kept

/-- What events bring into the inbox of a switch is for the switch itself. -/
theorem Kept.work (kept : net.Kept) (sturdy : net.Sturdy) (move : net.Work after) : after.Kept := by
  cases move with
  | send here => exact kept.setHost here _
  | retransmit here => exact kept.setHost here _
  | inject => exact kept
  | setStopAfter => exact kept
  | watch => exact kept
  | event stepped =>
    obtain ⟨event, queue, trace, -, -, delivered⟩ := sturdy.delivers stepped
    have before : Kept { net with queue, trace, handled := net.handled + 1 } := kept
    have last : after = (Network.deliver _ event).2 := congrArg Prod.snd delivered
    rw [last]
    exact before.deliver event

/-- **The inboxes of switches hold frames for their own addresses only**, in every network that
users can bring about. -/
theorem Reached.kept (reached : net.Reached) : net.Kept := by
  obtain ⟨config, streams, leads⟩ := reached
  induction leads with
  | refl => exact nofun
  | build _ move ih => exact ih.build move
  | work before move ih => exact ih.work ((sturdy_empty config streams).leads before) move

/-! ## Who takes whose frames -/

/-- **Two switches of a network take frames for each other exactly if their numbers differ by a
multiple of 65536**, whatever has happened before. So no two of them do among up to 65536 devices. -/
theorem address_shared_iff (reached : net.Reached) {i j : DeviceId} {a b : Switch}
    (first : net.getSwitch i = .ok a) (second : net.getSwitch j = .ok b) :
    (a.address = b.address ↔ i % 65536 = j % 65536) ∧
      (∀ stream manager port frame, frame.dst = b.address →
        ((a.receive stream manager port frame).switch.inbox = a.inbox.push frame ↔
          (a.port? port).isSome = true ∧ i % 65536 = j % 65536)) ∧
      (∀ frame ∈ a.inbox, frame.dst = b.address → i % 65536 = j % 65536) ∧
      (net.devices.size ≤ 65536 → i ≠ j →
        a.address ≠ b.address ∧ ∀ frame ∈ a.inbox, frame.dst ≠ b.address) := by
  have here := getSwitch_eq_ok_iff.mp first
  have there := getSwitch_eq_ok_iff.mp second
  have number : a.id = i := reached.sturdy.wired.number (ground_outline here)
  have number' : b.id = j := reached.sturdy.wired.number (ground_outline there)
  have shared : a.address = b.address ↔ i % 65536 = j % 65536 := by
    rw [Switch.address_eq_iff, number, number']
  have foreign : ∀ frame ∈ a.inbox, frame.dst = b.address → i % 65536 = j % 65536 :=
    fun frame mem own => shared.mp ((reached.kept i a here frame mem).symm.trans own)
  refine ⟨shared, fun stream manager port frame own => ?_, foreign, fun small apart => ?_⟩
  · rw [a.takes_iff, own, eq_comm (a := b.address), shared]
  · have low : i < 65536 :=
      Nat.lt_of_lt_of_le (lt_size_of_getDevice? (getDevice?_of_switchAt? here)) small
    have low' : j < 65536 :=
      Nat.lt_of_lt_of_le (lt_size_of_getDevice? (getDevice?_of_switchAt? there)) small
    have unequal : i % 65536 ≠ j % 65536 := by
      rwa [Nat.mod_eq_of_lt low, Nat.mod_eq_of_lt low']
    exact ⟨fun same => unequal (shared.mp same), fun frame mem own =>
      unequal (foreign frame mem own)⟩

/-- As many core switches as wanted, without links. -/
def row : Nat → Network
  | 0 => .empty {} fun _ _ => 0
  | n + 1 => ((row n).addSwitch "core" ⟨.core, 0, 0⟩ 1 0).2

/-- The switches of a row differ in their numbers only. -/
def rowSwitch (id : DeviceId) : Switch := .new "core" id ⟨.core, 0, 0⟩ 1 0

/-- A row is built switch by switch. -/
theorem reached_row : ∀ n, (row n).Reached
  | 0 => ⟨_, _, .refl⟩
  | n + 1 => (reached_row n).leads (Leads.refl.build (.addSwitch ..))

/-- A frame for the first switch of a row. -/
def courier : Frame := ⟨⟨2, 0, 0, 0, 0, 1⟩, (rowSwitch 0).address, .raw 0x88b5 [1]⟩

/-- A row of two, after a frame for the first switch has been injected at both. -/
def exchange : Network :=
  (((row 2).inject 0 (.lower 0) courier).2.inject 1 (.lower 0) courier).2

/-- The exchange is a row that two frames were injected into. -/
theorem reached_exchange : exchange.Reached :=
  (reached_row 2).leads ((leads_inject ..).trans (leads_inject ..))

/-- Of two switches of a small network, the one with the address keeps the frame. -/
theorem exchange_apart :
    ∃ a b, exchange.getSwitch 0 = .ok a ∧ exchange.getSwitch 1 = .ok b ∧
      a.inbox = #[courier] ∧ b.inbox = #[] ∧ a.address ≠ b.address := by
  have left : (exchange.switchAt? 0).map Switch.inbox = some #[courier] := by decide +kernel
  have right : (exchange.switchAt? 1).map Switch.inbox = some #[] := by decide +kernel
  have few : exchange.devices.size ≤ 65536 := by decide +kernel
  obtain ⟨a, here, keeps⟩ := Option.map_eq_some_iff.mp left
  obtain ⟨b, there, ignores⟩ := Option.map_eq_some_iff.mp right
  have first := getSwitch_eq_ok_iff.mpr here
  have second := getSwitch_eq_ok_iff.mpr there
  obtain ⟨-, -, -, apart⟩ := address_shared_iff reached_exchange first second
  exact ⟨a, b, first, second, keeps, ignores, (apart few (by decide)).1⟩

/-! ## Switches that share an address -/

/-- A frame that is injected at a switch with its address ends in its inbox. -/
theorem Sturdy.inject_own (sturdy : net.Sturdy) (idle : net.queue.toList = [])
    (limit : 1 ≤ net.budget) (here : net.switchAt? id = some switch) {port : Port} {frame : Frame}
    (has : (switch.port? port).isSome = true) (own : frame.dst = switch.address) :
    ∃ later, (net.inject id port frame).2.getSwitch id = .ok later ∧
      later.inbox = switch.inbox.push frame := by
  obtain ⟨state, found⟩ := Option.isSome_iff_exists.mp has
  have begun := sturdy.work (.inject port frame here)
  have waiting : (net.enqueue [.frame ⟨id, port⟩ frame]).queue.toList =
      [.frame ⟨id, port⟩ frame] := by
    rw [enqueue, EventQueue.toList_pushAll, idle, List.nil_append]
  cases stepped : (net.enqueue [.frame ⟨id, port⟩ frame]).step with
  | none =>
    rw [queue_of_step_eq_none stepped] at waiting
    cases waiting
  | some outcome =>
    obtain ⟨result, next⟩ := outcome
    obtain ⟨event, queue, trace, raised, rfl, taken, -, added⟩ := begun.step stepped
    obtain ⟨-, rest⟩ := List.cons.inj (waiting.symm.trans taken)
    rw [← rest] at added
    obtain ⟨-, rfl, -, emitted, -, -, switches⟩ := begun.applies waiting here stepped added
    have silent : (switch.receive (net.streams id) net.manager port frame).events = [] :=
      congrArg Switch.Outcome.events (switch.receive_own found own)
    have drains : Drains (net.enqueue [.frame ⟨id, port⟩ frame]) 1 next :=
      ⟨after?_succ stepped, added.trans (emitted.trans silent)⟩
    have settled : Network.settle (net.enqueue [.frame ⟨id, port⟩ frame]) = (.ok (), next) :=
      begun.run_of_drains drains limit
    refine ⟨_, ?_, (switch.inbox_receive (net.streams id) net.manager port frame).trans
      (if_pos ⟨has, own⟩)⟩
    rw [inject, getSwitch_eq_ok_iff.mpr here]
    dsimp only
    rw [settled, getSwitch_eq_ok_iff]
    exact (switches id).trans (if_pos rfl)

theorem size_row : ∀ n, (row n).devices.size = n
  | 0 => rfl
  | n + 1 => (Array.size_push _).trans (congrArg (· + 1) (size_row n))

theorem queue_row : ∀ n, (row n).queue = .empty
  | 0 => rfl
  | n + 1 => queue_row n

theorem config_row : ∀ n, (row n).config = {}
  | 0 => rfl
  | n + 1 => config_row n

/-- Every switch of a row is known by its number. -/
theorem switchAt?_row {n id : Nat} (inside : id < n) :
    (row n).switchAt? id = some (rowSwitch id) := by
  induction n with
  | zero => exact absurd inside (Nat.not_lt_zero id)
  | succ n ih =>
    rw [row, switchAt?_addSwitch, size_row]
    split
    · rename_i last
      rw [rowSwitch, last]
    · rename_i other
      exact ih (Nat.lt_of_le_of_ne (Nat.le_of_lt_succ inside) other)

/-- **Two switches of a row that are a multiple of 65536 apart share an address**, and each takes in
frames for the other. -/
theorem row_shares {n i j : Nat} (first : i < n) (second : j < n) (apart : i % 65536 = j % 65536) :
    ∃ a b, (row n).getSwitch i = .ok a ∧ (row n).getSwitch j = .ok b ∧ a.address = b.address ∧
      ∀ frame : Frame, frame.dst = a.address →
        ∃ later, ((row n).inject j (.lower 0) frame).2.getSwitch j = .ok later ∧
          later.inbox = #[frame] := by
  have shared : (rowSwitch i).address = (rowSwitch j).address := Switch.address_eq_iff.mpr apart
  have idle : (row n).queue.toList = [] := by rw [queue_row, EventQueue.toList_empty]
  have limit : 1 ≤ (row n).budget := by
    rw [budget, config_row]
    decide
  exact ⟨_, _, getSwitch_eq_ok_iff.mpr (switchAt?_row first),
    getSwitch_eq_ok_iff.mpr (switchAt?_row second), shared, fun frame own =>
      (reached_row n).sturdy.inject_own idle limit (switchAt?_row second) rfl (own.trans shared)⟩

/-- The first row in which switches share an address: a frame for the first of 65537 switches ends in
the inbox of the last one. -/
theorem addresses_repeat :
    (row 65537).Reached ∧
      ∃ a b, (row 65537).getSwitch 0 = .ok a ∧ (row 65537).getSwitch 65536 = .ok b ∧
        a.address = b.address ∧
        ∀ frame : Frame, frame.dst = a.address →
          ∃ later, ((row 65537).inject 65536 (.lower 0) frame).2.getSwitch 65536 = .ok later ∧
            later.inbox = #[frame] :=
  ⟨reached_row 65537, row_shares (by decide) (by decide) (by decide)⟩

end Network

end PmacFabric
