import PmacFabric.Proofs.FatTree.Reached

/-!
# Own addresses stay at the edge

Hosts write frames under the hardware addresses that they own; a fat-tree carries them under PMACs.
The edge switch of the sender puts in the PMAC of the sender, and at the last hop the edge switch of
the receiver puts in the address that the receiver owns. An ARP packet repeats the addresses of its
frame, and its copies are changed with them.

`addresses_confined` says so of every frame that waits in any state of a run: where a frame waits
decides under which addresses it travels. That each event keeps a state legitimate is `Legit.step`;
here its sound events are read stop by stop.
-/

namespace PmacFabric.FatTree

open Network (Ground)

/-- A hardware address stands for an IP address if some host has the IP address, and the hardware
address is the PMAC of whichever host has it. -/
structure Stands (k : Nat) (net : Network) (mac : MacAddress) (ip : Ipv4Address) : Prop where
  taken : ∃ place id host, Occupies k net place id host ∧ host.ip = ip
  pmac : ∀ {place id host}, Occupies k net place id host → host.ip = ip → mac = place.pmac.mac

/-- How a frame names the two hosts that it runs between. Its source is the PMAC of the one with the
source IP address, its destination is broadcast or an address of the receiver, and an ARP packet
repeats both; a question leaves the address that it asks for open. -/
structure Labelled (k : Nat) (net : Network) (receiver : MacAddress → Prop) (src dst : Ipv4Address)
    (frame : Frame) : Prop where
  ips : frame.headers.ips = some (src, dst)
  source : Stands k net frame.src src
  destination : frame.dst = .broadcast ∨ receiver frame.dst
  arp : ∀ {arp}, frame.arp? = some arp → arp.senderHw = frame.src ∧
    match arp.operation with
    | .request => arp.targetHw = .zero
    | .reply => receiver arp.targetHw

/-- A frame that names both hosts by their PMACs. -/
def Masked (k : Nat) (net : Network) (frame : Frame) : Prop :=
  ∃ src dst, Labelled k net (Stands k net · dst) src dst frame

/-- A frame that names the sender by its PMAC and the receiver by the address that it owns. -/
def Unmasked (k : Nat) (net : Network) (host : Host) (frame : Frame) : Prop :=
  ∃ src dst, Labelled k net (· = host.amac) src dst frame

section Confinement

variable {k : Nat} {net : Network} {seat dest : Seat} {letter : Letter} {target : Endpoint}

/-- The PMAC of a seat stands for its IP address. -/
theorem Sane.stands (sane : Sane k net) (hs : Sits k net.ground seat) :
    Stands k net seat.pmac.mac seat.ip := by
  obtain ⟨host, occupies, -, ip⟩ := hs.occupies
  refine ⟨⟨seat.place, seat.id, host, occupies, ip⟩, fun {place id other} there same => ?_⟩
  cases sane.housed.eq_of_ip hs (there.seat sane.housed) same.symm
  rfl

/-- A letter under the PMAC of its seat is labelled, if its destination is an address of the receiver
or it is a question to everyone. -/
theorem Sane.labelled (sane : Sane k net) (hs : Sits k net.ground seat)
    {receiver : MacAddress → Prop} {mac : MacAddress}
    (bound : receiver mac ∨ mac = .broadcast ∧ ∃ asked, letter = .question asked) :
    Labelled k net receiver seat.ip letter.dst (letter.frame seat.pmac.mac seat.ip mac) := by
  refine ⟨letter.ips_frame _ _ _, sane.stands hs, bound.symm.imp_left And.left, fun {arp} shown => ?_⟩
  cases letter with
  | data => cases shown
  | question => cases shown; exact ⟨rfl, rfl⟩
  | answer =>
    cases shown
    rcases bound with own | ⟨_, _, other⟩
    · exact ⟨rfl, own⟩
    · cases other

/-- Host ports belong to edge switches. -/
theorem Sane.tier_uplink (sane : Sane k net) (hs : Sits k net.ground seat) {switch : Switch}
    (here : net.switchAt? (seat.uplink k).device = some switch) : switch.identity.tier = .edge := by
  obtain ⟨found, there, follows⟩ := sane.fabric.edge hs.within.1 hs.within.2.1
  cases there.symm.trans here
  exact congrArg SwitchIdentity.tier follows.identity

/-- A letter that has hops ahead of it waits at a switch. -/
theorem OnWay.exists_switch {n : Nat} (way : OnWay k seat dest (n + 1) target)
    (fabric : Fabric k net.ground) (hs : Sits k net.ground seat) (hd : Sits k net.ground dest) :
    ∃ switch, net.switchAt? target.device = some switch := by
  obtain ⟨hp, he, -⟩ := hd.within
  cases way with
  | landing => exact (fabric.edge hp he).imp fun _ => And.left
  | turning ha => exact (fabric.aggregation hp ha).imp fun _ => And.left
  | descending ha => exact (fabric.aggregation hp ha).imp fun _ => And.left
  | crossing ha hi => exact (fabric.core (coreIndex_lt ha hi)).imp fun _ => And.left
  | climbing ha => exact (fabric.aggregation hs.within.1 ha).imp fun _ => And.left

/-- Copies of a question wait at upper ports of switches, or at hosts. -/
theorem Spread.cases_host (spread : Spread k net.ground target) (fabric : Fabric k net.ground) :
    (target.port.isUpper = true ∧ ∃ switch, net.switchAt? target.device = some switch) ∨
      ∃ seat : Seat, Sits k net.ground seat ∧ target = seat.line := by
  cases spread with
  | pod hp ha => exact .inl ⟨rfl, (fabric.aggregation hp ha).imp fun _ => And.left⟩
  | edge hp he => exact .inl ⟨rfl, (fabric.edge hp he).imp fun _ => And.left⟩
  | host hs => exact .inr ⟨_, hs, rfl⟩

/-- A seat is no switch. -/
theorem Sits.not_switch (hs : Sits k net.ground seat) {switch : Switch}
    (here : net.switchAt? seat.line.device = some switch) : False := by
  obtain ⟨host, there, -⟩ := hs.host
  cases (Network.hostAt?_of_switchAt? here).symm.trans there

/-- **A frame at a switch is masked, or it waits where its sender is attached.** Only questions at
upper ports are for everyone. -/
theorem Sane.masked (sane : Sane k net) {directory : Directory} {frame : Frame}
    (sound : Sound k net.ground directory (.frame target frame)) {switch : Switch}
    (here : net.switchAt? target.device = some switch) :
    switch.identity.tier = .edge ∧ target.port.isUpper = false ∨
      Masked k net frame ∧ (frame.dst = .broadcast → target.port.isUpper = true) := by
  cases sound with
  | addressed hs => exact .inl ⟨sane.tier_uplink hs here, rfl⟩
  | asking hs => exact .inl ⟨sane.tier_uplink hs here, rfl⟩
  | @carried seat dest letter n _ hs hd _ _ bound way =>
    cases n with
    | zero =>
      cases way
      exact absurd here hd.not_switch
    | succ n =>
      have own := bound ▸ sane.stands hd
      exact .inr ⟨⟨_, _, sane.labelled hs (.inl own)⟩,
        fun everyone => absurd everyone (pmac_ne_broadcast dest)⟩
  | spreading hs _ spread =>
    rcases spread.cases_host sane.fabric with ⟨upper, -⟩ | ⟨dest, hd, rfl⟩
    · exact .inr ⟨⟨_, _, sane.labelled hs (.inr ⟨rfl, _, rfl⟩)⟩, fun _ => upper⟩
    · exact absurd here hd.not_switch

/-- **A frame at a host names the host by the address that it owns**, or is a question to everyone. -/
theorem Sane.unmasked (sane : Sane k net) {directory : Directory} {frame : Frame}
    (sound : Sound k net.ground directory (.frame target frame)) {host : Host}
    (here : net.hostAt? target.device = some host) : Unmasked k net host frame := by
  have no_switch : ∀ {switch}, net.switchAt? target.device ≠ some switch := fun there =>
    nomatch (Network.hostAt?_of_switchAt? there).symm.trans here
  have edge : ∀ {seat : Seat}, Sits k net.ground seat → seat.uplink k ≠ target := by
    rintro seat hs rfl
    obtain ⟨switch, there, -⟩ := sane.fabric.edge hs.within.1 hs.within.2.1
    exact no_switch there
  cases sound with
  | addressed hs => exact absurd rfl (edge hs)
  | asking hs => exact absurd rfl (edge hs)
  | @carried seat dest letter n _ hs hd _ _ bound way =>
    cases n with
    | zero =>
      cases way
      obtain ⟨found, there, card⟩ := hd.host
      cases there.symm.trans here
      exact ⟨_, _, sane.labelled hs (.inl (congrArg Host.Card.amac card).symm)⟩
    | succ n =>
      obtain ⟨switch, there⟩ := way.exists_switch sane.fabric hs hd
      exact absurd there no_switch
  | spreading hs _ spread =>
    exact ⟨_, _, sane.labelled hs (.inr ⟨rfl, _, rfl⟩)⟩

end Confinement

/-- **Own addresses never leave their edge switch.** Whatever waits for an aggregation or core switch,
or for the upper port of an edge switch, names both hosts by their PMACs; nothing for everyone waits
at a lower port above the edge; and what waits for a host names the sender by its PMAC and the host by
the address that it owns. -/
theorem addresses_confined {k : Nat} {log : List Ipv4Packet} {tree : FatTree}
    (reached : Reached k log tree) {target : Endpoint} {frame : Frame}
    (queued : .frame target frame ∈ tree.net.queue.toList) :
    (∀ switch, tree.net.getSwitch target.device = .ok switch →
      (switch.identity.tier ≠ .edge ∨ target.port.isUpper = true → Masked k tree.net frame) ∧
      (switch.identity.tier ≠ .edge → target.port.isUpper = false → frame.dst ≠ .broadcast)) ∧
    ∀ host, tree.net.getHost target.device = .ok host → Unmasked k tree.net host frame := by
  obtain ⟨-, legit, -⟩ := reached.legit
  have sane := legit.toSane
  have sound := legit.queued _ queued
  refine ⟨fun switch found => ?_, fun host found => ?_⟩
  · rcases sane.masked sound (Network.getSwitch_eq_ok_iff.mp found) with
      ⟨edge, lower⟩ | ⟨masked, everyone⟩
    · refine ⟨fun inside => ?_, fun above => absurd edge above⟩
      rcases inside with above | upper
      · exact absurd edge above
      · cases lower.symm.trans upper
    · refine ⟨fun _ => masked, fun _ lower broadcast => ?_⟩
      cases lower.symm.trans (everyone broadcast)
  · exact sane.unmasked sound (Network.getHost_eq_ok_iff.mp found)

/-- A greeting that is cut off while the answer to its question is at the core switch. -/
def answering : List Operation :=
  [.addHost ⟨0, 0, 0⟩ ⟨2, 0, 0, 0, 0, 1⟩ ⟨10, 0, 0, 1⟩,
    .addHost ⟨1, 0, 0⟩ ⟨2, 0, 0, 0, 0, 2⟩ ⟨10, 0, 0, 2⟩,
    .setStopAfter (some 10), .send 5 ⟨10, 0, 0, 2⟩ [7]]

/-- The answer at the core switch: neither of the addresses that the hosts own is in it. -/
def answer : Frame :=
  (Letter.answer ⟨10, 0, 0, 1⟩).frame (Pmac.encode 1 0 0).mac ⟨10, 0, 0, 2⟩ (Pmac.encode 0 0 0).mac

/-- An answer inside the fabric travels under PMACs. -/
theorem answer_masked :
    .frame ⟨4, .lower 1⟩ answer ∈ (smallest.performAll answering).2.net.queue.toList ∧
      ∃ switch, (smallest.performAll answering).2.net.getSwitch 4 = .ok switch ∧
        switch.identity.tier ≠ .edge ∧ Masked 2 (smallest.performAll answering).2.net answer ∧
        answer.dst ≠ .broadcast := by
  have queued : .frame ⟨4, .lower 1⟩ answer ∈
      (smallest.performAll answering).2.net.queue.toList := by decide +kernel
  have reached := (Reached.new new_smallest).performAll answering (by decide +kernel)
  have core : ((smallest.performAll answering).2.net.switchAt? 4).map (·.identity.tier) =
      some .core := by decide +kernel
  obtain ⟨switch, here, tier⟩ := Option.map_eq_some_iff.mp core
  have found := Network.getSwitch_eq_ok_iff.mpr here
  have above : switch.identity.tier ≠ .edge := tier ▸ nofun
  obtain ⟨masked, lower⟩ := (addresses_confined reached queued).1 switch found
  exact ⟨queued, switch, found, above, masked (.inl above), lower above rfl⟩

end PmacFabric.FatTree
