import PmacFabric.Proofs.Network.Topology

/-!
# Looking up names

Names may repeat, and whoever looks one up takes the first device with it that one comes upon. In
which order that happens is up to the maps that hold the devices, so every law is about all listings
of a network.

**`names_found`** says what may be relied on in every network that users can bring about: an error
means that nobody has the name, a number that comes back belongs to somebody with the name, and
every such number comes back by some listing. So the answer is independent of the listing exactly if
the name is unique. In the order of addition the oldest of several comes back; in another order
somebody else may (`namesakes_differ`).
-/

namespace PmacFabric.Network

/-! ## The first of a listing -/

section Listings

variable {α : Type} {name : α → String} {id : α → DeviceId} {wanted : String} {key : DeviceId}

/-- A number is found when it is that of the first device with the name. -/
theorem firstNamed_eq_ok_iff {devices : List α} :
    firstNamed name id devices wanted = .ok key ↔
      ∃ before item later, devices = before ++ item :: later ∧ name item = wanted ∧
        id item = key ∧ ∀ other ∈ before, name other ≠ wanted := by
  have found (item : α) : (devices.find? fun device => name device = wanted) = some item ↔
      name item = wanted ∧ ∃ before later, devices = before ++ item :: later ∧
        ∀ other ∈ before, name other ≠ wanted := by
    simp only [List.find?_eq_some_iff_append, decide_eq_true_eq, Bool.not_eq_true',
      decide_eq_false_iff_not]
  rw [firstNamed]
  constructor
  · intro answer
    split at answer
    · rename_i item first
      obtain ⟨named, before, later, rfl, others⟩ := (found item).mp first
      exact ⟨before, item, later, rfl, named, Except.ok.inj answer, others⟩
    · cases answer
  · rintro ⟨before, item, later, split, named, rfl, others⟩
    rw [(found item).mpr ⟨named, before, later, split, others⟩]

/-- Nothing is found when nobody has the name, which the error then gives. -/
theorem firstNamed_eq_error_iff {devices : List α} {e : NetworkError} :
    firstNamed name id devices wanted = .error e ↔
      e = .deviceNameNotFound wanted ∧ ∀ item ∈ devices, name item ≠ wanted := by
  have absent : (devices.find? fun device => name device = wanted) = none ↔
      ∀ item ∈ devices, name item ≠ wanted := by
    simp only [List.find?_eq_none, decide_eq_true_eq, ne_eq]
  rw [← absent, firstNamed]
  cases devices.find? fun device => name device = wanted with
  | some item => exact ⟨nofun, nofun⟩
  | none =>
    exact ⟨fun answer => ⟨(Except.error.inj answer).symm, rfl⟩, fun both => by rw [both.1]⟩

/-- What looking up a name gives by each of the listings, of which one has the order of addition;
`bears` holds of the numbers of those with the name. -/
structure Finds {Listing : Type} (answer : Listing → Except NetworkError DeviceId) (added : Listing)
    (wanted : String) (bears : DeviceId → Prop) : Prop where
  missing : ∀ listing e, answer listing = .error e ↔
    e = .deviceNameNotFound wanted ∧ ∀ key, ¬ bears key
  bearer : ∀ listing key, answer listing = .ok key → bears key
  any : ∀ key, bears key → ∃ listing, answer listing = .ok key
  steady : ∀ key, (∀ listing, answer listing = .ok key) ↔
    bears key ∧ ∀ other, bears other → other = key
  oldest : ∀ key, answer added = .ok key ↔ bears key ∧ ∀ other, bears other → key ≤ other

/-- Where nobody shares a name, all listings give the same answer. -/
theorem Finds.eq_of_unique {Listing : Type} {answer : Listing → Except NetworkError DeviceId}
    {added : Listing} {bears : DeviceId → Prop} (finds : Finds answer added wanted bears)
    (unique : ∀ {key other}, bears key → bears other → other = key) (listing listing' : Listing) :
    answer listing = answer listing' := by
  cases found : answer listing with
  | ok key =>
    have borne := finds.bearer listing key found
    exact ((finds.steady key).mpr ⟨borne, fun _ => unique borne⟩ listing').symm
  | error e =>
    have absent := (finds.missing listing e).mp found
    exact ((finds.missing listing' e).mpr absent).symm

variable {all devices : List α} {bears : DeviceId → Prop}
  (named : ∀ key, bears key ↔ ∃ item ∈ all, name item = wanted ∧ id item = key)

include named

/-- Who comes back has the name. -/
theorem bears_of_firstNamed (perm : devices.Perm all)
    (answer : firstNamed name id devices wanted = .ok key) : bears key := by
  obtain ⟨before, item, later, rfl, same, number, -⟩ := firstNamed_eq_ok_iff.mp answer
  have mem : item ∈ all := perm.mem_iff.mp (List.mem_append_right before (.head later))
  exact (named key).mpr ⟨item, mem, same, number⟩

/-- Looking up a name fails exactly if nobody has it. -/
theorem firstNamed_missing_iff (perm : devices.Perm all) {e : NetworkError} :
    firstNamed name id devices wanted = .error e ↔
      e = .deviceNameNotFound wanted ∧ ∀ key, ¬ bears key := by
  rw [firstNamed_eq_error_iff, and_congr_right_iff]
  rintro -
  constructor
  · intro absent key borne
    obtain ⟨item, mem, same, -⟩ := (named key).mp borne
    exact absent item (perm.mem_iff.mpr mem) same
  · intro none item mem same
    exact none (id item) ((named _).mpr ⟨item, perm.mem_iff.mp mem, same, rfl⟩)

/-- Somebody with the name comes back if there is anybody. -/
theorem exists_firstNamed (perm : devices.Perm all) (borne : bears key) :
    ∃ other, firstNamed name id devices wanted = .ok other ∧ bears other := by
  cases answer : firstNamed name id devices wanted with
  | error e => exact absurd borne (((firstNamed_missing_iff named perm).mp answer).2 key)
  | ok other => exact ⟨other, rfl, bears_of_firstNamed named perm answer⟩

/-- Everybody with the name comes first in some order. -/
theorem exists_perm_firstNamed (borne : bears key) :
    ∃ devices, devices.Perm all ∧ firstNamed name id devices wanted = .ok key := by
  obtain ⟨item, mem, same, number⟩ := (named key).mp borne
  obtain ⟨before, later, rfl⟩ := List.append_of_mem mem
  refine ⟨item :: (before ++ later), List.perm_middle.symm, firstNamed_eq_ok_iff.mpr ?_⟩
  exact ⟨[], item, before ++ later, rfl, same, number, nofun⟩

/-- In the order of addition the oldest with the name comes back. -/
theorem oldest_of_firstNamed (ordered : all.Pairwise fun a b => id a < id b)
    (answer : firstNamed name id all wanted = .ok key) {other : DeviceId} (borne : bears other) :
    key ≤ other := by
  obtain ⟨before, item, later, rfl, -, rfl, others⟩ := firstNamed_eq_ok_iff.mp answer
  obtain ⟨item', mem, same, rfl⟩ := (named other).mp borne
  rcases List.mem_append.mp mem with early | late
  · exact absurd same (others item' early)
  · rcases List.mem_cons.mp late with rfl | late
    · exact Nat.le_refl _
    · exact Nat.le_of_lt (List.rel_of_pairwise_cons (List.pairwise_append.mp ordered).2.1 late)

section Answers

variable {Listing : Type} {devicesOf : Listing → List α}
  (perm : ∀ listing, (devicesOf listing).Perm all)
  (onto : ∀ devices, devices.Perm all → ∃ listing, devicesOf listing = devices)

include onto

/-- Everybody with the name comes back by some listing, if there is one for every order. -/
theorem exists_listing (borne : bears key) :
    ∃ listing, firstNamed name id (devicesOf listing) wanted = .ok key := by
  obtain ⟨devices, same, answer⟩ := exists_perm_firstNamed named borne
  obtain ⟨listing, rfl⟩ := onto devices same
  exact ⟨listing, answer⟩

include perm

/-- Looking up a name in the order of a listing finds whatever the listing has first. -/
theorem finds {added : Listing} (first : devicesOf added = all)
    (ordered : all.Pairwise fun a b => id a < id b) :
    Finds (fun listing => firstNamed name id (devicesOf listing) wanted) added wanted bears where
  missing listing _ := firstNamed_missing_iff named (perm listing)
  bearer listing _ := bears_of_firstNamed named (perm listing)
  any _ := exists_listing named onto
  steady key := by
    constructor
    · intro always
      refine ⟨bears_of_firstNamed named (perm added) (always added), fun other borne => ?_⟩
      obtain ⟨listing, answer⟩ := exists_listing named onto borne
      exact Except.ok.inj (answer.symm.trans (always listing))
    · rintro ⟨borne, unique⟩ listing
      obtain ⟨other, answer, borne'⟩ := exists_firstNamed named (perm listing) borne
      rw [answer, unique other borne']
  oldest key := by
    rw [first]
    constructor
    · exact fun answer => ⟨bears_of_firstNamed named (.refl all) answer,
        fun other => oldest_of_firstNamed named ordered answer⟩
    · rintro ⟨borne, least⟩
      obtain ⟨other, answer, borne'⟩ := exists_firstNamed named (.refl all) borne
      rw [answer, Nat.le_antisymm (oldest_of_firstNamed named ordered answer borne)
        (least other borne')]

end Answers

end Listings

/-! ## Names of a network -/

def HostNamed (net : Network) (wanted : String) (key : DeviceId) : Prop :=
  ∃ host, net.getHost key = .ok host ∧ host.name = wanted

variable {net : Network} {wanted : String} {key : DeviceId}

section Reached

variable (reached : net.Reached)

include reached

/-- A switch has its place as its number. -/
theorem Reached.switch_id {switch : Switch} (here : net.switchAt? key = some switch) :
    switch.id = key :=
  reached.number (getDevice?_of_switchAt? here)

/-- A host has its place as its number. -/
theorem Reached.host_id {host : Host} (here : net.hostAt? key = some host) : host.id = key :=
  reached.number (getDevice?_of_hostAt? here)

/-- The hosts with a name are found in the list of hosts. -/
theorem hostNamed_iff (key : DeviceId) :
    net.HostNamed wanted key ↔ ∃ host ∈ net.hosts, host.name = wanted ∧ host.id = key := by
  constructor
  · rintro ⟨host, found, same⟩
    have here := getHost_eq_ok_iff.mp found
    exact ⟨host, mem_hosts_iff.mpr ⟨key, here⟩, same, reached.host_id here⟩
  · rintro ⟨host, mem, same, rfl⟩
    obtain ⟨id, here⟩ := mem_hosts_iff.mp mem
    rw [reached.host_id here]
    exact ⟨host, getHost_eq_ok_iff.mpr here, same⟩

/-- Hosts are numbered in order of addition. -/
theorem ordered_hosts : net.hosts.Pairwise fun a b => a.id < b.id := by
  rw [hosts_eq]
  refine pairwise_kind_iff.mpr fun {id id' host host'} before here here' => ?_
  rwa [reached.host_id here, reached.host_id here']

/-- What looking up a host gives, by any listing. -/
theorem finds_hosts (wanted : String) :
    Finds (fun listing => net.getHostId listing wanted) (.added net) wanted
      (net.HostNamed wanted) :=
  finds (hostNamed_iff reached) Listing.hosts_perm
    (fun hosts perm => ⟨⟨net.switches, hosts, .refl _, perm⟩, rfl⟩) rfl (ordered_hosts reached)

end Reached

end PmacFabric.Network
