import PmacFabric.Proofs.FatTree.Ways
import PmacFabric.Proofs.Forwarding.Table
import PmacFabric.Proofs.Frame.Letter

/-!
# Legitimate states

What a fat-tree looks like when only its own hosts have sent anything. `Sound` lists the events that
can then wait: every frame is a letter of a seat, under the addresses that belong to the place where
it waits. `Sane` says what hosts, switches and the fabric manager remember: tables, directory and
caches hold nothing but registered seats under their PMACs. **`Legit`** is both.

All statements are relative to the ground and the directory, which only ever grow; `Extends` is that
growth, and `Sound.extend` and its companions say that nothing sound becomes unsound by it.
-/

namespace PmacFabric.FatTree

open Network (Ground)

/-- What the fabric manager maps IP addresses to. -/
abbrev Directory := Std.TreeMap Ipv4Address Pmac

/-- A seat that the fabric manager knows. -/
def Registered (directory : Directory) (seat : Seat) : Prop :=
  directory[seat.ip]? = some seat.pmac

section Sound

variable (k : Nat) (ground : Ground) (directory : Directory)

/-- Where copies of a flooded question may wait. -/
inductive Spread : Endpoint → Prop where
  | pod {pod a i : Nat} : pod < k → a < k / 2 → i < k / 2 →
      Spread ⟨aggregationId k pod a, .upper i⟩
  | edge {pod e j : Nat} : pod < k → e < k / 2 → j < k / 2 → Spread ⟨edgeId k pod e, .upper j⟩
  | host {seat : Seat} : Sits k ground seat → Spread seat.line

/-- The events that wait in a legitimate state. -/
inductive Sound : Event → Prop where
  /-- A letter for a known seat, at the edge switch of its sender. -/
  | addressed {seat dest : Seat} {letter : Letter} : Sits k ground seat → Sits k ground dest →
      Registered directory dest → letter.dst = dest.ip →
      Sound (.frame (seat.uplink k) (letter.frame seat.amac seat.ip dest.pmac.mac))
  /-- A question, at the edge switch of its sender. -/
  | asking {seat : Seat} {target : Ipv4Address} : Sits k ground seat →
      Sound (.frame (seat.uplink k)
        ((Letter.question target).frame seat.amac seat.ip .broadcast))
  /-- A letter on its way through the fabric, or at its destination. -/
  | carried {seat dest : Seat} {letter : Letter} {n : Nat} {target : Endpoint} :
      Sits k ground seat → Sits k ground dest → Registered directory seat →
      Registered directory dest → letter.dst = dest.ip → OnWay k seat dest n target →
      Sound (.frame target (letter.frame seat.pmac.mac seat.ip (dest.address n)))
  /-- A flood that a core switch is told to start. -/
  | ordered {seat : Seat} {target : Ipv4Address} {c : Nat} : Sits k ground seat →
      Registered directory seat → c < k / 2 * (k / 2) →
      Sound (.control (coreId k c) (.arpFlood target seat.ip seat.pmac))
  /-- A copy of a flooded question. -/
  | spreading {seat : Seat} {asked : Ipv4Address} {target : Endpoint} : Sits k ground seat →
      Registered directory seat → Spread k ground target →
      Sound (.frame target ((Letter.question asked).frame seat.pmac.mac seat.ip .broadcast))

/-- A table that holds exactly the registered seats of its switch. -/
structure Rolled (id : DeviceId) (table : PmacTable) : Prop where
  indexed : table.Indexed
  entries : ∀ pmac entry, table.lookup? pmac = some entry ↔
    ∃ seat : Seat, Sits k ground seat ∧ Registered directory seat ∧ seat.edge k = id ∧
      pmac = seat.pmac ∧ entry = seat.entry

/-- A host that has learned nothing but PMACs of registered seats and holds back nothing that it
could send. -/
structure SaneHost (host : Host) : Prop where
  cached : ∀ {ip mac}, host.resolve? ip = some mac →
    ∃ seat : Seat, Sits k ground seat ∧ Registered directory seat ∧ seat.ip = ip ∧
      mac = seat.pmac.mac
  waiting : ∀ {ip : Ipv4Address} {items}, host.pending[ip]? = some items →
    items ≠ [] ∧ host.resolve? ip = none
  inbox : ∀ packet ∈ host.inbox,
    packet.dst = host.ip ∧ ∃ seat : Seat, Sits k ground seat ∧ seat.ip = packet.src

end Sound

/-- What the devices of a legitimate state remember. -/
structure Sane (k : Nat) (net : Network) : Prop where
  fabric : Fabric k net.ground
  housed : Housed k net.ground
  directory : ∀ {ip : Ipv4Address} {pmac}, net.manager.directory[ip]? = some pmac →
    ∃ seat : Seat, Sits k net.ground seat ∧ seat.ip = ip ∧ pmac = seat.pmac
  tables : ∀ {id memory}, net.memoryAt? id = some memory →
    Rolled k net.ground net.manager.directory id memory.table ∧ memory.inbox = #[]
  hosts : ∀ {id host}, net.hostAt? id = some host →
    SaneHost k net.ground net.manager.directory host

/-- **The states that the hosts of a fat-tree can bring about.** -/
structure Legit (k : Nat) (net : Network) : Prop extends Sane k net where
  queued : ∀ event ∈ net.queue.toList, Sound k net.ground net.manager.directory event
  silent : net.trace = none

/-! ## Growth -/

/-- A later ground and directory. -/
structure Extends (k : Nat) (ground : Ground) (directory : Directory) (ground' : Ground)
    (directory' : Directory) : Prop where
  sits : ∀ {seat}, Sits k ground seat → Sits k ground' seat
  registered : ∀ {seat}, Registered directory seat → Registered directory' seat

section Extends

variable {k : Nat} {ground ground' : Ground} {directory directory' : Directory}

/-- Where a question may spread, it may spread with more seats. -/
theorem Spread.extend {target : Endpoint} (h : Spread k ground target)
    (sits : ∀ {seat}, Sits k ground seat → Sits k ground' seat) : Spread k ground' target := by
  cases h with
  | pod hp ha hi => exact .pod hp ha hi
  | edge hp he hj => exact .edge hp he hj
  | host here => exact .host (sits here)

/-- A sound event stays sound while seats and registrations are added. -/
theorem Sound.extend {event : Event} (h : Sound k ground directory event)
    (ext : Extends k ground directory ground' directory') : Sound k ground' directory' event := by
  cases h with
  | addressed hs hd known bound =>
    exact .addressed (ext.sits hs) (ext.sits hd) (ext.registered known) bound
  | asking hs => exact .asking (ext.sits hs)
  | carried hs hd known known' bound way =>
    exact .carried (ext.sits hs) (ext.sits hd) (ext.registered known) (ext.registered known') bound
      way
  | ordered hs known hc => exact .ordered (ext.sits hs) (ext.registered known) hc
  | spreading hs known spread =>
    exact .spreading (ext.sits hs) (ext.registered known) (spread.extend ext.sits)

/-- A sane host stays sane while seats and registrations are added. -/
theorem SaneHost.extend {host : Host} (h : SaneHost k ground directory host)
    (ext : Extends k ground directory ground' directory') : SaneHost k ground' directory' host := by
  refine ⟨fun {ip mac} found => ?_, h.waiting, ?_⟩
  · obtain ⟨seat, sits, known, own, shown⟩ := h.cached found
    exact ⟨seat, ext.sits sits, ext.registered known, own, shown⟩
  · intro packet mem
    obtain ⟨here, seat, sits, src⟩ := h.inbox packet mem
    exact ⟨here, seat, ext.sits sits, src⟩

end Extends

/-! ## Registering -/

/-- The directory after a seat has been seen. -/
def enrolled (directory : Directory) (seat : Seat) : Directory :=
  if directory[seat.ip]? = some seat.pmac then directory
  else directory.insert seat.ip seat.pmac

/-- What a switch remembers after a seat has been seen: its own edge switch enters it. -/
def enrolMemory (k : Nat) (directory : Directory) (seat : Seat) (id : DeviceId)
    (memory : Switch.Memory) : Switch.Memory :=
  if directory[seat.ip]? = some seat.pmac ∨ seat.edge k ≠ id then memory
  else { memory with table := memory.table.add seat.entry }

section Enrol

variable {k : Nat} {ground : Ground} {directory : Directory} {seat : Seat}

/-- A registration leaves what other addresses are registered at. -/
theorem getElem?_enrolled (directory : Directory) (seat : Seat) (ip : Ipv4Address) :
    (enrolled directory seat)[ip]? = if seat.ip = ip then some seat.pmac else directory[ip]? := by
  unfold enrolled
  split
  · rename_i known
    split
    · rename_i own
      exact own ▸ known
    · rfl
  · rw [Std.TreeMap.getElem?_insert]
    simp only [Std.compare_eq_iff_eq]

/-- Whoever is registered is in the directory. -/
theorem registered_enrolled (directory : Directory) (seat : Seat) :
    Registered (enrolled directory seat) seat := by
  rw [Registered, getElem?_enrolled, if_pos rfl]

/-- Registering a seat registers no other. -/
theorem registered_enrolled_iff (housed : Housed k ground) {other : Seat} (hs : Sits k ground seat)
    (ho : Sits k ground other) :
    Registered (enrolled directory seat) other ↔ other = seat ∨ Registered directory other := by
  unfold Registered
  rw [getElem?_enrolled]
  split
  · rename_i same
    have : other = seat := (housed.eq_of_ip hs ho same).symm
    subst this
    simp only [true_or]
  · rename_i apart
    have : other ≠ seat := fun same => apart (same ▸ rfl)
    simp only [this, false_or]

/-- A registration takes no seat out of the directory, for no two seats share an address. -/
theorem Registered.enrol (known : ∀ {ip : Ipv4Address} {pmac}, directory[ip]? = some pmac →
      ∃ seat : Seat, Sits k ground seat ∧ seat.ip = ip ∧ pmac = seat.pmac)
    (housed : Housed k ground) (hs : Sits k ground seat) {other : Seat}
    (h : Registered directory other) : Registered (enrolled directory seat) other := by
  rw [Registered, getElem?_enrolled]
  split
  · rename_i same
    obtain ⟨found, sits, own, shown⟩ := known h
    have : found = seat := housed.eq_of_ip sits hs (own.trans same.symm)
    rw [shown, this]
  · exact h

/-- Tables stay exact when a seat is registered with its edge switch. -/
theorem Rolled.enrol {id : DeviceId} {memory : Switch.Memory} (small : k ≤ 32)
    (housed : Housed k ground) (hs : Sits k ground seat)
    (rolled : Rolled k ground directory id memory.table) :
    Rolled k ground (enrolled directory seat) id (enrolMemory k directory seat id memory).table := by
  by_cases known : Registered directory seat
  · have same : enrolled directory seat = directory := if_pos known
    rw [same, enrolMemory, if_pos (.inl known)]
    exact rolled
  by_cases here : seat.edge k = id
  · have fresh : ¬ (directory[seat.ip]? = some seat.pmac ∨ seat.edge k ≠ id) :=
      fun either => either.elim known fun other => other here
    rw [enrolMemory, if_neg fresh]
    refine ⟨rolled.indexed.add seat.entry, ?_⟩
    intro pmac entry
    show (memory.table.add seat.entry).lookup? pmac = some entry ↔ _
    rw [rolled.indexed.lookup?_add]
    split
    · rename_i own
      have own : seat.pmac = pmac := own
      constructor
      · intro found
        exact ⟨seat, hs, registered_enrolled directory seat, here, own.symm, (Option.some.inj found).symm⟩
      · rintro ⟨other, ho, _, _, rfl, rfl⟩
        rw [hs.eq_of_pmac small ho own]
    · rename_i apart
      have apart : seat.pmac ≠ pmac := apart
      rw [Option.filter_eq_some_iff, rolled.entries]
      constructor
      · rintro ⟨⟨other, ho, listed, there, shown, rfl⟩, _⟩
        exact ⟨other, ho, (registered_enrolled_iff housed hs ho).mpr (.inr listed), there, shown, rfl⟩
      · rintro ⟨other, ho, listed, there, rfl, rfl⟩
        have differs : other ≠ seat := fun same => apart (same ▸ rfl)
        rcases (registered_enrolled_iff housed hs ho).mp listed with same | before
        · exact absurd same differs
        · refine ⟨⟨other, ho, before, there, rfl, rfl⟩, decide_eq_true ⟨?_, ?_⟩⟩
          · exact fun same => differs (housed.eq_of_amac ho hs same)
          · exact fun same => differs (housed.eq_of_ip ho hs same)
  · rw [enrolMemory, if_pos (.inr here)]
    refine ⟨rolled.indexed, fun pmac entry => (rolled.entries pmac entry).trans ?_⟩
    constructor
    · rintro ⟨other, ho, listed, there, shown, rfl⟩
      exact ⟨other, ho, (registered_enrolled_iff housed hs ho).mpr (.inr listed), there, shown, rfl⟩
    · rintro ⟨other, ho, listed, there, shown, rfl⟩
      rcases (registered_enrolled_iff housed hs ho).mp listed with rfl | before
      · exact absurd there here
      · exact ⟨other, ho, before, there, shown, rfl⟩

end Enrol

end PmacFabric.FatTree
