import PmacFabric.Proofs.Forwarding.Table

/-!
# A PMAC table is a list

What a table means, apart from its indices, is a plain **listing** of entries. Adding an entry deletes
from it every entry that shares a key with the new one, and every lookup is a search from its front.
`Lists` ties a table to its listing, and `Lists.perform` says that each operation keeps the tie and
gives the same answer. **`table_mirrors_listing`** reads off, for every history, that all lookups and
counts of a table are those of its listing, and that its indices point to nothing else.
-/

namespace PmacFabric

/-- What may be done to a table. -/
inductive TableOperation where
  | add (entry : PmacEntry)
  | remove (amac : MacAddress)
  | clear
deriving DecidableEq, Repr

/-- The entries of a table, the newest last. -/
abbrev Listing := List PmacEntry

namespace Listing

/-- Two entries that share none of their three keys. -/
def Apart (a b : PmacEntry) : Prop := a.pmac ≠ b.pmac ∧ a.amac ≠ b.amac ∧ a.ip ≠ b.ip

instance (a b : PmacEntry) : Decidable (Apart a b) :=
  inferInstanceAs (Decidable (a.pmac ≠ b.pmac ∧ a.amac ≠ b.amac ∧ a.ip ≠ b.ip))

/-- The first entry that carries a key. -/
def search {κ : Type} [DecidableEq κ] (listing : Listing) (key : PmacEntry → κ) (k : κ) :
    Option PmacEntry :=
  listing.find? fun entry => key entry = k

/-- Deletes whatever shares a key with the new entry, which goes to the end. -/
def add (listing : Listing) (entry : PmacEntry) : Listing :=
  listing.filter (fun old => Apart old entry) ++ [entry]

/-- Deletes and returns the entry of a host's hardware address. -/
def remove (listing : Listing) (amac : MacAddress) : Option PmacEntry × Listing :=
  (search listing PmacEntry.amac amac, listing.filter fun entry => entry.amac ≠ amac)

def perform (listing : Listing) : TableOperation → Option PmacEntry × Listing
  | .add entry => (none, add listing entry)
  | .remove amac => remove listing amac
  | .clear => (none, [])

/-- The answers of operations, in order, and the listing afterwards. -/
def performAll (listing : Listing) : List TableOperation → List (Option PmacEntry) × Listing
  | [] => ([], listing)
  | operation :: rest =>
    let (answer, listing) := perform listing operation
    let (answers, listing) := performAll listing rest
    (answer :: answers, listing)

end Listing

namespace PmacTable

def perform (table : PmacTable) : TableOperation → Option PmacEntry × PmacTable
  | .add entry => (none, table.add entry)
  | .remove amac => table.remove amac
  | .clear => (none, table.clear)

/-- The answers of operations, in order, and the table afterwards. -/
def performAll (table : PmacTable) : List TableOperation → List (Option PmacEntry) × PmacTable
  | [] => ([], table)
  | operation :: rest =>
    let (answer, table) := table.perform operation
    let (answers, table) := table.performAll rest
    (answer :: answers, table)

end PmacTable

open PmacTable (KeyIndex)

/-! ## Searching -/

section Search

variable {κ : Type} [DecidableEq κ] {listing : Listing} {key : PmacEntry → κ} {k : κ}

/-- Where no two entries share a key, a search finds whatever carries it. -/
theorem Listing.search_eq_some_iff (distinct : listing.Pairwise fun a b => key a ≠ key b)
    {entry : PmacEntry} : search listing key k = some entry ↔ entry ∈ listing ∧ key entry = k := by
  constructor
  · intro found
    have carries : decide (key entry = k) = true :=
      List.find?_some (p := fun entry => decide (key entry = k)) found
    exact ⟨List.mem_of_find?_eq_some found, of_decide_eq_true carries⟩
  · rintro ⟨mem, rfl⟩
    unfold search
    induction listing with
    | nil => cases mem
    | cons head rest ih =>
      obtain ⟨first, later⟩ := List.pairwise_cons.mp distinct
      rcases List.mem_cons.mp mem with rfl | mem
      · exact List.find?_cons_of_pos (decide_eq_true rfl)
      · have other : decide (key head = key entry) = false := decide_eq_false (first entry mem)
        rw [List.find?_cons, other]
        exact ih later mem

/-- An index gives the PMAC of what a search finds. -/
theorem PmacTable.KeyIndex.eq_search {lookup? : Pmac → Option PmacEntry} {index : κ → Option Pmac}
    (exact : KeyIndex lookup? index key) (distinct : listing.Pairwise fun a b => key a ≠ key b)
    (keyed : ∀ {pmac entry}, lookup? pmac = some entry → entry.pmac = pmac)
    (mem : ∀ {entry : PmacEntry}, entry ∈ listing ↔ lookup? entry.pmac = some entry) (k : κ) :
    index k = (Listing.search listing key k).map PmacEntry.pmac := by
  apply Option.ext
  intro pmac
  rw [exact k pmac, Option.map_eq_some_iff]
  constructor
  · rintro ⟨entry, found, own⟩
    have shown := keyed found
    exact ⟨entry, (Listing.search_eq_some_iff distinct).mpr ⟨mem.mpr (shown.symm ▸ found), own⟩, shown⟩
  · rintro ⟨entry, found, rfl⟩
    obtain ⟨listed, own⟩ := (Listing.search_eq_some_iff distinct).mp found
    exact ⟨entry, mem.mp listed, own⟩

end Search

/-! ## Tables and their listings -/

/-- A table that holds just the entries of a listing, no two of which share a key. -/
structure Lists (table : PmacTable) (listing : Listing) : Prop where
  indexed : table.Indexed
  apart : listing.Pairwise Listing.Apart
  mem : ∀ {entry}, entry ∈ listing ↔ table.lookup? entry.pmac = some entry

/-- All that a table shows, read from a listing. -/
structure Mirrors (table : PmacTable) (listing : Listing) : Prop where
  entry : ∀ pmac, table.entry? pmac = Listing.search listing PmacEntry.pmac pmac
  port : ∀ pmac, table.port? pmac =
    (Listing.search listing PmacEntry.pmac pmac).map PmacEntry.port
  amac : ∀ pmac, table.amac? pmac =
    (Listing.search listing PmacEntry.pmac pmac).map PmacEntry.amac
  pmacOfIp : ∀ ip, table.pmacOfIp? ip =
    (Listing.search listing PmacEntry.ip ip).map PmacEntry.pmac
  portOfIp : ∀ ip, table.portOfIp? ip =
    (Listing.search listing PmacEntry.ip ip).map PmacEntry.port
  amacOfIp : ∀ ip, table.amacOfIp? ip =
    (Listing.search listing PmacEntry.ip ip).map PmacEntry.amac
  pmacOfAmac : ∀ amac, table.pmacOfAmac? amac =
    (Listing.search listing PmacEntry.amac amac).map PmacEntry.pmac
  size : table.size = listing.length
  isEmpty : table.isEmpty = listing.isEmpty
  /-- Entries are listed in an order of their own. -/
  toList : table.toList.Perm listing
  /-- Each of the three keys belongs to one entry. -/
  unique : listing.Pairwise Listing.Apart
  ipIndex : ∀ (ip : Ipv4Address) pmac, table.byIp[ip]? = some pmac →
    ∃ entry ∈ listing, table.entries[pmac]? = some entry ∧ entry.pmac = pmac ∧ entry.ip = ip
  amacIndex : ∀ (amac : MacAddress) pmac, table.byAmac[amac]? = some pmac →
    ∃ entry ∈ listing, table.entries[pmac]? = some entry ∧ entry.pmac = pmac ∧ entry.amac = amac

section Lists

variable {table : PmacTable} {listing : Listing}

/-- The empty table holds the empty listing. -/
theorem lists_empty : Lists .empty [] := by
  refine ⟨PmacTable.indexed_empty, .nil, fun {entry} => ⟨nofun, fun found => ?_⟩⟩
  cases (PmacTable.lookup?_empty _).symm.trans found

/-- A table goes on holding its listing when an entry is added to both. -/
theorem Lists.add (lists : Lists table listing) (entry : PmacEntry) :
    Lists (table.add entry) (Listing.add listing entry) := by
  refine ⟨lists.indexed.add entry, ?_, fun {other} => ?_⟩
  · refine List.pairwise_append.mpr ⟨lists.apart.filter _, List.pairwise_singleton _ _, ?_⟩
    intro old mem new last
    cases List.mem_singleton.mp last
    exact of_decide_eq_true (List.mem_filter.mp mem).2
  · rw [lists.indexed.lookup?_add, Listing.add, List.mem_append, List.mem_filter,
      List.mem_singleton, decide_eq_true_iff, Listing.Apart, lists.mem]
    by_cases own : entry.pmac = other.pmac
    · rw [if_pos own, Option.some.injEq]
      constructor
      · rintro (⟨-, apart, -⟩ | same)
        · exact absurd own.symm apart
        · exact same.symm
      · intro same
        exact .inr same.symm
    · rw [if_neg own, Option.filter_eq_some_iff, decide_eq_true_iff]
      constructor
      · rintro (⟨found, -, amac, ip⟩ | same)
        · exact ⟨found, amac, ip⟩
        · exact absurd (same ▸ rfl) own
      · rintro ⟨found, amac, ip⟩
        exact .inl ⟨found, fun same => own same.symm, amac, ip⟩

/-- Deleting the entry of a PMAC deletes it from the listing. -/
theorem Lists.evict (lists : Lists table listing) (pmac : Pmac) :
    Lists (table.evict pmac) (listing.filter fun entry => entry.pmac ≠ pmac) := by
  refine ⟨lists.indexed.evict pmac, lists.apart.filter _, fun {entry} => ?_⟩
  rw [List.mem_filter, decide_eq_true_iff, lists.mem, PmacTable.lookup?_evict]
  by_cases gone : pmac = entry.pmac
  · rw [if_pos gone]
    exact ⟨fun both => absurd gone.symm both.2, nofun⟩
  · rw [if_neg gone]
    exact ⟨And.left, fun found => ⟨found, fun same => gone same.symm⟩⟩

/-- Every entry is found under its PMAC, and nothing else is. -/
theorem Lists.lookup? (lists : Lists table listing) (pmac : Pmac) :
    table.lookup? pmac = Listing.search listing PmacEntry.pmac pmac := by
  have distinct := lists.apart.imp fun apart => apart.1
  apply Option.ext
  intro entry
  rw [Listing.search_eq_some_iff distinct, lists.mem]
  constructor
  · intro found
    have shown := lists.indexed.keyed found
    exact ⟨shown.symm ▸ found, shown⟩
  · rintro ⟨found, rfl⟩
    exact found

/-- The PMAC of an IP address is that of the first entry that carries it. -/
theorem Lists.pmacOfIp? (lists : Lists table listing) (ip : Ipv4Address) :
    table.pmacOfIp? ip = (Listing.search listing PmacEntry.ip ip).map PmacEntry.pmac :=
  lists.indexed.byIp.eq_search (lists.apart.imp fun apart => apart.2.2) lists.indexed.keyed
    lists.mem ip

/-- The PMAC of a hardware address is that of the first entry that carries it. -/
theorem Lists.pmacOfAmac? (lists : Lists table listing) (amac : MacAddress) :
    table.pmacOfAmac? amac = (Listing.search listing PmacEntry.amac amac).map PmacEntry.pmac :=
  lists.indexed.byAmac.eq_search (lists.apart.imp fun apart => apart.2.1) lists.indexed.keyed
    lists.mem amac

/-- Going from a key to a PMAC and from there to an entry is going to the entry of the key. -/
theorem Lists.bind_lookup? (lists : Lists table listing) {κ : Type} [DecidableEq κ]
    (key : PmacEntry → κ) (k : κ) :
    ((Listing.search listing key k).map PmacEntry.pmac).bind table.lookup? =
      Listing.search listing key k := by
  cases found : Listing.search listing key k with
  | none => rfl
  | some entry => exact lists.mem.mp (List.mem_of_find?_eq_some found)

/-- The entry of an IP address is the only one that carries it. -/
theorem Lists.entryOfIp? (lists : Lists table listing) (ip : Ipv4Address) :
    table.entryOfIp? ip = Listing.search listing PmacEntry.ip ip := by
  rw [PmacTable.entryOfIp?, lists.pmacOfIp?, lists.bind_lookup?]

/-- Removing gives the entry that a search finds, and deletes it from the listing. -/
theorem Lists.remove (lists : Lists table listing) (amac : MacAddress) :
    (table.remove amac).1 = (Listing.remove listing amac).1 ∧
      Lists (table.remove amac).2 (Listing.remove listing amac).2 := by
  have distinct := lists.apart.imp fun apart => apart.2.1
  simp only [PmacTable.remove, Listing.remove, lists.pmacOfAmac?, lists.bind_lookup?]
  cases found : Listing.search listing PmacEntry.amac amac with
  | none =>
    have kept : (listing.filter fun entry => entry.amac ≠ amac) = listing := by
      refine List.filter_eq_self.mpr fun entry mem => decide_eq_true fun own => ?_
      cases found.symm.trans ((Listing.search_eq_some_iff distinct).mpr ⟨mem, own⟩)
    rw [kept]
    exact ⟨rfl, lists⟩
  | some gone =>
    obtain ⟨listed, own⟩ := (Listing.search_eq_some_iff distinct).mp found
    -- The entry that goes is the only one with its PMAC, and the only one with its address.
    have same : (listing.filter fun entry => entry.amac ≠ amac) =
        listing.filter fun entry => entry.pmac ≠ gone.pmac := by
      refine List.filter_congr fun entry mem => decide_eq_decide.mpr (not_congr ⟨?_, ?_⟩)
      · intro shared
        have again := (Listing.search_eq_some_iff distinct).mpr ⟨mem, shared⟩
        rw [Option.some.inj (found.symm.trans again)]
      · intro shared
        have again := lists.mem.mp mem
        rw [shared, lists.mem.mp listed] at again
        rw [← Option.some.inj again, own]
    rw [same]
    exact ⟨rfl, lists.evict gone.pmac⟩

/-- **An operation gives the same answer on both sides, and keeps them together.** -/
theorem Lists.perform (lists : Lists table listing) (operation : TableOperation) :
    (table.perform operation).1 = (Listing.perform listing operation).1 ∧
      Lists (table.perform operation).2 (Listing.perform listing operation).2 := by
  cases operation with
  | add entry => exact ⟨rfl, lists.add entry⟩
  | remove amac => exact lists.remove amac
  | clear => exact ⟨rfl, lists_empty⟩

/-- Operations have the same answers from a table and from its listing, which it goes on holding. -/
theorem Lists.performAll (operations : List TableOperation) (lists : Lists table listing) :
    (table.performAll operations).1 = (Listing.performAll listing operations).1 ∧
      Lists (table.performAll operations).2 (Listing.performAll listing operations).2 := by
  induction operations generalizing table listing with
  | nil => exact ⟨rfl, lists⟩
  | cons operation rest ih =>
    obtain ⟨answer, after⟩ := lists.perform operation
    obtain ⟨answers, last⟩ := ih after
    exact ⟨congr (congrArg List.cons answer) answers, last⟩

/-- The entries of a table are those of its listing, each once. -/
theorem Lists.toList_perm (lists : Lists table listing) : table.toList.Perm listing := by
  have nodup : listing.Nodup := lists.apart.imp fun apart same => apart.1 (congrArg _ same)
  refine (List.perm_ext_iff_of_nodup lists.indexed.nodup_toList nodup).mpr fun entry => ?_
  rw [lists.indexed.mem_toList_iff, lists.mem]

/-- A table has as many entries as its listing. -/
theorem Lists.size (lists : Lists table listing) : table.size = listing.length := by
  rw [← lists.toList_perm.length_eq, PmacTable.length_toList]

/-- A table shows what its listing has. -/
theorem Lists.mirrors (lists : Lists table listing) : Mirrors table listing where
  entry := lists.lookup?
  port pmac := congrArg (Option.map PmacEntry.port) (lists.lookup? pmac)
  amac pmac := congrArg (Option.map PmacEntry.amac) (lists.lookup? pmac)
  pmacOfIp := lists.pmacOfIp?
  portOfIp ip := congrArg (Option.map PmacEntry.port) (lists.entryOfIp? ip)
  amacOfIp ip := congrArg (Option.map PmacEntry.amac) (lists.entryOfIp? ip)
  pmacOfAmac := lists.pmacOfAmac?
  size := lists.size
  isEmpty := by
    have size : table.entries.size = listing.length := lists.size
    rw [PmacTable.isEmpty, Std.TreeMap.isEmpty_eq_size_eq_zero, size]
    cases listing <;> rfl
  toList := lists.toList_perm
  unique := lists.apart
  ipIndex ip pmac shown := by
    obtain ⟨entry, found, own⟩ := (lists.indexed.byIp ip pmac).mp shown
    have keyed := lists.indexed.keyed found
    exact ⟨entry, lists.mem.mpr (keyed.symm ▸ found), found, keyed, own⟩
  amacIndex amac pmac shown := by
    obtain ⟨entry, found, own⟩ := (lists.indexed.byAmac amac pmac).mp shown
    have keyed := lists.indexed.keyed found
    exact ⟨entry, lists.mem.mpr (keyed.symm ▸ found), found, keyed, own⟩

end Lists

/-- **Whatever is done to a table, it shows what a plain list shows.** From an empty table on, every
operation gives the answer of the listing, and afterwards every lookup is a search of the listing,
keys are unique, and no index points to a missing or a different entry. -/
theorem table_mirrors_listing (operations : List TableOperation) :
    (PmacTable.empty.performAll operations).1 = (Listing.performAll [] operations).1 ∧
      Mirrors (PmacTable.empty.performAll operations).2 (Listing.performAll [] operations).2 := by
  obtain ⟨answers, lists⟩ := lists_empty.performAll operations
  exact ⟨answers, lists.mirrors⟩

end PmacFabric
