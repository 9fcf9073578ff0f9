import PmacFabric.Forwarding.PmacTable

/-!
# The three indices of a PMAC table agree

A table is **indexed** when each index key points to the one entry that carries it, and each entry
has both its keys. Every table made by `add` is indexed, and for such a table `lookup?_add` says what
`add` does in terms of entries alone: the new entry is found under its PMAC, and an older entry is
still found exactly if it shares neither address with the new one.

`filter_ip` reads an indexed table as a list: the entries of an IP address are the one that the index
finds.

The two indices differ only in their keys, so the laws of one index are stated for any key
(`KeyIndex`) and used twice.
-/

namespace PmacFabric.PmacTable

/-! ## One index -/

/-- An index finds exactly the PMACs whose entries carry the key. -/
def KeyIndex {κ : Type} (lookup? : Pmac → Option PmacEntry) (index : κ → Option Pmac)
    (key : PmacEntry → κ) : Prop :=
  ∀ k pmac, index k = some pmac ↔ ∃ entry, lookup? pmac = some entry ∧ key entry = k

section KeyIndex

variable {κ : Type} {lookup? : Pmac → Option PmacEntry} {index : κ → Option Pmac}
  {key : PmacEntry → κ}

/-- A key belongs to at most one entry. -/
theorem KeyIndex.unique (h : KeyIndex lookup? index key) {p q : Pmac} {a b : PmacEntry}
    (ha : lookup? p = some a) (hb : lookup? q = some b) (same : key a = key b) : p = q := by
  have hp := (h (key a) p).mpr ⟨a, ha, rfl⟩
  have hq := (h (key a) q).mpr ⟨b, hb, same.symm⟩
  exact Option.some.inj (hp.symm.trans hq)

/-- Removing an entry together with its key keeps the index exact. -/
theorem KeyIndex.erase [DecidableEq κ] (h : KeyIndex lookup? index key) {pmac : Pmac}
    {gone : PmacEntry} (found : lookup? pmac = some gone) :
    KeyIndex (fun q => if pmac = q then none else lookup? q)
      (fun k => if key gone = k then none else index k) key := by
  intro k q
  dsimp only
  by_cases same : pmac = q
  · subst same
    simp only [if_true, reduceCtorEq, false_and, exists_false, iff_false]
    split
    · exact nofun
    · rename_i other
      intro hk
      obtain ⟨entry, hentry, hkey⟩ := (h k pmac).mp hk
      exact other (Option.some.inj (found.symm.trans hentry) ▸ hkey)
  · rw [if_neg same]
    split
    · rename_i hkey
      simp only [reduceCtorEq, false_iff, not_exists, not_and]
      intro entry hentry hk
      exact same (h.unique found hentry (hkey.trans hk.symm))
    · exact h k q

/-- Entering an entry whose key no other entry carries keeps the index exact. -/
theorem KeyIndex.insert [DecidableEq κ] (h : KeyIndex lookup? index key) (entry : PmacEntry)
    (fresh : ∀ q old, lookup? q = some old → key old ≠ key entry)
    (free : lookup? entry.pmac = none) :
    KeyIndex (fun q => if entry.pmac = q then some entry else lookup? q)
      (fun k => if key entry = k then some entry.pmac else index k) key := by
  intro k q
  dsimp only
  by_cases hkey : key entry = k
  · subst hkey
    rw [if_pos rfl]
    by_cases same : entry.pmac = q
    · simp only [same, if_true, Option.some.injEq, exists_eq_left']
    · simp only [Option.some.injEq, same, if_false, false_iff, not_exists, not_and]
      exact fun old => fresh q old
  · rw [if_neg hkey, h]
    by_cases same : entry.pmac = q
    · subst same
      simp only [free, reduceCtorEq, false_and, exists_false, if_true, Option.some.injEq,
        exists_eq_left', hkey]
    · rw [if_neg same]

/-- Removing whatever entry has a key leaves exactly the entries with other keys. -/
theorem KeyIndex.filter [DecidableEq κ] (h : KeyIndex lookup? index key) (k : κ) (q : Pmac) :
    (if index k = some q then none else lookup? q) =
      (lookup? q).filter fun entry => key entry ≠ k := by
  cases found : lookup? q with
  | none => rw [ite_self]; rfl
  | some entry =>
    have keyOf : index k = some q ↔ key entry = k := by
      rw [h]
      simp only [found, Option.some.injEq, exists_eq_left']
    simp only [keyOf, Option.filter_some, ne_eq, decide_not, Bool.not_eq_true',
      decide_eq_false_iff_not, ite_not]

end KeyIndex

/-! ## Both indices -/

/-- Entries stand under their own PMACs, and both indices are exact. -/
structure Indexed (table : PmacTable) : Prop where
  keyed : ∀ {pmac entry}, table.lookup? pmac = some entry → entry.pmac = pmac
  byIp : KeyIndex table.lookup? table.pmacOfIp? PmacEntry.ip
  byAmac : KeyIndex table.lookup? table.pmacOfAmac? PmacEntry.amac

theorem lookup?_empty (pmac : Pmac) : empty.lookup? pmac = none :=
  Std.TreeMap.getElem?_emptyc

/-- The indices of the empty table are exact. -/
theorem indexed_empty : Indexed empty := by
  refine ⟨?_, fun ip pmac => ⟨?_, ?_⟩, fun amac pmac => ⟨?_, ?_⟩⟩
  · intro pmac entry h
    cases (lookup?_empty _).symm.trans h
  · intro h
    cases Std.TreeMap.getElem?_emptyc.symm.trans h
  · rintro ⟨entry, h, _⟩
    cases (lookup?_empty _).symm.trans h
  · intro h
    cases Std.TreeMap.getElem?_emptyc.symm.trans h
  · rintro ⟨entry, h, _⟩
    cases (lookup?_empty _).symm.trans h

/-- Evicting a PMAC takes its entry out, and no other. -/
theorem lookup?_evict (table : PmacTable) (pmac key : Pmac) :
    (table.evict pmac).lookup? key = if pmac = key then none else table.lookup? key := by
  unfold evict
  split
  · rename_i absent
    split
    · rename_i same
      exact same ▸ absent
    · rfl
  · simp only [unindex, lookup?, Std.TreeMap.getElem?_erase, Std.compare_eq_iff_eq]

/-- Indices stay exact when a PMAC is evicted. -/
theorem Indexed.evict {table : PmacTable} (indexed : table.Indexed) (pmac : Pmac) :
    (table.evict pmac).Indexed := by
  cases found : table.lookup? pmac with
  | none =>
    have absent : table.entries[pmac]? = none := found
    have same : table.evict pmac = table := by simp only [PmacTable.evict, absent]
    rwa [same]
  | some gone =>
    have present : table.entries[pmac]? = some gone := found
    have entries : (table.evict pmac).lookup? = fun q => if pmac = q then none else table.lookup? q :=
      funext fun q => lookup?_evict table pmac q
    -- Both keys point to the entry that goes, so none of them is left behind.
    have ipKey : table.byIp[gone.ip]? = some gone.pmac :=
      (indexed.byIp _ _).mpr ⟨gone, (indexed.keyed found).symm ▸ found, rfl⟩
    have amacKey : table.byAmac[gone.amac]? = some gone.pmac :=
      (indexed.byAmac _ _).mpr ⟨gone, (indexed.keyed found).symm ▸ found, rfl⟩
    have ips : (table.evict pmac).pmacOfIp? =
        fun ip => if gone.ip = ip then none else table.pmacOfIp? ip := by
      funext ip
      simp only [PmacTable.evict, present, unindex, ipKey, if_true, pmacOfIp?,
        Std.TreeMap.getElem?_erase, Std.compare_eq_iff_eq]
    have amacs : (table.evict pmac).pmacOfAmac? =
        fun amac => if gone.amac = amac then none else table.pmacOfAmac? amac := by
      funext amac
      simp only [PmacTable.evict, present, unindex, amacKey, if_true, pmacOfAmac?,
        Std.TreeMap.getElem?_erase, Std.compare_eq_iff_eq]
    refine ⟨fun {key entry} h => ?_, ?_, ?_⟩
    · rw [lookup?_evict] at h
      split at h
      · cases h
      · exact indexed.keyed h
    · rw [entries, ips]
      exact indexed.byIp.erase found
    · rw [entries, amacs]
      exact indexed.byAmac.erase found

/-- Indices stay exact when whoever has an IP address is evicted. -/
theorem Indexed.evictIp {table : PmacTable} (indexed : table.Indexed) (ip : Ipv4Address) :
    (table.evictIp ip).Indexed := by
  unfold PmacTable.evictIp
  split
  · exact indexed
  · exact indexed.evict _

/-- Indices stay exact when whoever has a hardware address is evicted. -/
theorem Indexed.evictAmac {table : PmacTable} (indexed : table.Indexed) (amac : MacAddress) :
    (table.evictAmac amac).Indexed := by
  unfold PmacTable.evictAmac
  split
  · exact indexed
  · exact indexed.evict _

/-- Evicting an IP address takes out exactly the entries that carry it. -/
theorem Indexed.lookup?_evictIp {table : PmacTable} (indexed : table.Indexed) (ip : Ipv4Address)
    (key : Pmac) :
    (table.evictIp ip).lookup? key = (table.lookup? key).filter fun entry => entry.ip ≠ ip := by
  rw [← indexed.byIp.filter]
  unfold PmacTable.evictIp pmacOfIp?
  cases table.byIp[ip]? with
  | none => simp only [reduceCtorEq, if_false]
  | some pmac => simp only [lookup?_evict, Option.some.injEq]

/-- Evicting a hardware address takes out exactly the entries that carry it. -/
theorem Indexed.lookup?_evictAmac {table : PmacTable} (indexed : table.Indexed) (amac : MacAddress)
    (key : Pmac) :
    (table.evictAmac amac).lookup? key =
      (table.lookup? key).filter fun entry => entry.amac ≠ amac := by
  rw [← indexed.byAmac.filter]
  unfold PmacTable.evictAmac pmacOfAmac?
  cases table.byAmac[amac]? with
  | none => simp only [reduceCtorEq, if_false]
  | some pmac => simp only [lookup?_evict, Option.some.injEq]

/-! ## Adding an entry -/

/-- What is left when everything that shares a key with a new entry is removed. -/
def cleared (table : PmacTable) (entry : PmacEntry) : PmacTable :=
  ((table.evictAmac entry.amac).evictIp entry.ip).evict entry.pmac

/-- Indices are exact once a table has been cleared for a new entry. -/
theorem Indexed.cleared {table : PmacTable} (indexed : table.Indexed) (entry : PmacEntry) :
    (table.cleared entry).Indexed :=
  ((indexed.evictAmac entry.amac).evictIp entry.ip).evict entry.pmac

/-- What is left shares neither PMAC nor addresses with the new entry. -/
theorem Indexed.lookup?_cleared {table : PmacTable} (indexed : table.Indexed) (entry : PmacEntry)
    (key : Pmac) :
    (table.cleared entry).lookup? key =
      if entry.pmac = key then none
      else (table.lookup? key).filter fun old => old.amac ≠ entry.amac ∧ old.ip ≠ entry.ip := by
  rw [PmacTable.cleared, lookup?_evict, (indexed.evictAmac _).lookup?_evictIp,
    indexed.lookup?_evictAmac]
  cases table.lookup? key with
  | none => rfl
  | some old =>
    by_cases hamac : old.amac = entry.amac <;> by_cases hip : old.ip = entry.ip <;>
      simp [Option.filter_some, hamac, hip]

/-- The new entry is found under its PMAC, and everything else as the clearing left it. -/
theorem lookup?_add_eq (table : PmacTable) (entry : PmacEntry) (key : Pmac) :
    (table.add entry).lookup? key =
      if entry.pmac = key then some entry else (table.cleared entry).lookup? key := by
  simp only [add, cleared, lookup?, Std.TreeMap.getElem?_insert, Std.compare_eq_iff_eq]

/-- **What `add` does to the entries**: the new one is found under its PMAC, and an older one under
another PMAC stays exactly if it shares neither address with the new one. -/
theorem Indexed.lookup?_add {table : PmacTable} (indexed : table.Indexed) (entry : PmacEntry)
    (key : Pmac) :
    (table.add entry).lookup? key =
      if entry.pmac = key then some entry
      else (table.lookup? key).filter fun old => old.amac ≠ entry.amac ∧ old.ip ≠ entry.ip := by
  rw [lookup?_add_eq, indexed.lookup?_cleared]
  split <;> rfl

/-- **Adding an entry keeps both indices exact**: what shared a key with it has been evicted from
them before. -/
theorem Indexed.add {table : PmacTable} (indexed : table.Indexed) (entry : PmacEntry) :
    (table.add entry).Indexed := by
  have rest := indexed.cleared entry
  have free : (table.cleared entry).lookup? entry.pmac = none := by
    rw [indexed.lookup?_cleared, if_pos rfl]
  have fresh : ∀ q old, (table.cleared entry).lookup? q = some old →
      old.amac ≠ entry.amac ∧ old.ip ≠ entry.ip := by
    intro q old h
    rw [indexed.lookup?_cleared] at h
    split at h
    · cases h
    · exact of_decide_eq_true (Option.filter_eq_some_iff.mp h).2
  have entries : (table.add entry).lookup? =
      fun q => if entry.pmac = q then some entry else (table.cleared entry).lookup? q :=
    funext fun q => lookup?_add_eq table entry q
  have ips : (table.add entry).pmacOfIp? =
      fun ip => if entry.ip = ip then some entry.pmac else (table.cleared entry).pmacOfIp? ip := by
    funext ip
    simp only [PmacTable.add, PmacTable.cleared, pmacOfIp?, Std.TreeMap.getElem?_insert,
      Std.compare_eq_iff_eq]
  have amacs : (table.add entry).pmacOfAmac? =
      fun amac =>
        if entry.amac = amac then some entry.pmac
        else (table.cleared entry).pmacOfAmac? amac := by
    funext amac
    simp only [PmacTable.add, PmacTable.cleared, pmacOfAmac?, Std.TreeMap.getElem?_insert,
      Std.compare_eq_iff_eq]
  refine ⟨fun {key found} h => ?_, ?_, ?_⟩
  · rw [entries] at h
    dsimp only at h
    split at h
    · rename_i same
      exact Option.some.inj h ▸ same
    · exact rest.keyed h
  · rw [entries, ips]
    exact rest.byIp.insert entry (fun q old h => (fresh q old h).2) free
  · rw [entries, amacs]
    exact rest.byAmac.insert entry (fun q old h => (fresh q old h).1) free

/-! ## The list of entries -/

theorem toList_eq (table : PmacTable) : table.toList = table.entries.toList.map Prod.snd := by
  show table.entries.foldr (fun _ entry entries => entry :: entries) [] = _
  rw [Std.TreeMap.foldr_eq_foldr_toList]
  exact List.foldr_cons_eq_append.trans (List.append_nil _)

/-- A table lists as many entries as it counts. -/
theorem length_toList (table : PmacTable) : table.toList.length = table.size := by
  rw [toList_eq, List.length_map, Std.TreeMap.length_toList]
  rfl

/-- The list has an entry exactly if it is found under its PMAC. -/
theorem Indexed.mem_toList_iff {table : PmacTable} (indexed : table.Indexed) {entry : PmacEntry} :
    entry ∈ table.toList ↔ table.lookup? entry.pmac = some entry := by
  rw [toList_eq, List.mem_map]
  constructor
  · rintro ⟨⟨pmac, found⟩, mem, rfl⟩
    rw [Std.TreeMap.mem_toList_iff_getElem?_eq_some] at mem
    rw [indexed.keyed mem]
    exact mem
  · intro found
    exact ⟨(entry.pmac, entry), Std.TreeMap.mem_toList_iff_getElem?_eq_some.mpr found, rfl⟩

/-- No entry is listed twice, since each stands under its own PMAC. -/
theorem Indexed.nodup_toList {table : PmacTable} (indexed : table.Indexed) :
    table.toList.Nodup := by
  rw [toList_eq, List.Nodup, List.pairwise_map]
  apply Std.TreeMap.distinct_keys_toList.imp_of_mem
  rintro ⟨pmac, entry⟩ ⟨pmac', entry'⟩ mem mem' apart same
  rw [Std.TreeMap.mem_toList_iff_getElem?_eq_some] at mem mem'
  have same : entry = entry' := same
  subst same
  exact apart (Std.compare_eq_iff_eq.mpr ((indexed.keyed mem).symm.trans (indexed.keyed mem')))

/-- An IP address finds the entry listed with it. -/
theorem Indexed.entryOfIp?_eq_some_iff {table : PmacTable} (indexed : table.Indexed)
    {ip : Ipv4Address} {entry : PmacEntry} :
    table.entryOfIp? ip = some entry ↔ entry ∈ table.toList ∧ entry.ip = ip := by
  rw [entryOfIp?, Option.bind_eq_some_iff, indexed.mem_toList_iff]
  constructor
  · rintro ⟨pmac, shown, found⟩
    obtain ⟨other, here, own⟩ := (indexed.byIp _ _).mp shown
    cases found.symm.trans here
    exact ⟨indexed.keyed found ▸ found, own⟩
  · rintro ⟨found, rfl⟩
    exact ⟨entry.pmac, (indexed.byIp _ _).mpr ⟨entry, found, rfl⟩, found⟩

/-- **The entries of an IP address are the one that the index finds, or none.** -/
theorem Indexed.filter_ip {table : PmacTable} (indexed : table.Indexed) (ip : Ipv4Address) :
    (table.toList.filter fun entry => entry.ip = ip) = (table.entryOfIp? ip).toList := by
  have member : ∀ entry, entry ∈ (table.toList.filter fun entry => entry.ip = ip) ↔
      table.entryOfIp? ip = some entry := by
    intro entry
    rw [List.mem_filter, indexed.entryOfIp?_eq_some_iff, decide_eq_true_iff]
  cases found : table.entryOfIp? ip with
  | none =>
    apply List.eq_nil_iff_forall_not_mem.mpr
    intro entry mem
    cases found.symm.trans ((member entry).mp mem)
  | some entry =>
    have nodup := indexed.nodup_toList.filter fun entry => decide (entry.ip = ip)
    have single : ([entry] : List PmacEntry).Nodup := List.pairwise_singleton _ entry
    refine List.perm_singleton.mp ((List.perm_ext_iff_of_nodup nodup single).mpr fun other => ?_)
    rw [member, found, Option.some.injEq, List.mem_singleton, eq_comm]

end PmacFabric.PmacTable
