import PmacFabric.Address.Ipv4
import PmacFabric.Address.Pmac
import Std.Data.TreeMap

/-!
# PMAC tables

An edge switch keeps, for every host on its lower ports, the host's own hardware address, its IP
address and the PMAC that stands for it. Entries are found by each of the three. Two indices from
addresses to PMACs go with the entries; whatever removes an entry removes its index keys with it, so
an index never points to a missing or a different entry.
-/

namespace PmacFabric

/-- A host on a lower port of an edge switch. -/
structure PmacEntry where
  pmac : Pmac
  /-- The host's own hardware address. -/
  amac : MacAddress
  ip : Ipv4Address
  port : Nat
deriving DecidableEq, Repr

structure PmacTable where
  entries : Std.TreeMap Pmac PmacEntry := {}
  byIp : Std.TreeMap Ipv4Address Pmac := {}
  byAmac : Std.TreeMap MacAddress Pmac := {}
deriving Inhabited

namespace PmacTable

def empty : PmacTable := {}

def lookup? (table : PmacTable) (pmac : Pmac) : Option PmacEntry := table.entries[pmac]?

/-- The entry of a PMAC, for callers that read the table. -/
def entry? (table : PmacTable) (pmac : Pmac) : Option PmacEntry := table.lookup? pmac

def port? (table : PmacTable) (pmac : Pmac) : Option Nat := (table.lookup? pmac).map (·.port)

def amac? (table : PmacTable) (pmac : Pmac) : Option MacAddress := (table.lookup? pmac).map (·.amac)

def pmacOfIp? (table : PmacTable) (ip : Ipv4Address) : Option Pmac := table.byIp[ip]?

def pmacOfAmac? (table : PmacTable) (amac : MacAddress) : Option Pmac := table.byAmac[amac]?

def entryOfIp? (table : PmacTable) (ip : Ipv4Address) : Option PmacEntry :=
  (table.pmacOfIp? ip).bind table.lookup?

def portOfIp? (table : PmacTable) (ip : Ipv4Address) : Option Nat :=
  (table.entryOfIp? ip).map (·.port)

def amacOfIp? (table : PmacTable) (ip : Ipv4Address) : Option MacAddress :=
  (table.entryOfIp? ip).map (·.amac)

def size (table : PmacTable) : Nat := table.entries.size

def isEmpty (table : PmacTable) : Bool := table.entries.isEmpty

/-- All entries, by increasing PMAC. -/
def toList (table : PmacTable) : List PmacEntry := table.entries.values

/-- Removes the index keys of an entry that is gone, but only those that point to its PMAC: another
entry may have taken over one of its addresses. -/
def unindex (table : PmacTable) (entry : PmacEntry) : PmacTable :=
  { table with
    byIp :=
      if table.byIp[entry.ip]? = some entry.pmac then table.byIp.erase entry.ip else table.byIp
    byAmac :=
      if table.byAmac[entry.amac]? = some entry.pmac then table.byAmac.erase entry.amac
      else table.byAmac }

/-- Removes the entry of a PMAC together with its index keys. -/
def evict (table : PmacTable) (pmac : Pmac) : PmacTable :=
  match table.entries[pmac]? with
  | none => table
  | some entry => { table with entries := table.entries.erase pmac }.unindex entry

/-- Removes the entry of an IP address. -/
def evictIp (table : PmacTable) (ip : Ipv4Address) : PmacTable :=
  match table.byIp[ip]? with
  | none => table
  | some pmac => table.evict pmac

/-- Removes the entry of a host's hardware address. -/
def evictAmac (table : PmacTable) (amac : MacAddress) : PmacTable :=
  match table.byAmac[amac]? with
  | none => table
  | some pmac => table.evict pmac

/-- Adds an entry and removes every other one that shares its PMAC or one of its addresses. -/
def add (table : PmacTable) (entry : PmacEntry) : PmacTable :=
  let table := ((table.evictAmac entry.amac).evictIp entry.ip).evict entry.pmac
  { entries := table.entries.insert entry.pmac entry
    byIp := table.byIp.insert entry.ip entry.pmac
    byAmac := table.byAmac.insert entry.amac entry.pmac }

/-- Removes the entry of a host's hardware address and returns it. -/
def remove (table : PmacTable) (amac : MacAddress) : Option PmacEntry × PmacTable :=
  match (table.pmacOfAmac? amac).bind table.lookup? with
  | none => (none, table)
  | some entry => (some entry, table.evict entry.pmac)

/-- Removes all entries. -/
def clear (_ : PmacTable) : PmacTable := .empty

end PmacTable

end PmacFabric
