import PmacFabric.FatTree.Build

/-!
# Reports

The counters of a run over a fat-tree: what the hosts sent and received, what the fabric manager
did, and what every switch did. `Report.summary` is the line that the command line prints.
-/

namespace PmacFabric

structure ManagerReport where
  directorySize : Nat
  registrations : Nat
  queries : Nat
  hits : Nat
  misses : Nat
  floods : Nat
  rejected : Nat
deriving DecidableEq, Repr

structure SwitchReport where
  name : String
  identity : String
  received : Nat
  transmitted : Nat
  /-- The reasons for drops that have occurred, by name. -/
  dropped : List (String × Nat)
  pmacEntries : Nat
deriving DecidableEq, Repr

structure Report where
  k : Nat
  seed : Option Nat
  /-- Flows sent by the hosts. -/
  sent : Nat
  /-- Packets that reached a host. -/
  delivered : Nat
  /-- Data items that still wait for a resolution. -/
  pending : Nat
  numEvents : Nat
  manager : ManagerReport
  /-- All switches, by name. -/
  switches : List SwitchReport
deriving DecidableEq, Repr

namespace Report

def ofManager (manager : FabricManager) : ManagerReport :=
  let counters := manager.counters
  { directorySize := manager.directory.size
    registrations := counters.registrations
    queries := counters.queries
    hits := counters.hits
    misses := counters.misses
    floods := counters.floods
    rejected := counters.rejected }

def ofSwitch (switch : Switch) : SwitchReport :=
  { name := switch.name
    identity := switch.identity.text
    received := switch.received
    transmitted := switch.transmitted
    dropped :=
      (switch.drops.toList.map fun (reason, count) => (reason.text, count)).mergeSort
        fun a b => a.1 ≤ b.1
    pmacEntries := switch.table.size }

/-- The counters of a fat-tree after a run in which `sent` flows were sent. -/
def ofTree (tree : FatTree) (seed : Option Nat) (sent : Nat) : Report :=
  { k := tree.k
    seed
    sent
    delivered := totalOf (fun host => host.inbox.size) tree.net.hosts
    pending := totalOf Host.totalPending tree.net.hosts
    numEvents := tree.net.handled
    manager := ofManager tree.net.manager
    switches := (tree.net.switches.map ofSwitch).mergeSort fun a b => a.name ≤ b.name }

/-- The drops of all switches. -/
def totalDropped (report : Report) : Nat :=
  totalOf (fun switch => totalOf Prod.snd switch.dropped) report.switches

/-- The run on one line. -/
def summary (report : Report) : String :=
  s!"[k={report.k}, events={report.numEvents}] delivered {report.delivered}/{report.sent}, " ++
    s!"pending {report.pending}, dropped {report.totalDropped}, " ++
    s!"directory {report.manager.directorySize} (hits={report.manager.hits}, " ++
    s!"misses={report.manager.misses}, floods={report.manager.floods})"

end Report

end PmacFabric
