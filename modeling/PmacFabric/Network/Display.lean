import PmacFabric.Network.Basic

/-!
# Networks in writing

Events, tables and counters as lines of text, with the names of the devices.
-/

namespace PmacFabric.Network

/-- The event on one line, with the name of its target. -/
def describeEvent (net : Network) : Event → Except NetworkError String
  | .frame target frame =>
    (net.getName target.device).map fun name => s!"{name} (port {target.port}) <- {frame.describe}"
  | .control id message =>
    (net.getName id).map fun name => s!"FM -> {name}: {message.describe}"

def describeEntry (entry : PmacEntry) : String :=
  s!"{entry.pmac} -> {entry.amac} ({entry.ip}), port {entry.port}"

/-- One line for every entry of the PMAC table of a switch, by increasing PMAC. -/
def tableLines (net : Network) (id : DeviceId) : Except NetworkError (List String) :=
  (net.getSwitch id).map fun switch => switch.table.toList.map describeEntry

/-- One line for every entry of the directory, by increasing IP address. -/
def directoryLines (net : Network) : List String :=
  net.manager.directory.toList.map fun (ip, pmac) => s!"{ip} -> {pmac}"

private def describeDrops (drops : DropCounts) : String :=
  let entries := drops.toList.map fun (reason, count) => s!"({reason}, {count})"
  "[" ++ ", ".intercalate entries ++ "]"

/-- The counters of a switch on one line. -/
def switchLine (net : Network) (id : DeviceId) : Except NetworkError String :=
  (net.getSwitch id).map fun switch =>
    s!"{switch.name} ({switch.identity}): received {switch.received}, " ++
      s!"transmitted {switch.transmitted}, dropped {describeDrops switch.drops}"

end PmacFabric.Network
