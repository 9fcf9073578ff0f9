/-!
# Devices, ports and link ends

Switches and hosts are devices of one numbering. A switch has two independently numbered groups of
ports: lower ones face the hosts or the tier below, upper ones face the tier above. A host has one
interface, which counts as its upper port 0.
-/

namespace PmacFabric

/-- Devices are numbered from 0 in the order in which they are added. -/
abbrev DeviceId := Nat

/-- The form in which error texts name a device. -/
def DeviceId.inspect (id : DeviceId) : String := s!"NodeIndex({id})"

/-- A port of a device. Lower ports come before upper ones. -/
inductive Port where
  | lower (index : Nat)
  | upper (index : Nat)
deriving DecidableEq, Repr, Inhabited, Ord

namespace Port

/-- The number of the port inside its group. -/
def index : Port → Nat
  | .lower i => i
  | .upper i => i

def isUpper : Port → Bool
  | .lower _ => false
  | .upper _ => true

def text : Port → String
  | .lower i => s!"lower[{i}]"
  | .upper i => s!"upper[{i}]"

instance : ToString Port := ⟨text⟩

/-- The form in which error texts name the port of a link end. -/
def inspect : Port → String
  | .lower i => s!"Lower({i})"
  | .upper i => s!"Upper({i})"

end Port

/-- One end of a link: a port of a device. -/
structure Endpoint where
  device : DeviceId
  port : Port
deriving DecidableEq, Repr, Inhabited

/-- The form in which error texts name a link end. -/
def Endpoint.inspect (e : Endpoint) : String :=
  s!"Endpoint \x7b device: {DeviceId.inspect e.device}, port: {e.port.inspect} \x7d"

end PmacFabric
