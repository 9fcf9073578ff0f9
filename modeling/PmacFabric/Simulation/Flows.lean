import PmacFabric.Device.Port
import PmacFabric.Forwarding.Choice
import PmacFabric.Frame.Basic

/-!
# Random flows

A flow is data from one host to another. A random flow takes two numbers for its ends: the first
picks the source, the second how many hosts further on, counted in a circle, the destination is. The
second is never zero and less than the number of hosts, so every ordered pair of different hosts
comes from exactly one pair of picks.

The numbers come from a `Generator`, whatever it is: drawing is written for all of them. Simulations
use `Generator.ofStream`, which hands out the numbers of a stream one after another.
-/

namespace PmacFabric

/-! ## Generators -/

/-- The numbers from `low` up to, but not including, `high`. -/
abbrev Between (low high : Nat) := { number : Nat // low ≤ number ∧ number < high }

/-- The number of a range that is picked by any number. -/
def Between.pick {low high : Nat} (nonempty : low < high) (number : Nat) : Between low high :=
  have within : Choice.below (high - low) number < high - low := Choice.below_lt _ (by omega)
  ⟨low + Choice.below (high - low) number, by omega⟩

/-- What random flows may ask for. -/
structure Generator (m : Type → Type) where
  /-- A number of a range that is not empty. -/
  range {low high : Nat} (nonempty : low < high) : m (Between low high)
  byte : m UInt8

/-- The numbers of a stream, in order; the state is the position of the next one. -/
def Generator.ofStream (stream : Choice.Stream) : Generator (StateM Nat) where
  range nonempty := fun position => (.pick nonempty (stream position), position + 1)
  byte := fun position => (UInt8.ofNat (stream position), position + 1)

/-! ## Flows -/

structure Flow where
  src : DeviceId
  dst : DeviceId
  data : Bytes
deriving DecidableEq, Repr

namespace Flow

/-- The host that is `distance` further on than `source` among `count` hosts in a circle. -/
def destination (count source distance : Nat) : Nat := (source + distance) % count

/-- The flow whose ends two numbers stand for. -/
def between (hosts : Array DeviceId) (source : Between 0 hosts.size)
    (distance : Between 1 hosts.size) (data : Bytes) : Flow :=
  let target := destination hosts.size source distance
  have sourceValid : source.val < hosts.size := source.property.2
  have targetValid : target < hosts.size := Nat.mod_lt _ (by omega)
  { src := hosts[source.val]
    dst := hosts[target]
    data }

/-- Where there are two hosts there is one. -/
theorem pos_of_many {hosts : Array DeviceId} (many : 2 ≤ hosts.size) : 0 < hosts.size :=
  Nat.lt_of_lt_of_le Nat.zero_lt_two many

section Drawing

variable {m : Type → Type} [Monad m] (generator : Generator m) (hosts : Array DeviceId)

/-- A flow of `size` bytes: two numbers for its ends, then one for each byte. -/
def draw (many : 2 ≤ hosts.size) (size : Nat) : m Flow := do
  let source ← generator.range (pos_of_many many)
  let distance ← generator.range many
  let data ← (List.replicate size ()).mapM fun _ => generator.byte
  return between hosts source distance data

/-- `count` flows of `size` bytes each, or none if there are fewer than two hosts. -/
def random? (count size : Nat) : m (Option (List Flow)) :=
  if many : 2 ≤ hosts.size then do
    let flows ← (List.replicate count ()).mapM fun _ => draw generator hosts many size
    return some flows
  else
    return none

end Drawing

end Flow

end PmacFabric
