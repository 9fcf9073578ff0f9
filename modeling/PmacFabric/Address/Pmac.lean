import PmacFabric.Address.Mac

/-!
# Positional addresses

A **PMAC** is a hardware address that says where a host is attached. Its octets are a reserved one,
the pod, the position of the edge switch inside the pod, the lower port of that switch, and two
octets for a virtual machine. Switches forward by the middle three. Any hardware address can be read
as a PMAC; `encode` writes the ones that edge switches assign.
-/

namespace PmacFabric

/-- A hardware address read as a position in the fabric. -/
structure Pmac where
  mac : MacAddress
deriving DecidableEq, Repr, Inhabited

namespace Pmac

/-- Stands for a destination that is not resolved; never a destination itself. -/
def broadcast : Pmac := ⟨MacAddress.broadcast⟩

def isBroadcast (pmac : Pmac) : Bool := pmac.mac.isBroadcast

/-- The pod number. -/
def pod (pmac : Pmac) : UInt8 := pmac.mac.o1

/-- The position of the edge switch inside its pod. -/
def position (pmac : Pmac) : UInt8 := pmac.mac.o2

/-- The lower port of the edge switch. -/
def port (pmac : Pmac) : UInt8 := pmac.mac.o3

/-- The number of the virtual machine. -/
def vmid (pmac : Pmac) : Nat := pmac.mac.o4.toNat * 256 + pmac.mac.o5.toNat

/-- The address of the host on `port` of the edge switch at `position` of `pod`. There is one
virtual machine per port, number 1. -/
def encode (pod position port : UInt8) : Pmac := ⟨0, pod, position, port, 0, 1⟩

/-- No assigned address is the broadcast address. -/
theorem mac_encode_ne_broadcast (pod position port : UInt8) :
    (encode pod position port).mac ≠ MacAddress.broadcast := fun same =>
  absurd (congrArg MacAddress.o0 same) (by show (0 : UInt8) ≠ 0xff; decide)

instance : Ord Pmac := ⟨compareOn fun pmac => pmac.mac.toNat⟩

instance : Std.TransOrd Pmac :=
  inferInstanceAs (Std.TransCmp (compareOn fun pmac : Pmac => pmac.mac.toNat))

instance : Std.LawfulEqOrd Pmac where
  eq_of_compare {a b} h := by
    have := MacAddress.toNat_inj.1 (Std.LawfulEqOrd.eq_of_compare (α := Nat) h)
    cases a
    cases b
    exact congrArg Pmac.mk this

instance : ToString Pmac := ⟨fun pmac => pmac.mac.text⟩

/-- The form in which error texts name a PMAC. -/
def inspect (pmac : Pmac) : String := s!"Pmac({pmac})"

end Pmac

end PmacFabric
