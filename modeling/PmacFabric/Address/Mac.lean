import PmacFabric.Text.Fields
import PmacFabric.Text.Hex
import Std.Data.TreeMap

/-!
# Hardware addresses

A `MacAddress` is six octets. The same type holds the address that is burned into a network
interface and, wrapped as a `Pmac`, the positional address that the fabric uses in its place.
Addresses are ordered octet by octet, which is the order of the numbers they spell.
-/

namespace PmacFabric

/-- A 48-bit hardware address, first octet first. -/
structure MacAddress where
  o0 : UInt8
  o1 : UInt8
  o2 : UInt8
  o3 : UInt8
  o4 : UInt8
  o5 : UInt8
deriving DecidableEq, Repr, Inhabited

namespace MacAddress

/-- Every interface accepts a frame for `ff:ff:ff:ff:ff:ff`. -/
def broadcast : MacAddress := ⟨0xff, 0xff, 0xff, 0xff, 0xff, 0xff⟩

/-- The address of a target that is not yet known. -/
def zero : MacAddress := ⟨0, 0, 0, 0, 0, 0⟩

def isBroadcast (mac : MacAddress) : Bool := mac = broadcast

def octets (mac : MacAddress) : List UInt8 :=
  [mac.o0, mac.o1, mac.o2, mac.o3, mac.o4, mac.o5]

def ofOctets? : List UInt8 → Option MacAddress
  | [a, b, c, d, e, f] => some ⟨a, b, c, d, e, f⟩
  | _ => none

/-- The number that the octets spell, most significant octet first. -/
def toNat (mac : MacAddress) : Nat :=
  ((((mac.o0.toNat * 256 + mac.o1.toNat) * 256 + mac.o2.toNat) * 256 + mac.o3.toNat) * 256 +
    mac.o4.toNat) * 256 + mac.o5.toNat

/-- Addresses with the same number are the same. -/
theorem toNat_inj {a b : MacAddress} : a.toNat = b.toNat ↔ a = b := by
  constructor
  · intro h
    obtain ⟨a0, a1, a2, a3, a4, a5⟩ := a
    obtain ⟨b0, b1, b2, b3, b4, b5⟩ := b
    simp only [toNat] at h
    have := a0.toNat_lt; have := a1.toNat_lt; have := a2.toNat_lt
    have := a3.toNat_lt; have := a4.toNat_lt; have := a5.toNat_lt
    have := b0.toNat_lt; have := b1.toNat_lt; have := b2.toNat_lt
    have := b3.toNat_lt; have := b4.toNat_lt; have := b5.toNat_lt
    simp only [MacAddress.mk.injEq, ← UInt8.toNat_inj]
    omega
  · rintro rfl
    rfl

instance : Ord MacAddress := ⟨compareOn toNat⟩

instance : Std.TransOrd MacAddress := inferInstanceAs (Std.TransCmp (compareOn toNat))

instance : Std.LawfulEqOrd MacAddress where
  eq_of_compare {_ _} h :=
    toNat_inj.1 (Std.LawfulEqOrd.eq_of_compare (α := Nat) h)

/-- Six octets of two lower-case digits, separated by colons. -/
def text (mac : MacAddress) : String :=
  String.ofList (List.intercalate [':'] (mac.octets.map Hex.octet))

instance : ToString MacAddress := ⟨text⟩

/-- The form in which error texts name an address. -/
def inspect (mac : MacAddress) : String := s!"MacAddress({mac})"

/-- A text that is no address. -/
structure ParseError where
  text : String
deriving DecidableEq, Repr

def ParseError.message (e : ParseError) : String := s!"Invalid MAC address: {e.text}"

/-- Reads six colon-separated octets, each as `Hex.octet?` reads one. -/
def parse (text : String) : Except ParseError MacAddress :=
  match (Text.fields ':' text.toList).mapM Hex.octet? with
  | some [a, b, c, d, e, f] => .ok ⟨a, b, c, d, e, f⟩
  | _ => .error ⟨text⟩

end MacAddress

end PmacFabric
