import PmacFabric.Text.Fields
import Std.Data.TreeMap

/-!
# IPv4 addresses

Four octets in dotted form, ordered as the numbers they spell. Reading is strict: exactly four
decimal fields of at most three digits, none with a leading zero, none above 255.
-/

namespace PmacFabric

structure Ipv4Address where
  a : UInt8
  b : UInt8
  c : UInt8
  d : UInt8
deriving DecidableEq, Repr, Inhabited

namespace Ipv4Address

/-- The number that the octets spell, most significant octet first. -/
def toNat (ip : Ipv4Address) : Nat :=
  ((ip.a.toNat * 256 + ip.b.toNat) * 256 + ip.c.toNat) * 256 + ip.d.toNat

/-- Addresses with the same number are the same. -/
theorem toNat_inj {x y : Ipv4Address} : x.toNat = y.toNat ↔ x = y := by
  constructor
  · intro h
    obtain ⟨a, b, c, d⟩ := x
    obtain ⟨a', b', c', d'⟩ := y
    simp only [toNat] at h
    have := a.toNat_lt; have := b.toNat_lt; have := c.toNat_lt; have := d.toNat_lt
    have := a'.toNat_lt; have := b'.toNat_lt; have := c'.toNat_lt; have := d'.toNat_lt
    simp only [Ipv4Address.mk.injEq, ← UInt8.toNat_inj]
    omega
  · rintro rfl
    rfl

instance : Ord Ipv4Address := ⟨compareOn toNat⟩

instance : Std.TransOrd Ipv4Address := inferInstanceAs (Std.TransCmp (compareOn toNat))

instance : Std.LawfulEqOrd Ipv4Address where
  eq_of_compare {_ _} h :=
    toNat_inj.1 (Std.LawfulEqOrd.eq_of_compare (α := Nat) h)

/-- Four decimal fields, separated by dots. -/
def text (ip : Ipv4Address) : String :=
  s!"{ip.a.toNat}.{ip.b.toNat}.{ip.c.toNat}.{ip.d.toNat}"

instance : ToString Ipv4Address := ⟨text⟩

private def decimalOctet? (digits : List Char) : Option UInt8 :=
  if digits.isEmpty || digits.length > 3 || !digits.all Char.isDigit then none
  else if digits.head? == some '0' && digits.length > 1 then none
  else
    let n := digits.foldl (fun acc c => 10 * acc + (c.toNat - '0'.toNat)) 0
    if n < 256 then some (UInt8.ofNat n) else none

/-- Reads an address in dotted form. -/
def parse? (text : String) : Option Ipv4Address :=
  match (Text.fields '.' text.toList).mapM decimalOctet? with
  | some [a, b, c, d] => some ⟨a, b, c, d⟩
  | _ => none

end Ipv4Address

end PmacFabric
