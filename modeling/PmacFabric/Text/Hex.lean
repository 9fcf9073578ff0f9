/-!
# Hexadecimal text

Octets and sixteen-bit words are written with a fixed number of lower-case digits. Reading an octet
is more liberal than writing one: either case is accepted, zeros may lead, and one plus sign may
stand in front.
-/

namespace PmacFabric.Hex

/-- The lower-case digit of a value below sixteen. -/
def digit (value : Nat) : Char :=
  if value < 10 then Char.ofNat ('0'.toNat + value) else Char.ofNat ('a'.toNat + (value - 10))

/-- The value of a digit of either case. -/
def digitValue? (c : Char) : Option Nat :=
  if '0' ≤ c ∧ c ≤ '9' then some (c.toNat - '0'.toNat)
  else if 'a' ≤ c ∧ c ≤ 'f' then some (c.toNat - 'a'.toNat + 10)
  else if 'A' ≤ c ∧ c ≤ 'F' then some (c.toNat - 'A'.toNat + 10)
  else none

/-- An octet is written with two digits. -/
def octet (value : UInt8) : List Char :=
  [digit (value.toNat / 16), digit (value.toNat % 16)]

/-- A sixteen-bit word is written with four digits. -/
def word (value : UInt16) : List Char :=
  [digit (value.toNat / 4096), digit (value.toNat / 256 % 16), digit (value.toNat / 16 % 16),
    digit (value.toNat % 16)]

/-- The value of a digit sequence, most significant digit first. -/
def value (digits : List Nat) : Nat :=
  digits.foldl (fun acc d => 16 * acc + d) 0

/-- Reads a number from one or more digits. -/
def number? (text : List Char) : Option Nat :=
  if text.isEmpty then none else (text.mapM digitValue?).map value

/-- A plus sign in front of a number is skipped. -/
def unsigned : List Char → List Char
  | '+' :: rest => rest
  | text => text

/-- Reads an octet: an optional plus sign, then digits whose value is at most 255. -/
def octet? (text : List Char) : Option UInt8 :=
  match number? (unsigned text) with
  | some n => if n < 256 then some (UInt8.ofNat n) else none
  | none => none

/-- Reads an even number of digits as octets, two digits each. -/
def octets? : List Char → Option (List UInt8)
  | [] => some []
  | high :: low :: rest =>
    match digitValue? high, digitValue? low, octets? rest with
    | some h, some l, some bytes => some (UInt8.ofNat (16 * h + l) :: bytes)
    | _, _, _ => none
  | [_] => none

end PmacFabric.Hex
