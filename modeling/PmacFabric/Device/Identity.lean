/-!
# Tiers and identities

A switch belongs to one of three tiers, and its identity places it inside the fabric. Forwarding
compares the identity with the position that a PMAC encodes.
-/

namespace PmacFabric

/-- The layer of a switch. Hosts are attached to edge switches, aggregation switches connect the
edge switches of a pod, and core switches connect the pods. -/
inductive Tier where
  | edge
  | aggregation
  | core
deriving DecidableEq, Repr, Inhabited, Ord

namespace Tier

/-- Tiers are numbered from the bottom, starting with 1. -/
def code : Tier → Nat
  | .edge => 1
  | .aggregation => 2
  | .core => 3

def ofCode? : Nat → Option Tier
  | 1 => some .edge
  | 2 => some .aggregation
  | 3 => some .core
  | _ => none

/-- A tier can be read back from its code. -/
theorem ofCode?_code (tier : Tier) : ofCode? tier.code = some tier := by
  cases tier <;> rfl

/-- The form in which error texts name a tier. -/
def inspect : Tier → String
  | .edge => "Edge"
  | .aggregation => "Aggregation"
  | .core => "Core"

end Tier

/-- Tier, pod, and position inside the pod; a core switch has its own number as its position. -/
structure SwitchIdentity where
  tier : Tier
  pod : UInt8
  position : UInt8
deriving DecidableEq, Repr, Inhabited

namespace SwitchIdentity

def text (identity : SwitchIdentity) : String :=
  s!"SW{identity.tier.code}-{identity.pod.toNat}-{identity.position.toNat}"

instance : ToString SwitchIdentity := ⟨text⟩

/-- The form in which error texts name an identity. -/
def inspect (identity : SwitchIdentity) : String :=
  s!"SwitchIdentity \x7b tier: {identity.tier.inspect}, pod: {identity.pod.toNat}, " ++
    s!"position: {identity.position.toNat} \x7d"

end SwitchIdentity

end PmacFabric
