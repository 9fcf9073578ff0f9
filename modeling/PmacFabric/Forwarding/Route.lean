import PmacFabric.Address.Pmac
import PmacFabric.Device.Identity
import PmacFabric.Device.Port
import PmacFabric.Forwarding.Choice

/-!
# Routing by position

The port towards a PMAC follows from the position of the switch alone. All upper ports lead
everywhere, so a frame that has to go up may take any of them.
-/

namespace PmacFabric

/-- Any upper port, by the number drawn; none if there is none. -/
def anyUpper (numUpper number : Nat) : Option Port :=
  if numUpper = 0 then none else some (.upper (Choice.below numUpper number))

/-- The port towards `dst`. A core switch sends down to the pod. An aggregation switch sends down to
the edge switch of its own pod, and up for any other pod. An edge switch sends down to its own host,
and up for any other. -/
def outputPort (identity : SwitchIdentity) (dst : Pmac) (numUpper number : Nat) : Option Port :=
  match identity.tier with
  | .core => some (.lower dst.pod.toNat)
  | .aggregation =>
    if identity.pod = dst.pod then some (.lower dst.position.toNat) else anyUpper numUpper number
  | .edge =>
    if identity.pod = dst.pod ∧ identity.position = dst.position then
      some (.lower dst.port.toNat)
    else anyUpper numUpper number

end PmacFabric
