import PmacFabric.Network.Wiring

/-!
# The plan of a fat-tree

A fat-tree with an even parameter `k` has `k` pods. A pod has `k / 2` edge switches and `k / 2`
aggregation switches, and `(k / 2) ^ 2` core switches connect the pods. The plan lists the switches
in the order of their numbers, and the links by these numbers:

* upper port `j` of edge switch `e` leads to lower port `e` of aggregation switch `j` of its pod;
* upper port `i` of aggregation switch `a` leads to lower port `pod` of core switch
  `a * (k / 2) + i`.

So the lower port of an aggregation switch is the position of an edge switch, and the lower port of
a core switch is a pod, which is what routing by position needs.
-/

namespace PmacFabric.FatTree

/-- The number of edge switch `position` of a pod. -/
def edgeId (k pod position : Nat) : DeviceId := pod * k + position

/-- The number of aggregation switch `position` of a pod. -/
def aggregationId (k pod position : Nat) : DeviceId := pod * k + k / 2 + position

/-- The number of a core switch. -/
def coreId (k index : Nat) : DeviceId := k * k + index

structure SwitchPlan where
  name : String
  identity : SwitchIdentity
  numLower : Nat
  numUpper : Nat

def edgePlan (k pod position : Nat) : SwitchPlan :=
  ⟨s!"edge-{pod}-{position}", ⟨.edge, UInt8.ofNat pod, UInt8.ofNat position⟩, k / 2, k / 2⟩

def aggregationPlan (k pod position : Nat) : SwitchPlan :=
  ⟨s!"agg-{pod}-{position}", ⟨.aggregation, UInt8.ofNat pod, UInt8.ofNat position⟩, k / 2, k / 2⟩

/-- A core switch belongs to no pod; its identity has the number behind the last one. -/
def corePlan (k index : Nat) : SwitchPlan :=
  ⟨s!"core-{index}", ⟨.core, UInt8.ofNat k, UInt8.ofNat index⟩, k, 0⟩

/-- All switches, by increasing number. -/
def switchPlans (k : Nat) : List SwitchPlan :=
  let half := List.range (k / 2)
  ((List.range k).flatMap fun pod =>
    half.map (edgePlan k pod) ++ half.map (aggregationPlan k pod)) ++
  (List.range (k / 2 * (k / 2))).map (corePlan k)

/-- The links between edge and aggregation switches. -/
def edgeLinks (k : Nat) : List (Endpoint × Endpoint) :=
  (List.range k).flatMap fun pod =>
    (List.range (k / 2)).flatMap fun e =>
      (List.range (k / 2)).map fun j =>
        (⟨edgeId k pod e, .upper j⟩, ⟨aggregationId k pod j, .lower e⟩)

/-- The links between aggregation and core switches. -/
def coreLinks (k : Nat) : List (Endpoint × Endpoint) :=
  (List.range k).flatMap fun pod =>
    (List.range (k / 2)).flatMap fun a =>
      (List.range (k / 2)).map fun i =>
        (⟨aggregationId k pod a, .upper i⟩, ⟨coreId k (a * (k / 2) + i), .lower pod⟩)

/-- The place of a host: a lower port of an edge switch. -/
structure Place where
  pod : Nat
  edge : Nat
  port : Nat
deriving DecidableEq, Repr

/-- All places, pod by pod and switch by switch. -/
def places (k : Nat) : List Place :=
  (List.range k).flatMap fun pod =>
    (List.range (k / 2)).flatMap fun edge =>
      (List.range (k / 2)).map fun port => ⟨pod, edge, port⟩

namespace Place

/-- The number of a place in the order of all places, if the fat-tree has the place. -/
def slot? (k : Nat) (place : Place) : Option Nat :=
  if place.pod < k ∧ place.edge < k / 2 ∧ place.port < k / 2 then
    some ((place.pod * (k / 2) + place.edge) * (k / 2) + place.port)
  else none

/-- The name of the host at a place. -/
def hostName (place : Place) : String := s!"host-{place.pod}-{place.edge}-{place.port}"

/-- The IP address of the host that a complete fat-tree has at a place. -/
def ip (place : Place) : Ipv4Address :=
  ⟨10, UInt8.ofNat place.pod, UInt8.ofNat place.edge, UInt8.ofNat (place.port + 2)⟩

/-- The hardware address of the host that a complete fat-tree has at a place. -/
def amac (place : Place) : MacAddress :=
  ⟨0x02, 0, 0, UInt8.ofNat place.pod, UInt8.ofNat place.edge, UInt8.ofNat (place.port + 2)⟩

end Place

end PmacFabric.FatTree
