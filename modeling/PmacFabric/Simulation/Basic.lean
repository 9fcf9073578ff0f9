import PmacFabric.Error.Inspect
import PmacFabric.Network.Traffic
import PmacFabric.Report.Basic
import PmacFabric.Simulation.Flows

/-!
# Simulations

A simulation builds a complete fat-tree, sends flows between its hosts, has the hosts ask again for
addresses that stayed unresolved, and reports the counters.
-/

namespace PmacFabric

namespace Simulation

/-- What to send. -/
inductive Command where
  /-- Random flows between random hosts. -/
  | run (flows : Nat) (size : Nat)
  /-- One packet between two hosts, chosen by name. -/
  | ping (src dst : String)
deriving DecidableEq, Repr

structure Options where
  k : Nat := 4
  seed : Option Nat := none
  /-- How many events one operation may process. -/
  stopAfter : Nat := 100000
  /-- How often all hosts ask again. -/
  retries : Nat := 3
  command : Command
deriving DecidableEq, Repr

inductive Failure where
  | topology (cause : TopologyError)
  | network (cause : NetworkError)
  | tooFewHosts
deriving DecidableEq, Repr

/-- The failure as the command line reports it. -/
def Failure.inspect : Failure → String
  | .topology cause => cause.inspect
  | .network cause => cause.inspect
  | .tooFewHosts => Text.quoted "At least two hosts are required to generate traffic"

/-- The data of a ping. -/
def pingData : Bytes := "ping".toUTF8.toList

/-- The flows of a command, in the order in which they are sent. -/
def flows (tree : FatTree) (listing : tree.net.Listing) (stream : Choice.Stream) :
    Command → Except Failure (List Flow)
  | .run count size =>
    match ((Flow.random? (.ofStream stream) tree.hosts.toArray count size).run 0).1 with
    | some flows => .ok flows
    | none => .error .tooFewHosts
  | .ping src dst =>
    match tree.net.getHostId listing src with
    | .error e => .error (.network e)
    | .ok src =>
      match tree.net.getHostId listing dst with
      | .error e => .error (.network e)
      | .ok dst => .ok [⟨src, dst, pingData⟩]

/-- Sends a flow to the IP address of its destination. -/
def sendFlow (net : Network) (flow : Flow) : Except NetworkError Network :=
  match net.getHost flow.dst with
  | .error e => .error e
  | .ok host =>
    match net.send flow.src host.ip flow.data with
    | (.error e, _) => .error e
    | (.ok (), net) => .ok net

/-- Has each host ask again, and returns the number of questions. -/
def retransmitAll (net : Network) : List DeviceId → Except NetworkError (Nat × Network)
  | [] => .ok (0, net)
  | id :: rest =>
    match net.retransmit id with
    | (.error e, _) => .error e
    | (.ok count, net) =>
      (retransmitAll net rest).map fun (others, net) => (count + others, net)

/-- Has all hosts ask again, up to `rounds` times and not after a round without a question. -/
def retry (hosts : List DeviceId) : Nat → Network → Except NetworkError Network
  | 0, net => .ok net
  | rounds + 1, net =>
    match retransmitAll net hosts with
    | .error e => .error e
    | .ok (0, net) => .ok net
    | .ok (_ + 1, net) => retry hosts rounds net

/-- Sends the flows of a fat-tree and has its hosts ask again. -/
def traffic (tree : FatTree) (flows : List Flow) (retries : Nat) : Except NetworkError FatTree :=
  match flows.foldlM sendFlow tree.net with
  | .error e => .error e
  | .ok net => (retry tree.hosts retries net).map fun net => { tree with net }

end Simulation

/-- Carries out a simulation; `fresh` is the seed for options that name none, and `listing` the order
in which a network is searched for names. -/
def simulate (options : Simulation.Options) (fresh : Nat)
    (listing : (net : Network) → net.Listing) : Except Simulation.Failure Report :=
  let config : FabricConfig := { stopAfter := some options.stopAfter, seed := options.seed }
  match FatTree.build options.k config (config.streams fresh) with
  | .error e => .error (.topology e)
  | .ok tree =>
    let stream := Choice.seeded (UInt64.ofNat (options.seed.getD fresh))
    match Simulation.flows tree (listing tree.net) stream options.command with
    | .error e => .error e
    | .ok flows =>
      match Simulation.traffic tree flows options.retries with
      | .error e => .error (.network e)
      | .ok tree => .ok (.ofTree tree options.seed flows.length)

end PmacFabric
