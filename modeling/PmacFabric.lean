import PmacFabric.Main
import PmacFabric.Proofs.Address.Spelling
import PmacFabric.Proofs.Control.History
import PmacFabric.Proofs.Device.Accounting
import PmacFabric.Proofs.Device.Outbox
import PmacFabric.Proofs.FatTree.Allowance
import PmacFabric.Proofs.FatTree.Blueprint
import PmacFabric.Proofs.FatTree.Confinement
import PmacFabric.Proofs.FatTree.Flood
import PmacFabric.Proofs.FatTree.Ledger
import PmacFabric.Proofs.FatTree.Seeds
import PmacFabric.Proofs.FatTree.Strays
import PmacFabric.Proofs.FatTree.Termination
import PmacFabric.Proofs.FatTree.Transit
import PmacFabric.Proofs.Forwarding.Listing
import PmacFabric.Proofs.Forwarding.Shortcut
import PmacFabric.Proofs.Forwarding.Valley
import PmacFabric.Proofs.Network.Conservation
import PmacFabric.Proofs.Network.Limit
import PmacFabric.Proofs.Network.Names
import PmacFabric.Proofs.Network.Refusal
import PmacFabric.Proofs.Network.Topology
import PmacFabric.Proofs.Network.Tracing
import PmacFabric.Proofs.Report.Balance
import PmacFabric.Proofs.Control.Recipients
import PmacFabric.Proofs.FatTree.Residents
import PmacFabric.Proofs.Simulation.Fairness
