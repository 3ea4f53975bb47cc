import HostInventory.Main
import HostInventory.Outside.Utility
import HostInventory.Proofs.BootTime.FixedOnce
import HostInventory.Proofs.BootTime.Outcome
import HostInventory.Proofs.BootTime.Registry
import HostInventory.Proofs.Engine.Books
import HostInventory.Proofs.Monitor.Endurance
import HostInventory.Proofs.Monitor.Phases
import HostInventory.Proofs.Number.SizeText
import HostInventory.Proofs.Process.Fetching
import HostInventory.Proofs.Process.Partition
import HostInventory.Proofs.Service.Listing
import HostInventory.Proofs.Statistics.AskedOnce
import HostInventory.Proofs.Viewer.Completion
import HostInventory.Proofs.Viewer.Narrowing
import HostInventory.Proofs.Viewer.Order
