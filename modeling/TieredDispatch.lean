import TieredDispatch.Device.Script
import TieredDispatch.Main
import TieredDispatch.Session.Command
import TieredDispatch.Slot.Observer
import TieredDispatch.Proofs.Dispatch.Load
import TieredDispatch.Proofs.Session.Run
import TieredDispatch.Proofs.Config.Merge
import TieredDispatch.Proofs.Session.Settings
import TieredDispatch.Proofs.Environment.Routing
import TieredDispatch.Proofs.Environment.Latency
import TieredDispatch.Proofs.Session.Wait
import TieredDispatch.Proofs.CommandLine.Load
import TieredDispatch.Proofs.Workload.ReadyNow
import TieredDispatch.Proofs.Environment.Listing
import TieredDispatch.Proofs.Environment.Ownership
import TieredDispatch.Proofs.Environment.Groups
import TieredDispatch.Proofs.Dispatch.Influence
import TieredDispatch.Proofs.Session.Isolation
import TieredDispatch.Proofs.Selection.Assignment
import TieredDispatch.Proofs.Selection.Policy
import TieredDispatch.Proofs.Selection.Snapshot
import TieredDispatch.Proofs.Dispatch.Refusals
import TieredDispatch.Proofs.Selection.Precisions
import TieredDispatch.Proofs.Dispatch.Interleaving
import TieredDispatch.Proofs.Selection.Gains
import TieredDispatch.Proofs.Session.History
import TieredDispatch.Proofs.Catalog.Registry
import TieredDispatch.Proofs.Session.Registry
import TieredDispatch.Proofs.Catalog.Responder
import TieredDispatch.Proofs.CommandLine.Query
import TieredDispatch.Proofs.Catalog.Capabilities
import TieredDispatch.Proofs.Model.Classify
import TieredDispatch.Proofs.Config.Regrouping
import TieredDispatch.Proofs.Wire.RoundTrip
