import BackendPlan.Text.Basic
import BackendPlan.Text.Case
import BackendPlan.Text.Quoted
import BackendPlan.Decimal
import BackendPlan.Json.Basic
import BackendPlan.Json.Reader
import BackendPlan.Uuid
import BackendPlan.Time
import BackendPlan.Record
import BackendPlan.Application
import BackendPlan.Config
import BackendPlan.Resource
import BackendPlan.Route
import BackendPlan.Table.Items
import BackendPlan.Event
import BackendPlan.Workspace
import BackendPlan.Registry.Basic
import BackendPlan.Session
import BackendPlan.Proofs.Lists
import BackendPlan.Proofs.Decoration.Convergence
import BackendPlan.Proofs.Registry.Run
import BackendPlan.Proofs.Decoration.History
import BackendPlan.Proofs.Decoration.Authorization
import BackendPlan.Proofs.Session.Trace
import BackendPlan.Proofs.Table.Ledger
import BackendPlan.Proofs.Table.Refinement
import BackendPlan.Proofs.Registry.Index
import BackendPlan.Proofs.Registry.Refusal
import BackendPlan.Proofs.Session.Effects
import BackendPlan.Proofs.Session.Handles
import BackendPlan.Proofs.Registry.Holdings
import BackendPlan.Proofs.Session.Sharing
import BackendPlan.Snapshot
import BackendPlan.Proofs.Registry.Footprint
import BackendPlan.Proofs.Session.Noninterference
import BackendPlan.Proofs.Clients.Renaming
import BackendPlan.Proofs.Clients.Share
import BackendPlan.Proofs.Clients.Step
import BackendPlan.Proofs.Clients.Interleaving
import BackendPlan.Proofs.Config.Lossless
import BackendPlan.Proofs.Registry.Journal
import BackendPlan.Proofs.Record.Layout
import BackendPlan.Proofs.Time.RoundTrip
import BackendPlan.Proofs.Uuid
import BackendPlan.Proofs.Record.RoundTrip
import BackendPlan.Proofs.Registry.Snapshot
import BackendPlan.Proofs.Config.Shadow
import BackendPlan.Proofs.Registry.Exported
import BackendPlan.Proofs.Json.Same
import BackendPlan.Proofs.Table.Keys
import BackendPlan.Proofs.Decoration.Attributes
import BackendPlan.Proofs.Table.Filing
import BackendPlan.Proofs.Table.Patches
import BackendPlan.Proofs.Table.Independence
import BackendPlan.Proofs.Text.Case
import BackendPlan.Proofs.Route.Methods
import BackendPlan.Proofs.Route.Placeholder
import BackendPlan.Proofs.Config.Built
import BackendPlan.Proofs.Record.Forms
import BackendPlan.Proofs.Settings
import BackendPlan.Proofs.LogStream.AppendOnly
