import ZanGuard.Lib.SearchFrame
import ZanGuard.Lib.SearchApart
import ZanGuard.Lib.SearchTree
import ZanGuard.Lib.SearchMap
import ZanGuard.Lib.Machine
import ZanGuard.Lib.Keyed
import ZanGuard.Lib.Transaction
import ZanGuard.Lib.SearchOrder
import ZanGuard.Lib.Sha256
import ZanGuard.Lib.Sessions
import ZanGuard.Lib.Undo
import ZanGuard.Lib.Among
import ZanGuard.Lib.Faults
import ZanGuard.Lib.Pages
import ZanGuard.Lib.Sql
import ZanGuard.Lib.Visits
import ZanGuard.Lib.Marks
import ZanGuard.Model.Tenant
import ZanGuard.Model.Tuple
import ZanGuard.Schema.Compiler
import ZanGuard.Schema.Validator
import ZanGuard.Spec.Derives
import ZanGuard.Spec.Meaning
import ZanGuard.Spec.Writes
import ZanGuard.Spec.SchemaLayout
import ZanGuard.Storage.Memory
import ZanGuard.Storage.System
import ZanGuard.Storage.Postgres
import ZanGuard.Storage.PostgresReads
import ZanGuard.Storage.Deployment
import ZanGuard.Storage.Cluster
import ZanGuard.Storage.TenantData
import ZanGuard.Storage.Twins
import ZanGuard.Tenant.Manager
import ZanGuard.Tenant.Lifecycle
import ZanGuard.Engine.Trace
import ZanGuard.Engine.Visits
import ZanGuard.Api.Management
import ZanGuard.Api.Server
import ZanGuard.Api.Tenants
import ZanGuard.Api.Changelog
import ZanGuard.Api.Tuples
import ZanGuard.Api.Service
import ZanGuard.Api.AuthZen
import ZanGuard.Api.Routes
import ZanGuard.Console.AttributeEditor
import ZanGuard.Console.AttributesPage
import ZanGuard.Console.SchemaViewer
import ZanGuard.Console.SchemaTypes
import ZanGuard.Proofs.Schema.Accepted
import ZanGuard.Proofs.Schema.References
import ZanGuard.Proofs.Schema.Permissions
import ZanGuard.Proofs.Schema.Nulls
import ZanGuard.Proofs.Schema.Orders
import ZanGuard.Proofs.Engine.Graph
import ZanGuard.Proofs.Engine.Refinement
import ZanGuard.Proofs.Engine.Sound
import ZanGuard.Proofs.Engine.Complete
import ZanGuard.Proofs.Engine.GraphWorld
import ZanGuard.Proofs.Engine.Siblings
import ZanGuard.Proofs.Engine.Gates
import ZanGuard.Proofs.Engine.Meaning
import ZanGuard.Proofs.Engine.Faults
import ZanGuard.Proofs.Engine.Order
import ZanGuard.Proofs.Engine.Snapshot
import ZanGuard.Proofs.Engine.Strangers
import ZanGuard.Proofs.Engine.Triples
import ZanGuard.Proofs.Engine.Paths
import ZanGuard.Proofs.Engine.Depth
import ZanGuard.Proofs.Engine.Limits
import ZanGuard.Proofs.Engine.Context
import ZanGuard.Proofs.Engine.Allowed
import ZanGuard.Proofs.Engine.Groups
import ZanGuard.Proofs.Engine.Visits
import ZanGuard.Proofs.Engine.Termination
import ZanGuard.Proofs.Engine.VisitKeys
import ZanGuard.Proofs.Storage.Isolation
import ZanGuard.Proofs.Storage.Replay
import ZanGuard.Proofs.Storage.Regrant
import ZanGuard.Proofs.Storage.Batch
import ZanGuard.Proofs.Storage.Written
import ZanGuard.Proofs.Engine.Growth
import ZanGuard.Proofs.Storage.Frozen
import ZanGuard.Proofs.Storage.Numbered
import ZanGuard.Proofs.Storage.Sequences
import ZanGuard.Proofs.Storage.Paging
import ZanGuard.Proofs.Storage.Duplicates
import ZanGuard.Proofs.Storage.Reads
import ZanGuard.Proofs.Storage.Calls
import ZanGuard.Proofs.Storage.Cluster
import ZanGuard.Proofs.Storage.Alone
import ZanGuard.Proofs.Storage.Suspension
import ZanGuard.Proofs.Storage.Tail
import ZanGuard.Proofs.Storage.Ledger
import ZanGuard.Proofs.Storage.Twins
import ZanGuard.Proofs.Storage.Attributes
import ZanGuard.Proofs.Storage.CrossTenant
import ZanGuard.Proofs.Storage.Snapshots
import ZanGuard.Proofs.Storage.Entries
import ZanGuard.Proofs.Storage.Atomicity
import ZanGuard.Proofs.Tenant.Backends
import ZanGuard.Proofs.Tenant.Lifecycle
import ZanGuard.Proofs.Tenant.Creation
import ZanGuard.Proofs.Api.Registry
import ZanGuard.Proofs.Api.Polling
import ZanGuard.Proofs.Api.Listing
import ZanGuard.Proofs.Api.Handlers
import ZanGuard.Proofs.Api.Service
import ZanGuard.Proofs.Api.History
import ZanGuard.Proofs.Api.Decisions
import ZanGuard.Proofs.Api.Isolation
import ZanGuard.Proofs.Console.AttributeEditor
import ZanGuard.Proofs.Console.AttributesPage
import ZanGuard.Proofs.Console.Lines
import ZanGuard.Proofs.Console.SchemaViewer
import ZanGuard.Proofs.Console.SchemaTypes
