import Paging.Effect.Task
import Paging.Proofs.Chain.Fetches
import Paging.Proofs.Chunked.Fetches
import Paging.Proofs.Chunked.Growth
import Paging.Proofs.Chunked.Layout
import Paging.Proofs.Collector.Tally
import Paging.Proofs.Consumption
import Paging.Proofs.Endpoint
import Paging.Proofs.Interleaving.Undisturbed
import Paging.Proofs.Query.LateBatch
import Paging.Proofs.Query.Precedence
import Paging.Proofs.Query.Refinement
import Paging.Proofs.Query.Release
import Paging.Proofs.Query.Succession
import Paging.Proofs.Settings
import Paging.Proofs.Tracing.History
import Paging.Proofs.Tracing.Snapshot
import Paging.Proofs.Tracing.Telemetry
import Paging.Proofs.Tracing.Transparency
import Paging.Proofs.Walk
import Paging.Web.Endpoint
