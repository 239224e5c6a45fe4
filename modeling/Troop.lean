import Troop.Workflow.Continuations
import Troop.Workflow.Overlaps
import Troop.Workflow.Pausing
import Troop.Workflow.Gates
import Troop.Approvals.Stable
import Troop.Connectors.Once
import Troop.Workflow.Bindings
import Troop.Connectors.Reported
import Troop.Inbox.Once
import Troop.Inbox.Coverage
import Troop.Brainstorms.Rounds
import Troop.Cache.Invalidation
import Troop.Cache.Fills
import Troop.Retrieval.Isolation
import Troop.Workflow.Published
import Troop.Packages.Consent
import Troop.Decisions.Atomic
import Troop.Identity.OneTime
import Troop.Execution.Trees
import Troop.Orchestration.Repeats
import Troop.Runs.Hooks
import Troop.Runs.Outstanding
import Troop.Runs.Repeated
import Troop.Runs.Replays
import Troop.Runs.Signals
import Troop.Starts.Owners
import Troop.Delegation.Resumed
import Troop.Workflow.Lasting
import Troop.Authorization.Hierarchy
import Troop.Connectors.Ceiling
import Troop.Approvers.Escalation
import Troop.Versions.Hash
import Troop.Hierarchy.Cycles
import Troop.Hierarchy.Storage
import Troop.Approvers.Listing
import Troop.Memory.Widening
import Troop.Delegation.Scheduling
import Troop.LocalRepo.Containment
import Troop.Starts.Expensive
import Troop.Parking.Stops
import Troop.Projects.Readiness
import Troop.Providers.Defaults
import Troop.Outbound.Credentials
import Troop.RateLimits.Counters
import Troop.Projects.Positions
import Troop.Cache.SingleFlight
import Troop.Retrieval.DriveAcl
import Troop.Starts.Failover
import Troop.Brainstorms.Consensus
import Troop.Retrieval.Reindexing
import Troop.Approvals.Redaction
import Troop.Orchestration.Partition
import Troop.Retrieval.Ranking
import Troop.Retrieval.Chunking
import Troop.Retrieval.Selection
