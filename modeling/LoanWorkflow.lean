import LoanWorkflow.Tenancy.Predicate
import LoanWorkflow.Tenancy.Restriction
import LoanWorkflow.Versioning.CompensationCycles
import LoanWorkflow.Versioning.Migration
import LoanWorkflow.Versioning.StoredDiffs
import LoanWorkflow.Versioning.VersionHistory
import LoanWorkflow.Sla.BreachCycles
import LoanWorkflow.Sla.PausedClocks
import LoanWorkflow.Sla.SweepMetrics
import LoanWorkflow.Sla.Thresholds
import LoanWorkflow.Approval.Authority
import LoanWorkflow.Approval.ClosedGates
import LoanWorkflow.Approval.Consequences
import LoanWorkflow.Approval.ExpressionMeaning
import LoanWorkflow.Approval.VoteOrder
import LoanWorkflow.Engine.Claimants
import LoanWorkflow.Engine.EarliestStart
import LoanWorkflow.Engine.FailureEvidence
import LoanWorkflow.Engine.FourEyes
import LoanWorkflow.Engine.GatedTasks
import LoanWorkflow.Engine.LiveTasks
import LoanWorkflow.Engine.Outbox
import LoanWorkflow.Engine.Redelivery
import LoanWorkflow.Engine.StageWalk
import LoanWorkflow.Engine.Suspension
import LoanWorkflow.Engine.VisitTasks
import LoanWorkflow.Integration.CompletionPaths
import LoanWorkflow.Integration.DealReplay
import LoanWorkflow.Integration.KeyInterference
import LoanWorkflow.Integration.LiveCase
import LoanWorkflow.Integration.NewestSnapshot
import LoanWorkflow.Integration.RepeatedCallbacks
import LoanWorkflow.Assignment.FinishedTasks
import LoanWorkflow.Assignment.LastRole
import LoanWorkflow.Assignment.RoundRobin
import LoanWorkflow.Assignment.TaskHolder
import LoanWorkflow.DocVerification.Allocation
import LoanWorkflow.Exception.DeadLetters
import LoanWorkflow.Exception.RetryBudget
import LoanWorkflow.Exception.RetryDelays
import LoanWorkflow.Notification.CircuitBreaker
import LoanWorkflow.Notification.Dedupe
import LoanWorkflow.Scim.IfMatch
import LoanWorkflow.Scim.Like
import LoanWorkflow.Scim.Partition
