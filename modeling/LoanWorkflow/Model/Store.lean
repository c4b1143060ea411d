import LoanWorkflow.Framework.Frame
import LoanWorkflow.Model.Config

/-! # The store

    The tables that the engine reads and writes, one Lean table per database
    table. A column that no modelled function reads or writes is left out.
    Timestamps of an update are those of the transaction, passed as `now`.
-/

namespace LoanWorkflow

open List

variable {e : Err} {α β ε : Type}

/-! ## Statuses -/

inductive CaseStatus where
  | open
  | inProgress
  | completed
  | cancelled
  | suspended
  | rejected
  | cloned
  | exception
  | allocatable
deriving DecidableEq, Repr

def CaseStatus.isTerminal : CaseStatus → Bool
  | .completed | .cancelled | .rejected => true
  | _ => false

inductive TaskStatus where
  | pending
  | assigned
  | inProgress
  | awaitingExternal
  | completed
  | failed
  | cancelled
  | skipped
deriving DecidableEq, Repr

def TaskStatus.isTerminal : TaskStatus → Bool
  | .completed | .failed | .cancelled | .skipped => true
  | _ => false

/-- The statuses that count as done when an activity or a case is evaluated. -/
def TaskStatus.isDone : TaskStatus → Bool
  | .completed | .skipped | .cancelled => true
  | _ => false

/-- The statuses of a task that still has work to do. -/
def TaskStatus.isOpen : TaskStatus → Bool
  | .pending | .assigned | .inProgress | .awaitingExternal => true
  | _ => false

inductive GateStatus where
  | pending
  | active
  | satisfied
  | failed
  | rejected
  | rejectedReworkInitiated
  | expired
  | cancelled
deriving DecidableEq, Repr

inductive RequestStatus where
  | pending
  | approved
  | rejected
  | expired
  | delegated
deriving DecidableEq, Repr

/-- Status of the current tier of an approval chain. -/
inductive TierStatus where
  | pending
  | approved
  | rejected
  | skipped
deriving DecidableEq, Repr

inductive ChainStatus where
  | pending
  | inProgress
  | completed
  | failed
deriving DecidableEq, Repr

/-! ## Events -/

/-- Types of the events that the modelled functions publish. -/
inductive EventType where
  | taskCompleted
  | taskFailed
  | taskQueued
  | taskAssignedToTeam
  | taskCreationBlocked
  | activityCompleted
  | caseStageChanged
  | caseCreated
  | caseCompleted
  | caseCloned
  | caseSuspended
  | caseResumed
  | caseWithdrawn
  | caseReleased
  | caseEmergencyClosed
  | caseSentToRework
  | caseRejected
  | caseMaxReworkExceeded
  | stageTransitionBlocked
  | approvalGateCreated
  | approvalRequested
  | approvalGranted
  | approvalRejected
  | approvalDelegated
  | approvalExpired
  | approvalGateSatisfied
  | approvalGateFailed
  | noEligibleApprover
  | slaWarning
  | slaCritical
  | slaBreached
  | slaPaused
  | slaResumed
  | slaExtended
  | qaApproved
  | taskPoisonPillDetected
  | caseExceptionRaised
  | caseExceptionPropagated
  | compensationStarted
  | compensationCompleted
  | taskRequeued
  | caseExpired
  | caseTypeActivated
  | caseTypeDeprecated
  | caseVersionMigrated
  | circuitBreakerOpened
  | taskAssigned
  | taskClaimed
  | taskUnassigned
  | taskReassigned
  | userDeactivated
  | userRoleAssigned
  | userRoleRevoked
  | caseAllocated
  | caseUnallocated
  /-- An event type of the catalogue that an outside system names. -/
  | external (code : String)
deriving DecidableEq, Repr

inductive EventStatus where
  | pending
  | processing
  | delivered
  | failed
deriving DecidableEq, Repr

/-- A row of `events_outbox`. -/
structure Event where
  eventType : EventType
  caseId : Option Id := none
  taskId : Option Id := none
  payload : Json := .obj []
  targetService : String := ""
  status : EventStatus := .pending
  cancelledAt : Option Instant := none
  tenantId : String := ""
  attempts : Int := 0
  maxAttempts : Int := 5
  lastAttemptedAt : Option Instant := none
  createdAt : Instant := 0
  deliveredAt : Option Instant := none

/-! ## Rows -/

inductive CaseTypeStatus where
  | draft
  | active
  | deprecated
deriving DecidableEq, Repr

/-- A row of `case_types`. -/
structure CaseType where
  code : String := ""
  version : Int := 1
  status : CaseTypeStatus := .active
  config : CaseTypeConfig
  name : String := ""
  description : Option String := none
  /-- `config->>'ttl_days'`, a key of the stored document that `CaseTypeConfig` has no field for. -/
  ttlDays : Option String := none
  /-- The tenant that owns the type; nothing for a type of all tenants. -/
  tenantId : Option String := none

/-- The SLA columns that tasks and cases both have. -/
structure SLAColumns where
  /-- `task_due_at` or `case_due_at`. -/
  dueAt : Option Instant := none
  effectiveStartTime : Option Instant := none
  durationMs : Option Int := none
  warningThresholdPct : Option ℚ := none
  criticalThresholdPct : Option ℚ := none
  breachAction : Option SLABreachAction := none
  calendarId : Option Id := none
  warningIssuedAt : Option Instant := none
  criticalIssuedAt : Option Instant := none
  breachDetectedAt : Option Instant := none
  cycle : Int := 1

/-- The tenant of rows that are inserted without one. -/
def defaultTenantId : String := "00000000-0000-0000-0000-000000000000"

/-- A row of `cases`. Every writer sets `case_type_id` and `case_type_version_id` together, so
    one column stands for both. -/
structure CaseInstance where
  tenantId : String := ""
  caseTypeId : Id
  parentCaseId : Option Id := none
  sourceCaseId : Option Id := none
  currentStageCode : Option String := none
  currentStageOrdinal : Int := 0
  status : CaseStatus := .open
  metadata : Json := .obj []
  assignedTo : Option String := none
  assignedUserId : Option String := none
  caseComplexity : Option String := none
  requiredSkills : Option (List String) := none
  reworkCount : Int := 0
  maxReworkAttempts : Int := 0
  rowVersion : Nat := 1
  createdAt : Instant := 0
  completedAt : Option Instant := none
  suspendReason : Option String := none
  resumeAt : Option Instant := none
  withdrawalReason : Option String := none
  emergencyClosedAt : Option Instant := none
  emergencyReason : Option String := none
  supervisorId : Option String := none
  exceptionAt : Option Instant := none
  exceptionReason : Option String := none
  exceptionTaskId : Option Id := none
  exceptionSeverity : Option TaskFailureSeverity := none
  sla : SLAColumns := {}

/-- The columns of a case that the approval functions read and never rewrite. -/
def CaseInstance.terms (c : CaseInstance) : Id × Json := (c.caseTypeId, c.metadata)

/-- The classes of a task failure. -/
inductive ErrorClass where
  | transient
  | permanent
  | unknown
deriving DecidableEq, Repr

/-- A row of `tasks`. -/
structure Task where
  tenantId : String := defaultTenantId
  caseId : Id
  taskDefinitionCode : String
  activityCode : String
  stageCode : String
  requiresApproval : Bool := false
  approvalGateId : Option Id := none
  approvalAmount : Option ℚ := none
  isBlocking : Bool := false
  status : TaskStatus := .pending
  /-- From 1 (low) to 4 (critical). -/
  priority : Int := 2
  assignedService : Option String := none
  assignedUserId : Option String := none
  assignedTeamId : Option String := none
  assigneeId : Option String := none
  workbasketId : Option Id := none
  assignedAt : Option Instant := none
  lastHeartbeatAt : Option Instant := none
  startedAt : Option Instant := none
  completedAt : Option Instant := none
  /-- The plain `due_at` column. -/
  dueAt : Option Instant := none
  retryCount : Int := 0
  maxRetries : Int := 3
  nextRetryAt : Option Instant := none
  totalFailureCount : Int := 0
  lastErrorCode : Option String := none
  lastErrorClass : Option ErrorClass := none
  isPoisonPill : Bool := false
  poisonPillQuarantinedAt : Option Instant := none
  poisonPillReason : Option String := none
  inputPayload : Json := .obj []
  outputPayload : Json := .obj []
  errorDetail : Option Json := none
  idempotencyKey : String
  version : Nat := 1
  createdAt : Instant := 0
  sla : SLAColumns := {}

/-- A row of `approval_gates`. -/
structure ApprovalGate where
  taskId : Id
  caseId : Id
  approvalPolicy : ApprovalPolicy
  requiredApproverCount : Int
  approverSelection : ApproverSelection := .explicitList
  approvers : List String := []
  authorityLimit : Option ℚ := none
  approvalAmount : Option ℚ := none
  approvalTimeoutHours : ℚ := 24
  onTimeoutAction : TimeoutAction := .escalate
  rejectionBehavior : RejectionBehavior := .sendToRework
  reworkTargetStageCode : Option String := none
  fallbackSupervisorRole : Option String := none
  dynamicRuleExpression : Option String := none
  chainDefinition : List ApprovalChainTierDefinition := []
  gateStatus : GateStatus := .pending
  openedAt : Option Instant := none
  closedAt : Option Instant := none
  version : Nat := 1

/-- One hop of a delegation chain; an escalation names no actor. -/
structure DelegationHop where
  fromId : String
  toId : String
  byId : Option String := none
  delegatedAt : Instant

/-- A row of `approval_requests`. -/
structure ApprovalRequest where
  approvalGateId : Id
  approverId : String
  tier : Option Int := none
  status : RequestStatus := .pending
  decision : Option String := none
  evidenceRefs : List String := []
  decidedAt : Option Instant := none
  decidedBy : Option String := none
  expiresAt : Instant := 0
  delegatedToId : Option String := none
  delegatedAt : Option Instant := none
  delegationChain : List DelegationHop := []
  version : Nat := 1

/-- A row of `approval_chain_state`. -/
structure ApprovalChainState where
  caseId : Id
  approvalGateId : Id
  approvalChainDefinition : List ApprovalChainTierDefinition
  currentTier : Int
  tierStatus : TierStatus := .pending
  tierStartedAt : Option Instant := none
  tierCompletedAt : Option Instant := none
  chainStatus : ChainStatus := .pending

/-- A row of `case_stage_transitions`. -/
structure CaseStageTransition where
  caseId : Id
  fromStageCode : Option String
  toStageCode : String
  fromOrdinal : Option Int
  toOrdinal : Int
  isRegression : Bool
  reason : Option String
  transitionedBy : String

/-- A row of `document_types`. -/
structure DocumentType where
  caseTypeCode : String
  caseTypeVersion : Int
  documentTypeCode : String
  allowedExtensions : List String := []
  maxSizeMB : Int := 10
  requiredAtStage : Option String := none
  requiredCountMin : Int := 0
  requiredCountMax : Int := 1
  requiresVerification : Bool := false
  verificationRole : Option String := none

inductive DocumentRequestStatus where
  | pending
  | partiallyFulfilled
  | fulfilled
  | waived
deriving DecidableEq, Repr

/-- A row of `document_requests`. -/
structure DocumentRequest where
  caseId : Id
  caseTypeCode : String
  caseTypeVersion : Int
  documentTypeCode : String
  requiredAtStage : Option String
  requiredCountMin : Int
  requiredCountMax : Int
  currentCount : Int := 0
  status : DocumentRequestStatus := .pending

inductive UserStatus where
  | active
  | suspended
  | deactivated
deriving DecidableEq, Repr

/-- A row of `users`. -/
structure User where
  tenantId : String
  userId : String
  status : UserStatus := .active

inductive TeamStatus where
  | active
  | disbanded
deriving DecidableEq, Repr

/-- A row of `teams`. -/
structure Team where
  tenantId : String
  teamId : String
  status : TeamStatus := .active

/-- A row of `team_members`. -/
structure TeamMember where
  tenantId : String
  teamId : String
  userId : String

/-- A row of `roles`. -/
structure Role where
  tenantId : String
  roleId : String
  permissions : List String := []

/-- A row of `user_roles`. -/
structure UserRole where
  tenantId : String
  userId : String
  roleId : String

/-- A row of `workbaskets`. -/
structure Workbasket where
  name : String

/-- A row of `four_eyes_tokens`. -/
structure FourEyesToken where
  token : String
  caseId : Id
  issuerId : String
  expiresAt : Instant
  consumedAt : Option Instant := none
  consumedBy : Option String := none

/-- Statuses of a change that waits for quality assurance. -/
inductive StagedChangeStatus where
  | pending
  | applied
  | discarded
deriving DecidableEq, Repr

/-- A row of `qa_staged_changes`. -/
structure QAStagedChange where
  tenantId : String
  caseId : Id
  status : StagedChangeStatus := .pending
  appliedAt : Option Instant := none
  appliedBy : Option String := none

inductive CompensationStatus where
  | pending
  | inProgress
  | completed
  | failed
deriving DecidableEq, Repr

/-- A row of `task_compensations`. -/
structure TaskCompensation where
  caseId : Id
  failedTaskId : Id
  failedTaskDefinitionCode : String
  compensatingTaskCode : String
  compensatingTaskId : Option Id
  status : CompensationStatus := .pending
  startedAt : Instant
  completedAt : Option Instant := none
  errorDetail : Json

inductive RetryAttemptOutcome where
  | retryScheduled
  | failedTerminal
  | dlqRequeued
deriving DecidableEq, Repr

/-- A row of `task_retry_history`. -/
structure RetryHistoryEntry where
  taskId : Id
  caseId : Id
  attemptNumber : Int
  retryCountBefore : Int
  maxRetries : Int
  backoffStrategy : RetryBackoffStrategy
  baseIntervalSeconds : Int
  maxIntervalSeconds : Int
  computedIntervalSeconds : Int
  scheduledAt : Instant
  nextAttemptAt : Option Instant
  errorCode : String
  errorClass : ErrorClass
  errorDetail : Json
  sourceService : String
  outcome : RetryAttemptOutcome

/-- A row of `task_dlq`. -/
structure TaskDLQEntry where
  taskId : Id
  caseId : Id
  failureReason : String
  errorDetail : Json
  movedAt : Instant
  requeueCount : Int := 0
  lastRequeueAt : Option Instant := none
  isPoisonPill : Bool
  quarantineReleasedAt : Option Instant := none
  softDeletedAt : Option Instant := none

inductive TenantStatus where
  | active
  | suspended
  | offboarded
deriving DecidableEq, Repr

inductive TenantTier where
  | standard
  | premium
  | enterprise
deriving DecidableEq, Repr

/-- A row of `tenants`, with the limit on tasks of its configuration. -/
structure Tenant where
  tenantId : String
  status : TenantStatus := .active
  tier : TenantTier := .standard
  maxConcurrentTasks : Int := 0

inductive SLAEntityType where
  | case
  | stage
  | activity
  | task
deriving DecidableEq, Repr

inductive PauseAction where
  | pause
  | resume
deriving DecidableEq, Repr

/-- A row of `sla_pause_log`. -/
structure SLAPauseLog where
  entityType : SLAEntityType
  entityId : Id
  pausedAt : Instant
  resumedAt : Option Instant := none
  pauseReason : String
  elapsedBeforePauseMs : Int
  action : PauseAction

inductive SLABreachSeverity where
  | minor
  | moderate
  | major
  | critical
deriving DecidableEq, Repr

/-- A row of `sla_breach_log`. -/
structure SLABreachLog where
  entityType : SLAEntityType
  entityId : Id
  breachDetectedAt : Instant
  originalDueAt : Instant
  assigneeAtBreach : Option String
  elapsedTimeMinutes : Int
  breachSeverity : SLABreachSeverity
  breachActionTaken : SLABreachAction
  slaCycle : Int
  taskId : Option Id
  caseId : Id

/-- The key of a row of `sla_metrics_summary`; the date is a number of days. -/
structure SLAMetricsKey where
  metricDate : Int
  caseTypeCode : String
  stageCode : String
  activityCode : String
  taskDefinitionCode : String
deriving DecidableEq, Repr

/-- A row of `sla_metrics_summary`. -/
structure SLAMetricsSummary where
  key : SLAMetricsKey
  totalCount : Int
  completedCount : Int
  breachedCount : Int
  avgElapsedMinutes : ℚ
  p50ElapsedMinutes : Int
  p95ElapsedMinutes : Int
  p99ElapsedMinutes : Int
  totalPauseMinutes : Int

/-! ## The store -/

inductive IdempotencyKeyspace where
  | taskCompletion
  | externalEventIngestion
  | webhookDelivery
deriving DecidableEq, Repr

/-- A row of `idempotency_keys`; the primary key is the pair of keyspace and key. -/
structure IdempotencyKey where
  keyspace : IdempotencyKeyspace
  key : String
  tenantId : String
  expiresAt : Instant

/-- Who calls whom. -/
inductive IntegrationDirection where
  | inbound
  | outbound
deriving DecidableEq, Repr

inductive IntegrationType where
  | webhook
  | externalTaskCompletion
  | externalEventIngestion
  | healthCheck
deriving DecidableEq, Repr

inductive IntegrationAuditStatus where
  | success
  | failure
  | duplicateRejected
deriving DecidableEq, Repr

/-- A row of `integration_audit_log`, without its payloads and its duration. -/
structure IntegrationAuditEntry where
  tenantId : String
  direction : IntegrationDirection
  integrationType : IntegrationType
  sourceOrTarget : String
  eventType : Option EventType := none
  caseId : Option Id := none
  taskId : Option Id := none
  status : IntegrationAuditStatus
  occurredAt : Instant

/-- A row of `case_deal_links`. -/
structure CaseDealLink where
  caseId : Id
  tenantId : String
  dealId : String := ""
  dealName : String := ""
  customerReference : String := ""
  triggerDealStatus : String := ""
  currentDealStatus : Option String := none
  umbrellaLimitAmount : ℚ := 0
  umbrellaLimitCurrency : String := ""
  dealSnapshot : Json := .null
  dealSnapshotHash : String := ""
  lastSnapshotRefreshedAt : Instant := 0
  casePriority : String := ""
  slaTargetCompletionDate : String := ""
  slaWarningThresholdDate : String := ""
  notifyAssignee : Bool := false

/-- The database. -/
structure Store where
  caseTypes : Table CaseType := .empty
  cases : Table CaseInstance := .empty
  tasks : Table Task := .empty
  gates : Table ApprovalGate := .empty
  requests : Table ApprovalRequest := .empty
  chains : Table ApprovalChainState := .empty
  stageTransitions : Table CaseStageTransition := .empty
  documentTypes : Table DocumentType := .empty
  documentRequests : Table DocumentRequest := .empty
  fourEyesTokens : Table FourEyesToken := .empty
  qaStagedChanges : Table QAStagedChange := .empty
  compensations : Table TaskCompensation := .empty
  retryHistory : Table RetryHistoryEntry := .empty
  dlq : Table TaskDLQEntry := .empty
  tenants : Table Tenant := .empty
  pauseLog : Table SLAPauseLog := .empty
  breachLog : Table SLABreachLog := .empty
  metricsSummary : Table SLAMetricsSummary := .empty
  idempotencyKeys : Table IdempotencyKey := .empty
  outbox : Table Event := .empty
  caseDealLinks : Table CaseDealLink := .empty
  integrationAudit : Table IntegrationAuditEntry := .empty
  users : Table User := .empty
  teams : Table Team := .empty
  teamMembers : Table TeamMember := .empty
  roles : Table Role := .empty
  userRoles : Table UserRole := .empty
  workbaskets : Table Workbasket := .empty

namespace Store

/-- `PublishEvent`: append an event to the outbox. -/
def publish (s : Store) (e : Event) : Store := { s with outbox := s.outbox.insert e }

def updateCase (s : Store) (k : Id) (f : CaseInstance → CaseInstance) : Store :=
  { s with cases := s.cases.updateAt k f }

def updateTask (s : Store) (k : Id) (f : Task → Task) : Store :=
  { s with tasks := s.tasks.updateAt k f }

def updateGate (s : Store) (k : Id) (f : ApprovalGate → ApprovalGate) : Store :=
  { s with gates := s.gates.updateAt k f }

def updateRequest (s : Store) (k : Id) (f : ApprovalRequest → ApprovalRequest) : Store :=
  { s with requests := s.requests.updateAt k f }

def updateChain (s : Store) (k : Id) (f : ApprovalChainState → ApprovalChainState) : Store :=
  { s with chains := s.chains.updateAt k f }

end Store

/-! ## Reading -/

def orFail {α : Type} (o : Option α) (e : Err) : Except Err α :=
  match o with
  | some a => .ok a
  | none => .error e

def ensure (b : Bool) (e : Err) : Except Err Unit :=
  if b then .ok () else .error e

variable {x : Except ε α} {xs : List α} {a : α} {b b' : β} {P : β → Prop}
  {f : β → α → Except Err β}

@[simp] theorem orFail_eq_ok {o : Option α} : orFail o e = .ok a ↔ o = some a := by
  cases o <;> simp [orFail]

@[simp] theorem ensure_eq_ok {b : Bool} {u : Unit} : ensure b e = .ok u ↔ b = true := by
  cases b <;> simp [ensure]

@[simp] theorem mapError_eq_ok {ε' : Type} {f : ε → ε'} : x.mapError f = .ok a ↔ x = .ok a := by
  cases x <;> simp [Except.mapError]

theorem map_eq_ok {f : α → β} : x.map f = .ok b ↔ ∃ a, x = .ok a ∧ f a = b := by
  cases x <;> simp [Except.map]

/-- A sequence of two fallible steps succeeds when both do. -/
theorem bind_eq_ok {f : α → Except ε β} : x >>= f = .ok b ↔ ∃ a, x = .ok a ∧ f a = .ok b := by
  cases x <;> simp [bind, Except.bind]

/-- What the two parts of a successful call have returned. -/
theorem bind_ok {f : α → Except ε β} (h : x >>= f = .ok b) : ∃ a, x = .ok a ∧ f a = .ok b :=
  bind_eq_ok.mp h

/-- What every pass of a fallible loop keeps, the loop keeps. -/
theorem foldlM_invariant (hstep : ∀ b a b', a ∈ xs → P b → f b a = .ok b' → P b') (hP : P b)
    (h : xs.foldlM f b = .ok b') : P b' := by
  induction xs generalizing b with
  | nil => cases h; exact hP
  | cons a xs ih =>
    rw [foldlM_cons] at h
    obtain ⟨c, hc, h⟩ := bind_ok h
    have hPc : P c := hstep b a c (mem_cons_self ..) hP hc
    exact ih (fun b a b' ha => hstep b a b' (mem_cons_of_mem _ ha)) hPc h

/-- What the pass over one element establishes and no pass destroys holds after the loop. -/
theorem foldlM_of_mem {x : α} (hx : x ∈ xs) (hmake : ∀ b b', f b x = .ok b' → P b')
    (hkeep : ∀ b a b', a ∈ xs → P b → f b a = .ok b' → P b') (h : xs.foldlM f b = .ok b') :
    P b' := by
  induction xs generalizing b with
  | nil => cases hx
  | cons a xs ih =>
    rw [foldlM_cons] at h
    obtain ⟨c, hc, hrest⟩ := bind_ok h
    have hkeep' : ∀ b a b', a ∈ xs → P b → f b a = .ok b' → P b' :=
      fun b a b' ha => hkeep b a b' (mem_cons_of_mem _ ha)
    rcases mem_cons.mp hx with rfl | hmem
    · exact foldlM_invariant hkeep' (hmake b c hc) hrest
    · exact ih hmem hkeep' hrest

end LoanWorkflow
