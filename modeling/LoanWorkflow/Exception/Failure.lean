import LoanWorkflow.Exception.Classifier

/-! # Handling of a task failure

    `handleTaskFailure` records a failed attempt. The task goes back to the
    queue with a delay while its retry budget lasts; otherwise it is failed
    for good, moved to the dead-letter queue, and its case and its
    compensating task are told.
-/

namespace LoanWorkflow

open Table

variable {taskId : Id} {now : Instant} {detail : Json} {s s' s'' : Store} {t : Task}
  {config : CaseTypeConfig} {parentCaseId : Option Id}

/-! ## The decision -/

def ErrorClass.text : ErrorClass → String
  | .transient => "TRANSIENT"
  | .permanent => "PERMANENT"
  | .unknown => "UNKNOWN"

structure RetryDecision where
  policy : TaskRetryPolicy
  errorCode : String
  errorClass : ErrorClass
  shouldRetry : Bool := false
  retriesExhausted : Bool
  attemptNumber : Int
  computedBackoff : Duration := 0
  poisonPill : Bool := false
  poisonPillReason : String := ""

variable {d : RetryDecision}

/-- The policy of a definition; a definition without retries leaves the budget of the row. -/
def effectivePolicy (t : Task) (taskDef : TaskDefinition) : TaskRetryPolicy :=
  let policy := resolveRetryPolicy taskDef
  if policy.maxRetries = 0 ∧ 0 < t.maxRetries then { policy with maxRetries := t.maxRetries }
  else policy

/-- The decision before permanent errors and poison pills are looked at. -/
def budgetDecision (t : Task) (policy : TaskRetryPolicy) (errorCode : String)
    (errorClass : ErrorClass) : Except Err RetryDecision := do
  let attemptNumber := t.retryCount + 1
  let withinRetryBudget := decide (attemptNumber ≤ policy.maxRetries)
  let candidate := errorClass == .transient ||
    (errorClass == .unknown && !policy.retryableErrorCodes.isEmpty)
  let decision : RetryDecision :=
    { policy := policy, errorCode := errorCode, errorClass := errorClass
      retriesExhausted := !withinRetryBudget, attemptNumber := attemptNumber }
  if candidate && isErrorCodeRetryable policy errorCode && withinRetryBudget then
    let backoff ← computeBackoffDuration policy attemptNumber
    return { decision with shouldRetry := true, computedBackoff := backoff }
  else return decision

/-- A decision that there is no further attempt. -/
def RetryDecision.giveUp (d : RetryDecision) : RetryDecision :=
  { d with shouldRetry := false, retriesExhausted := true }

def evaluateRetryDecision (t : Task) (taskDef : TaskDefinition) (config : CaseTypeConfig)
    (errorCode : String) (errorClass : ErrorClass) : Except Err RetryDecision := do
  let policy := effectivePolicy t taskDef
  ensure (decide (0 ≤ policy.maxRetries)) "evaluateRetryDecision: max retries must be >= 0"
  let d ← budgetDecision t policy errorCode errorClass
  let d := if errorClass = .permanent then d.giveUp else d
  let threshold := resolvePoisonPillThreshold taskDef config
  let totalFailures := t.totalFailureCount + 1
  let d := if 0 < threshold ∧ threshold ≤ totalFailures then
      { d.giveUp with
        poisonPill := true
        poisonPillReason := "total failures " ++ toString totalFailures ++
          " reached poison-pill threshold " ++ toString threshold }
    else d
  return { d with policy := { d.policy with
    maxIntervalSeconds := max d.policy.maxIntervalSeconds d.policy.baseIntervalSeconds } }

/-! ## Rows -/

structure TaskFailureInput where
  taskId : Id
  sourceService : String
  err : HandlerError
  recoveredStack : Option String := none

variable {input : TaskFailureInput}

def TaskFailureInput.source (input : TaskFailureInput) : String :=
  (nullIfEmptyString input.sourceService).getD "unknown-service"

def TaskFailureInput.message (input : TaskFailureInput) : String :=
  (nullIfEmptyString input.err.message).getD "task execution failed"

/-- The stack of the failure: of a recovered panic, or of the error itself. -/
def TaskFailureInput.stack (input : TaskFailureInput) : Option String :=
  nullIfEmptyString (input.recoveredStack.getD "") <|>
    nullIfEmptyString (input.err.stackContext.getD "")

def buildTaskErrorDetail (input : TaskFailureInput) (errorCode : String) (errorClass : ErrorClass)
    (now : Instant) : Json :=
  .obj ([("error_code", .str errorCode), ("error_class", .str errorClass.text),
    ("message", .str input.message), ("source_service", .str input.source),
    ("occurred_at", .num now)] ++
    (input.stack.map (fun stack => ("stack_context", Json.str stack))).toList ++
    (input.err.upstreamError.map (fun upstream => ("upstream_error", upstream))).toList)

/-- The columns that every failed attempt writes. -/
def Task.recordFailure (t : Task) (d : RetryDecision) (detail : Json) : Task :=
  { t with
    maxRetries := d.policy.maxRetries
    totalFailureCount := t.totalFailureCount + 1
    assignedService := none
    assignedAt := none
    lastHeartbeatAt := none
    errorDetail := some detail
    lastErrorCode := some d.errorCode
    lastErrorClass := some d.errorClass
    version := t.version + 1 }

def Task.retryLater (t : Task) (d : RetryDecision) (detail : Json) (now : Instant) : Task :=
  { t.recordFailure d detail with
    status := .pending
    retryCount := t.retryCount + 1
    nextRetryAt := some (now + d.computedBackoff) }

/-- `transitionTaskToTerminalFailure`: a task that has failed for good. -/
def Task.failForGood (t : Task) (d : RetryDecision) (detail : Json) (now : Instant) : Task :=
  { t.recordFailure d detail with
    status := .failed
    nextRetryAt := none
    completedAt := some (t.completedAt.getD now)
    isPoisonPill := d.poisonPill
    poisonPillQuarantinedAt := if d.poisonPill then some (t.poisonPillQuarantinedAt.getD now)
      else t.poisonPillQuarantinedAt
    poisonPillReason := if d.poisonPill then nullIfEmptyString d.poisonPillReason
      else t.poisonPillReason }

def insertRetryHistory (s : Store) (taskId : Id) (t : Task) (d : RetryDecision) (detail : Json)
    (source : String) (now : Instant) (outcome : RetryAttemptOutcome) : Store :=
  { s with
    retryHistory := s.retryHistory.insert
      { taskId := taskId, caseId := t.caseId, attemptNumber := d.attemptNumber
        retryCountBefore := t.retryCount, maxRetries := d.policy.maxRetries
        backoffStrategy := d.policy.backoffStrategy
        baseIntervalSeconds := d.policy.baseIntervalSeconds
        maxIntervalSeconds := d.policy.maxIntervalSeconds
        computedIntervalSeconds := d.computedBackoff.tdiv 1000000000
        scheduledAt := now
        nextAttemptAt := if d.shouldRetry then some (now + d.computedBackoff) else none
        errorCode := d.errorCode, errorClass := d.errorClass, errorDetail := detail
        sourceService := source, outcome := outcome } }

def publishTaskFailedEvent (s : Store) (taskId : Id) (t : Task) (d : RetryDecision)
    (detail : Json) : Store :=
  s.publish
    { eventType := .taskFailed, caseId := some t.caseId, taskId := some taskId
      payload := .obj [("case_id", .uuid t.caseId), ("task_id", .uuid taskId),
        ("task_definition_code", .str t.taskDefinitionCode), ("stage_code", .str t.stageCode),
        ("activity_code", .str t.activityCode), ("status", .str "FAILED"),
        ("retry_count", .num t.retryCount), ("max_retries", .num d.policy.maxRetries),
        ("retries_exhausted", .bool d.retriesExhausted), ("error_code", .str d.errorCode),
        ("error_class", .str d.errorClass.text), ("poison_pill", .bool d.poisonPill),
        ("error_detail", detail)]
      targetService := "case-orchestrator" }

/-- `publishPoisonPillEvent`, if the task is a poison pill. -/
def publishPoisonPillEvent (s : Store) (taskId : Id) (t : Task) (d : RetryDecision) : Store :=
  if d.poisonPill then
    s.publish
      { eventType := .taskPoisonPillDetected, caseId := some t.caseId, taskId := some taskId
        payload := .obj [("case_id", .uuid t.caseId), ("task_id", .uuid taskId),
          ("task_definition_code", .str t.taskDefinitionCode), ("error_code", .str d.errorCode),
          ("reason", .str d.poisonPillReason)]
        targetService := "case-orchestrator" }
  else s

/-- The trigger on rows of a case that are inserted without a tenant. -/
def ensureDefaultTenant (s : Store) (caseId : Id) (table : String) : Except Err Unit :=
  match s.cases.get? caseId with
  | some c => ensure (c.tenantId == defaultTenantId)
      (table ++ " tenant mismatch: tenant " ++ defaultTenantId ++ " does not match case tenant " ++
        c.tenantId)
  | none => .ok ()

def insertDLQEntry (s : Store) (taskId : Id) (t : Task) (d : RetryDecision) (detail : Json)
    (reason : String) (now : Instant) : Except Err Store := do
  ensureDefaultTenant s t.caseId "task_dlq"
  return { s with
    dlq := s.dlq.insert
      { taskId := taskId, caseId := t.caseId, failureReason := reason, errorDetail := detail
        movedAt := now, isPoisonPill := d.poisonPill } }

/-! ## Escalation -/

def TaskFailureSeverity.text : TaskFailureSeverity → String
  | .low => "LOW"
  | .medium => "MEDIUM"
  | .high => "HIGH"
  | .critical => "CRITICAL"
  | .blocking => "BLOCKING"
  | .other name => name

def CaseInstance.raise (c : CaseInstance) (now : Instant) (taskId : Id)
    (severity : TaskFailureSeverity) (reason : String) : CaseInstance :=
  { c with
    status := .exception
    exceptionAt := some (c.exceptionAt.getD now)
    exceptionReason := some reason
    exceptionTaskId := some taskId
    exceptionSeverity := some severity
    rowVersion := c.rowVersion + 1 }

/-- A closed case stays as it is. -/
def updateCaseExceptionStatus (s : Store) (now : Instant) (caseId taskId : Id)
    (severity : TaskFailureSeverity) (reason : String) (eventType : EventType)
    (subCaseId : Option Id) : Store :=
  match s.cases.get? caseId with
  | none => s
  | some c =>
    if c.status.isTerminal then s
    else
      (s.updateCase caseId (fun c => c.raise now taskId severity reason)).publish
        { eventType := eventType, caseId := some caseId, taskId := some taskId
          payload := .obj ([("case_id", .uuid caseId), ("task_id", .uuid taskId),
            ("severity", .str severity.text), ("reason", .str reason), ("status", .str "EXCEPTION")] ++
            (subCaseId.map (fun k => ("sub_case_id", Json.uuid k))).toList)
          targetService := "case-orchestrator" }

/-- The case, and the case it belongs to. -/
def escalateCaseException (s : Store) (now : Instant) (taskId : Id) (t : Task)
    (parentCaseId : Option Id) (taskDef : TaskDefinition) (message : String) : Store :=
  let severity := resolveFailureSeverity taskDef
  let s := updateCaseExceptionStatus s now t.caseId taskId severity message .caseExceptionRaised none
  match parentCaseId with
  | some parent => updateCaseExceptionStatus s now parent taskId severity
      ("sub-case " ++ toString t.caseId ++ " in exception due to task " ++ toString taskId)
      .caseExceptionPropagated (some t.caseId)
  | none => s

/-! ## Compensation -/

/-- A task definition and where the configuration has it. -/
structure TaskLocation where
  taskDef : TaskDefinition
  activityCode : String
  stageCode : String

variable {failedTask loc : TaskLocation} {message : String}

def findTaskDefinitionWithLocation (config : CaseTypeConfig) (code : String) :
    Option TaskLocation :=
  (config.stages.flatMap (fun st => st.activities.flatMap (fun act =>
    act.taskDefs.map (fun d => TaskLocation.mk d act.code st.code)))).find?
      (fun loc => trimSpace loc.taskDef.code == trimSpace code)

def nonBlankOrDefault (value fallback : String) : String :=
  (nullIfEmptyString value).getD (trimSpace fallback)

/-- The task that compensates for a failed one. -/
def compensatingTask (taskId : Id) (t : Task) (code message : String) (loc : TaskLocation)
    (now : Instant) : Task where
  tenantId := defaultTenantId
  caseId := t.caseId
  taskDefinitionCode := code
  activityCode := nonBlankOrDefault loc.activityCode t.activityCode
  stageCode := nonBlankOrDefault loc.stageCode t.stageCode
  maxRetries := (resolveRetryPolicy loc.taskDef).maxRetries
  inputPayload := .obj [("failed_task_id", .uuid taskId),
    ("failed_task_definition_code", .str t.taskDefinitionCode), ("reason", .str message),
    ("source_case_id", .uuid t.caseId)]
  idempotencyKey := "compensate:" ++ toString taskId ++ ":" ++ code
  createdAt := now

/-- Insert the compensating task, or find the one that is there. -/
def upsertCompensatingTask (s : Store) (row : Task) : Except Err (Id × Store) := do
  ensureDefaultTenant s row.caseId "tasks"
  match s.tasks.find? (fun t => t.idempotencyKey == row.idempotencyKey) with
  | some (k, _) => return (k, s)
  | none => return (s.tasks.fresh, { s with tasks := s.tasks.insert row })

/-- Insert the row of a compensation, or point the one that is there to the task. -/
def upsertCompensation (s : Store) (row : TaskCompensation) : Store :=
  let same := fun c : TaskCompensation =>
    c.failedTaskId == row.failedTaskId && c.compensatingTaskCode == row.compensatingTaskCode
  match s.compensations.find? same with
  | some _ =>
    { s with
      compensations := s.compensations.updateWhere same
        (fun c => { c with compensatingTaskId := row.compensatingTaskId }) }
  | none => { s with compensations := s.compensations.insert row }

/-- `startCompensation`, for a definition that names a compensating task. -/
def startCompensation (s : Store) (now : Instant) (taskId : Id) (t : Task)
    (config : CaseTypeConfig) (failedTask : TaskLocation) (message : String) :
    Except Err Store := do
  let code := trimSpace failedTask.taskDef.compensatingTaskCode
  if code = "" then return s
  else
    let loc := (findTaskDefinitionWithLocation config code).getD
      { taskDef := { code := code }, activityCode := failedTask.activityCode
        stageCode := failedTask.stageCode }
    let (k, s) ← upsertCompensatingTask s (compensatingTask taskId t code message loc now)
    let s := upsertCompensation s
      { caseId := t.caseId, failedTaskId := taskId
        failedTaskDefinitionCode := t.taskDefinitionCode, compensatingTaskCode := code
        compensatingTaskId := some k, startedAt := now
        errorDetail := .obj [("source_task_id", .uuid taskId), ("reason", .str message)] }
    return s.publish
      { eventType := .compensationStarted, caseId := some t.caseId, taskId := some k
        payload := .obj [("case_id", .uuid t.caseId), ("failed_task_id", .uuid taskId),
          ("failed_task_definition_code", .str t.taskDefinitionCode),
          ("compensating_task_code", .str code), ("compensating_task_id", .uuid k)]
        targetService := "case-orchestrator" }

/-! ## The transaction -/

/-- The end of a failure after which there is another attempt. -/
def scheduleAttempt (s : Store) (now : Instant) (input : TaskFailureInput) (t : Task)
    (d : RetryDecision) (detail : Json) : Store :=
  let s := s.updateTask input.taskId (fun t => t.retryLater d detail now)
  let s := insertRetryHistory s input.taskId t d detail input.source now .retryScheduled
  publishTaskFailedEvent s input.taskId t d detail

/-- The end of a failure after which there is none. -/
def giveUpTask (s : Store) (now : Instant) (input : TaskFailureInput) (t : Task)
    (parentCaseId : Option Id) (config : CaseTypeConfig) (loc : TaskLocation) (d : RetryDecision)
    (detail : Json) : Except Err Store := do
  let s := s.updateTask input.taskId (fun t => t.failForGood d detail now)
  let s := insertRetryHistory s input.taskId t d detail input.source now .failedTerminal
  let s ← insertDLQEntry s input.taskId t d detail input.message now
  let s := publishTaskFailedEvent s input.taskId t d detail
  let s := publishPoisonPillEvent s input.taskId t d
  let s := if shouldEscalateCase loc.taskDef d.errorClass d.retriesExhausted then
      escalateCaseException s now input.taskId t parentCaseId loc.taskDef input.message
    else s
  startCompensation s now input.taskId t config loc input.message

def handleTaskFailure (now : Instant) (input : TaskFailureInput) (s : Store) :
    Except Err Store := do
  let noRows := "HandleTaskFailure: lockFailureContext: query context: sql: no rows in result set"
  let t ← orFail (s.tasks.get? input.taskId) noRows
  let c ← orFail (s.cases.get? t.caseId) noRows
  let ct ← orFail (s.caseTypes.get? c.caseTypeId) noRows
  let loc := (findTaskDefinitionWithLocation ct.config t.taskDefinitionCode).getD
    { taskDef := { code := t.taskDefinitionCode }, activityCode := t.activityCode
      stageCode := t.stageCode }
  ensure (!t.status.isTerminal)
    ("HandleTaskFailure: task " ++ toString input.taskId ++ " already in terminal state")
  let errorCode := extractErrorCode input.err
  let errorClass := classifyErrorCode errorCode
  let detail := buildTaskErrorDetail input errorCode errorClass now
  let d ← evaluateRetryDecision t loc.taskDef ct.config errorCode errorClass
  if d.shouldRetry then return scheduleAttempt s now input t d detail
  else giveUpTask s now input t c.parentCaseId ct.config loc d detail

/-! ## What a failure writes -/

theorem upsertCompensatingTask_frame {row : Task} {k : Id}
    (h : upsertCompensatingTask s row = .ok (k, s')) :
    s'.cases = s.cases ∧ (s'.tasks = s.tasks ∨
      (∀ j u, s.tasks.get? j = some u → u.idempotencyKey ≠ row.idempotencyKey) ∧
        s'.tasks = s.tasks.insert row) := by
  obtain ⟨_, -, h⟩ := bind_ok h
  split at h
  · cases h
    exact ⟨rfl, Or.inl rfl⟩
  · next hnone =>
    cases h
    refine ⟨rfl, Or.inr ⟨?_, rfl⟩⟩
    intro j u hu
    exact ne_of_beq_false (find?_eq_none hnone hu)

theorem upsertCompensation_frame (s : Store) (row : TaskCompensation) :
    (upsertCompensation s row).tasks = s.tasks ∧ (upsertCompensation s row).cases = s.cases := by
  unfold upsertCompensation
  dsimp only
  split <;> exact ⟨rfl, rfl⟩

/-- A task that a compensation can add: it waits, in the case of the failed task, under a key
    that was free. -/
structure CompensatingRow (s : Store) (taskId : Id) (t : Task) (code : String) (row : Task) :
    Prop where
  named : code ≠ ""
  pending : row.status = .pending
  caseId : row.caseId = t.caseId
  key : row.idempotencyKey = "compensate:" ++ toString taskId ++ ":" ++ code
  free : ∀ j u, s.tasks.get? j = some u → u.idempotencyKey ≠ row.idempotencyKey

/-- A compensation adds at most one task. -/
theorem startCompensation_frame
    (h : startCompensation s now taskId t config failedTask message = .ok s') :
    s'.cases = s.cases ∧ (s'.tasks = s.tasks ∨
      ∃ row, CompensatingRow s taskId t (trimSpace failedTask.taskDef.compensatingTaskCode) row ∧
        s'.tasks = s.tasks.insert row) := by
  unfold startCompensation at h
  dsimp only at h
  split at h
  · cases h
    exact ⟨rfl, Or.inl rfl⟩
  · next hnamed =>
    obtain ⟨⟨k, s₁⟩, htask, h⟩ := bind_ok h
    cases h
    obtain ⟨hcases, htasks⟩ := upsertCompensatingTask_frame htask
    have hrow := upsertCompensation_frame s₁
      { caseId := t.caseId, failedTaskId := taskId
        failedTaskDefinitionCode := t.taskDefinitionCode
        compensatingTaskCode := trimSpace failedTask.taskDef.compensatingTaskCode
        compensatingTaskId := some k, startedAt := now
        errorDetail := .obj [("source_task_id", .uuid taskId), ("reason", .str message)] }
    refine ⟨hrow.2.trans hcases, ?_⟩
    rcases htasks with hsame | ⟨hfree, hnew⟩
    · exact Or.inl (hrow.1.trans hsame)
    · right
      refine ⟨_, ?_, hrow.1.trans hnew⟩
      exact ⟨hnamed, rfl, rfl, rfl, hfree⟩

/-- Rows of the outbox stay, and no new one tells of a failure. -/
def NoFailurePosted (s s' : Store) : Prop :=
  s.outbox.Grows id (fun e => e.eventType ≠ .taskFailed) s'.outbox

/-- What the writes after the event of a failure leave alone: the rows of tasks, the queue of
    dead letters, and the types and suspensions of cases. A new task waits, and none of the
    writes tells of a failure again. -/
structure AfterFailure (s s' : Store) : Prop where
  tasks : s.tasks.Grows id (fun t => t.status = .pending) s'.tasks
  dlq : s'.dlq = s.dlq
  caseTypes : s'.caseTypes = s.caseTypes
  cases : s.cases.Keeps (fun c => (c.suspendReason, c.caseTypeId)) s'.cases
  posts : NoFailurePosted s s'

theorem AfterFailure.refl (s : Store) : AfterFailure s s :=
  ⟨.refl _ _ _, rfl, rfl, .refl _ _, Table.Grows.refl _ _ _⟩

theorem AfterFailure.trans (h : AfterFailure s s') (h' : AfterFailure s' s'') :
    AfterFailure s s'' where
  tasks := h.tasks.trans h'.tasks
  dlq := h'.dlq.trans h.dlq
  caseTypes := h'.caseTypes.trans h.caseTypes
  cases := h.cases.trans h'.cases
  posts := Table.Grows.trans h.posts h'.posts

theorem AfterFailure.publish (s : Store) {e : Event} (he : e.eventType ≠ .taskFailed) :
    AfterFailure s (s.publish e) :=
  ⟨.refl _ _ _, rfl, rfl, .refl _ _, Table.Grows.insert he⟩

theorem publishPoisonPillEvent_after (s : Store) (taskId : Id) (t : Task) (d : RetryDecision) :
    AfterFailure s (publishPoisonPillEvent s taskId t d) := by
  unfold publishPoisonPillEvent
  split
  · exact .publish s (by simp)
  · exact .refl _

theorem updateCaseExceptionStatus_after (s : Store) (now : Instant) (caseId taskId : Id)
    (severity : TaskFailureSeverity) (reason : String) {eventType : EventType}
    (subCaseId : Option Id) (htype : eventType ≠ .taskFailed) : AfterFailure s
      (updateCaseExceptionStatus s now caseId taskId severity reason eventType subCaseId) := by
  unfold updateCaseExceptionStatus
  split
  · exact .refl _
  · split
    · exact .refl _
    · exact ⟨.refl _ _ _, rfl, rfl, Table.Keeps.updateAt fun _ => rfl, Table.Grows.insert htype⟩

theorem escalateCaseException_after (s : Store) (now : Instant) (taskId : Id) (t : Task)
    (parentCaseId : Option Id) (taskDef : TaskDefinition) (message : String) :
    AfterFailure s (escalateCaseException s now taskId t parentCaseId taskDef message) := by
  have hcase := updateCaseExceptionStatus_after s now t.caseId taskId
    (resolveFailureSeverity taskDef) message none
    (show EventType.caseExceptionRaised ≠ .taskFailed by simp)
  cases parentCaseId with
  | none => exact hcase
  | some parent => exact hcase.trans (updateCaseExceptionStatus_after _ _ _ _ _ _ _ (by simp))

theorem startCompensation_after
    (h : startCompensation s now taskId t config failedTask message = .ok s') :
    AfterFailure s s' := by
  unfold startCompensation at h
  dsimp only at h
  split at h
  · cases h
    exact .refl _
  · obtain ⟨⟨k, s₁⟩, htask, h⟩ := bind_ok h
    cases h
    have htasks : AfterFailure s s₁ := by
      obtain ⟨_, -, htask⟩ := bind_ok htask
      split at htask <;> cases htask
      · exact .refl _
      · exact ⟨.insert rfl, rfl, rfl, .refl _ _, Table.Grows.refl _ _ _⟩
    have hrow : ∀ row, AfterFailure s₁ (upsertCompensation s₁ row) := by
      intro row
      unfold upsertCompensation
      dsimp only
      split <;> exact ⟨.refl _ _ _, rfl, rfl, .refl _ _, Table.Grows.refl _ _ _⟩
    exact (htasks.trans (hrow _)).trans (.publish _ (by simp))

/-- A task that is given up is marked, gets an entry and is announced, and the rest comes
    after that. -/
theorem giveUpTask_after (h : giveUpTask s now input t parentCaseId config loc d detail = .ok s') :
    ∃ entry : TaskDLQEntry, entry.taskId = input.taskId ∧ entry.softDeletedAt = none ∧
      AfterFailure (publishTaskFailedEvent { insertRetryHistory (s.updateTask input.taskId
        (fun t => t.failForGood d detail now)) input.taskId t d detail input.source now
        .failedTerminal with dlq := s.dlq.insert entry } input.taskId t d detail) s' := by
  obtain ⟨s₁, hdlq, h⟩ := bind_ok h
  obtain ⟨_, -, hdlq⟩ := bind_ok hdlq
  cases hdlq
  refine ⟨{ taskId := input.taskId, caseId := t.caseId, failureReason := input.message
            errorDetail := detail, movedAt := now, isPoisonPill := d.poisonPill }, rfl, rfl, ?_⟩
  have hrest := startCompensation_after h
  split at hrest
  · exact (publishPoisonPillEvent_after _ input.taskId t d).trans
      ((escalateCaseException_after ..).trans hrest)
  · exact (publishPoisonPillEvent_after _ input.taskId t d).trans hrest

/-- What a handled failure does to the tasks and the cases: the failed task waits or has
    failed, a new task waits, and no suspension is lifted. -/
structure FailureStep (taskId : Id) (s s' : Store) : Prop where
  row : ∃ t t', s.tasks.get? taskId = some t ∧ s'.tasks.get? taskId = some t' ∧
    t'.caseId = t.caseId ∧ (t'.status = .pending ∨ t'.status = .failed)
  others : ∀ j t, j ≠ taskId → s.tasks.get? j = some t → s'.tasks.get? j = some t
  added : ∀ j t', s.tasks.get? j = none → s'.tasks.get? j = some t' → t'.status = .pending
  cases : s.cases.Keeps CaseInstance.suspendReason s'.cases

def TaskFailureInput.errorDetail (input : TaskFailureInput) (now : Instant) : Json :=
  buildTaskErrorDetail input (extractErrorCode input.err)
    (classifyErrorCode (extractErrorCode input.err)) now

/-- Where the configuration has the definition of a task; a stray task has a bare one. -/
def failedLocation (config : CaseTypeConfig) (t : Task) : TaskLocation :=
  (findTaskDefinitionWithLocation config t.taskDefinitionCode).getD
    { taskDef := { code := t.taskDefinitionCode }, activityCode := t.activityCode
      stageCode := t.stageCode }

/-- What the failed attempt makes of the row. -/
def Task.attempted (t : Task) (d : RetryDecision) (input : TaskFailureInput) (now : Instant) : Task :=
  if d.shouldRetry then t.retryLater d (input.errorDetail now) now
  else t.failForGood d (input.errorDetail now) now

/-- What a handled failure reads and decides, and what it writes up to the event. -/
structure FailureRun (now : Instant) (input : TaskFailureInput) (s s' : Store) (t : Task)
    (c : CaseInstance) (ct : CaseType) (d : RetryDecision) : Prop where
  row : s.tasks.get? input.taskId = some t
  case : s.cases.get? t.caseId = some c
  caseType : s.caseTypes.get? c.caseTypeId = some ct
  unfinished : t.status.isTerminal = false
  decision : evaluateRetryDecision t (failedLocation ct.config t).taskDef ct.config
    (extractErrorCode input.err) (classifyErrorCode (extractErrorCode input.err)) = .ok d
  givenUp : d.shouldRetry = false →
    giveUpTask s now input t c.parentCaseId ct.config (failedLocation ct.config t) d
      (input.errorDetail now) = .ok s'
  after : ∃ history dlq, (if d.shouldRetry then dlq = s.dlq else ∃ entry : TaskDLQEntry,
      entry.taskId = input.taskId ∧ entry.softDeletedAt = none ∧ dlq = s.dlq.insert entry) ∧
    AfterFailure (publishTaskFailedEvent { s with
      tasks := s.tasks.updateAt input.taskId (·.attempted d input now)
      retryHistory := history
      dlq := dlq } input.taskId t d (input.errorDetail now)) s'

theorem handleTaskFailure_run (h : handleTaskFailure now input s = .ok s') :
    ∃ t c ct d, FailureRun now input s s' t c ct d := by
  obtain ⟨t, ht, h⟩ := bind_ok h
  obtain ⟨c, hc, h⟩ := bind_ok h
  obtain ⟨ct, hct, h⟩ := bind_ok h
  obtain ⟨_, hopen, h⟩ := bind_ok h
  obtain ⟨d, hd, h⟩ := bind_ok h
  rw [orFail_eq_ok] at ht hc hct
  rw [ensure_eq_ok, Bool.not_eq_true'] at hopen
  split at h
  · next hretry =>
    cases h
    refine ⟨t, c, ct, d, ht, hc, hct, hopen, hd, by simp [hretry], ?_⟩
    simp only [Task.attempted, hretry, if_true]
    exact ⟨_, _, rfl, .refl _⟩
  · next hretry =>
    obtain ⟨entry, htask, hactive, hafter⟩ := giveUpTask_after h
    refine ⟨t, c, ct, d, ht, hc, hct, hopen, hd, fun _ => h, ?_⟩
    simp only [Task.attempted, hretry]
    exact ⟨_, _, ⟨entry, htask, hactive, rfl⟩, hafter⟩

theorem FailureRun.row_after {c : CaseInstance} {ct : CaseType}
    (h : FailureRun now input s s' t c ct d) :
    s'.tasks.get? input.taskId = some (t.attempted d input now) := by
  obtain ⟨_, _, -, hafter⟩ := h.after
  obtain ⟨_, hget, rfl⟩ := hafter.tasks.keeps _ _ (get?_updateAt_of_get? h.row)
  exact hget

/-- A handled failure was the one of an unfinished task. -/
theorem handleTaskFailure_step
    (h : handleTaskFailure now input s = .ok s') : FailureStep input.taskId s s' := by
  obtain ⟨t, c, ct, d, hrun⟩ := handleTaskFailure_run h
  obtain ⟨_, _, -, hafter⟩ := hrun.after
  refine ⟨⟨t, _, hrun.row, hrun.row_after, ?_⟩, fun j u hne hu => ?_, fun j u hnone hu => ?_,
    fun k c hc => ?_⟩
  · unfold Task.attempted
    split
    · exact ⟨rfl, Or.inl rfl⟩
    · exact ⟨rfl, Or.inr rfl⟩
  · obtain ⟨_, hget, rfl⟩ := hafter.tasks.keeps j u ((get?_updateAt_ne hne).trans hu)
    exact hget
  · rcases hafter.tasks.adds j u hu with ⟨_, hget, rfl⟩ | hpending
    · rw [publishTaskFailedEvent, Store.publish, get?_updateAt, hnone] at hget
      split at hget <;> cases hget
    · exact hpending
  · obtain ⟨c', hc', hsame⟩ := hafter.cases k c hc
    exact ⟨c', hc', congrArg Prod.fst hsame⟩

end LoanWorkflow
