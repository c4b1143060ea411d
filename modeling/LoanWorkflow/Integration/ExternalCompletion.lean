import LoanWorkflow.Engine.TaskStatus

/-! # Calls of external systems

    A worker outside of the engine reports the result of a task. The report
    is taken once per idempotency key, from the service that holds the task,
    and only while the task is in progress. Unlike `updateTaskStatus`, it asks
    no approval gate and no output schema. An outside system can also hand in
    an event about a case; it goes to the outbox, once per idempotency key.

    Both calls are atomic steps here. Their statements, with the transaction
    that a duplicate key aborts, are in `Integration.ExternalCalls`.
-/

namespace LoanWorkflow

/-- A blank task id is `none`, and so is the zero completion time. -/
structure ExternalTaskCompletion where
  taskId : Option Id
  assignedService : String
  status : TaskStatus
  outputPayload : Option Json := none
  errorDetail : Option Json := none
  completedAt : Option Instant := none
  idempotencyKey : String := ""

variable {output : ExternalTaskCompletion} {tenant : Option String} {s s' : Store}
  {idempotencyKey : String}

/-- The key of a report: the argument, or the field of the report when that is blank. -/
def ExternalTaskCompletion.key (output : ExternalTaskCompletion) (idempotencyKey : String) :
    String :=
  let key := trimSpace idempotencyKey
  if key = "" then trimSpace output.idempotencyKey else key

/-- The row under a primary key of `idempotency_keys`. -/
def Store.idempotencyKey? (s : Store) (keyspace : IdempotencyKeyspace) (key : String) :
    Option (Id × IdempotencyKey) :=
  s.idempotencyKeys.find? (fun r => r.keyspace == keyspace && r.key == key)

def duplicateError (caller : String) : Err :=
  caller ++ ": commit duplicate flow: commit unexpectedly resulted in rollback"

/-- `CheckAndRecordIdempotencyKey`, with what its callers do about a duplicate: it aborts the
    transaction, so the audit row of the duplicate is lost and the commit reports a rollback. -/
def recordIdempotencyKey (caller : String) (s : Store) (row : IdempotencyKey) : Except Err Store :=
  match s.idempotencyKey? row.keyspace row.key with
  | some _ => .error (duplicateError caller)
  | none => .ok { s with idempotencyKeys := s.idempotencyKeys.insert row }

theorem recordIdempotencyKey_eq_ok {caller : String} {row : IdempotencyKey}
    (h : recordIdempotencyKey caller s row = .ok s') :
    s.idempotencyKey? row.keyspace row.key = none ∧
      s' = { s with idempotencyKeys := s.idempotencyKeys.insert row } := by
  unfold recordIdempotencyKey at h
  split at h
  · cases h
  · next hfresh =>
    cases h
    exact ⟨hfresh, rfl⟩

/-- `PrepareEventForPublish` for a payload that is an object: the payload names the tenant. -/
def Event.prepare (e : Event) (tenantId : String) : Event :=
  { e with
    tenantId := tenantId
    payload := match e.payload with
      | .obj fields => .obj (Json.setField fields "tenant_id" (.str tenantId))
      | payload => payload }

/-- The required fields are set by both callers. -/
def recordIntegrationAudit (s : Store) (entry : IntegrationAuditEntry) : Store :=
  { s with integrationAudit := s.integrationAudit.insert entry }

/-! ## Results of tasks -/

def Task.report (t : Task) (output : ExternalTaskCompletion) (completedAt : Instant) : Task :=
  { t with
    status := output.status
    outputPayload := output.outputPayload.getD t.outputPayload
    errorDetail := output.errorDetail <|> t.errorDetail
    completedAt := some completedAt
    version := t.version + 1 }

def completionEvent (caseId taskId : Id) (output : ExternalTaskCompletion) : Event :=
  let fields := [("case_id", Json.uuid caseId), ("task_id", .uuid taskId),
    ("task_definition_code", .null), ("status", .str output.status.text),
    ("source", .str "EXTERNAL"), ("assigned_service", .str (trimSpace output.assignedService))]
  if output.status = .failed then
    { eventType := .taskFailed, caseId := some caseId, taskId := some taskId
      payload := .obj (fields ++ [("error_detail", output.errorDetail.getD .null)])
      targetService := "case-orchestrator" }
  else
    { eventType := .taskCompleted, caseId := some caseId, taskId := some taskId
      payload := .obj fields, targetService := "case-orchestrator" }

def ExternalTaskCompletion.audit (output : ExternalTaskCompletion) (tenantId : String)
    (caseId taskId : Id) (now : Instant) : IntegrationAuditEntry where
  tenantId := tenantId
  direction := .inbound
  integrationType := .externalTaskCompletion
  sourceOrTarget := trimSpace output.assignedService
  eventType := some (completionEvent caseId taskId output).eventType
  caseId := some caseId
  taskId := some taskId
  status := if output.status = .failed then .failure else .success
  occurredAt := now

/-- `CompleteTaskFromExternal`, in one transaction; `tenant` is the tenant of the request. -/
def completeTaskFromExternal (ctx : Ctx) (tenant : Option String) (idempotencyKey : String)
    (output : ExternalTaskCompletion) (s : Store) : Except Err Store := do
  let tenantId ← orFail tenant "CompleteTaskFromExternal: tenant not found"
  let key := output.key idempotencyKey
  ensure (key != "") "CompleteTaskFromExternal: idempotency key is required"
  let taskId ← orFail output.taskId "CompleteTaskFromExternal: task_id is required"
  let service := trimSpace output.assignedService
  ensure (service != "") "CompleteTaskFromExternal: assigned_service is required"
  ensure (output.status == .completed || output.status == .failed)
    ("CompleteTaskFromExternal: unsupported status " ++ output.status.text)
  let s ← recordIdempotencyKey "CompleteTaskFromExternal" s
    { keyspace := .taskCompletion, key := key, tenantId := tenantId
      expiresAt := ctx.now + 30 * 24 * hour }
  let t ← orFail ((s.tasks.get? taskId).filter (fun t => t.tenantId == tenantId))
    "CompleteTaskFromExternal: load task: sql: no rows in result set"
  ensure (t.assignedService.getD "" == service)
    "CompleteTaskFromExternal: assigned service mismatch"
  ensure (t.status == .inProgress) "CompleteTaskFromExternal: invalid task transition"
  let s := s.updateTask taskId (fun t => t.report output (output.completedAt.getD ctx.now))
  let s := s.publish ((completionEvent t.caseId taskId output).prepare tenantId)
  return recordIntegrationAudit s (output.audit tenantId t.caseId taskId ctx.now)

/-- A report that is taken: its key is new, and the task is in progress at the service. -/
structure ExternalTaskCompletion.Taken (output : ExternalTaskCompletion) (tenant : Option String)
    (idempotencyKey : String) (s : Store) (k : Id) : Prop where
  key : output.key idempotencyKey ≠ ""
  fresh : s.idempotencyKey? .taskCompletion (output.key idempotencyKey) = none
  service : trimSpace output.assignedService ≠ ""
  task : output.taskId = some k
  row : ∃ t tenantId, tenant = some tenantId ∧ s.tasks.get? k = some t ∧ t.tenantId = tenantId ∧
    t.assignedService.getD "" = trimSpace output.assignedService ∧ t.status = .inProgress

theorem ExternalTaskCompletion.Taken.inProgress {k : Id} {t : Task}
    (h : output.Taken tenant idempotencyKey s k) (ht : s.tasks.get? k = some t) :
    t.status = .inProgress := by
  obtain ⟨t', tenantId, -, ht', -, -, hprogress⟩ := h.row
  cases ht.symm.trans ht'
  exact hprogress

/-- Exactly the reports that are taken succeed: they write their result on the task. -/
theorem completeTaskFromExternal_step {ctx : Ctx}
    (h : completeTaskFromExternal ctx tenant idempotencyKey output s = .ok s') :
    ∃ k t tenantId keys audit, output.Taken tenant idempotencyKey s k ∧
      (output.status = .completed ∨ output.status = .failed) ∧ s.tasks.get? k = some t ∧
      s' = { s with
        tasks := s.tasks.updateAt k (fun t => t.report output (output.completedAt.getD ctx.now))
        idempotencyKeys := keys
        outbox := s.outbox.insert ((completionEvent t.caseId k output).prepare tenantId)
        integrationAudit := audit } := by
  obtain ⟨tenantId, htenant, h⟩ := bind_ok h
  obtain ⟨_, hkey, h⟩ := bind_ok h
  obtain ⟨k, hk, h⟩ := bind_ok h
  obtain ⟨_, hservice, h⟩ := bind_ok h
  obtain ⟨_, hstatus, h⟩ := bind_ok h
  obtain ⟨s₁, hrecord, h⟩ := bind_ok h
  obtain ⟨t, ht, h⟩ := bind_ok h
  obtain ⟨_, hassigned, h⟩ := bind_ok h
  obtain ⟨_, hprogress, h⟩ := bind_ok h
  cases h
  obtain ⟨hfresh, rfl⟩ := recordIdempotencyKey_eq_ok hrecord
  rw [orFail_eq_ok] at htenant hk ht
  obtain ⟨hrow, hsame⟩ := Option.filter_eq_some_iff.mp ht
  rw [ensure_eq_ok, beq_iff_eq] at hassigned hprogress
  rw [ensure_eq_ok, bne_iff_ne] at hkey hservice
  rw [ensure_eq_ok, Bool.or_eq_true, beq_iff_eq, beq_iff_eq] at hstatus
  exact ⟨k, t, tenantId, _, _, ⟨hkey, hfresh, hservice, hk, t, tenantId, htenant, hrow,
    beq_iff_eq.mp hsame, hassigned, hprogress⟩, hstatus, hrow, rfl⟩

/-! ## Events of outside systems -/

/-- A blank case id is `none`, and so are an empty payload and the zero
    time. -/
structure ExternalEventInput where
  tenantId : String
  caseId : Option Id
  eventType : String
  sourceSystem : String
  idempotencyKey : String
  payload : Option Json := none
  occurredAt : Option Instant := none

def ExternalEventInput.event (input : ExternalEventInput) (caseId : Id) (now : Instant) : Event where
  eventType := .external (trimSpace input.eventType)
  caseId := some caseId
  payload := .obj [("source", .str "EXTERNAL"),
    ("source_system", .str (trimSpace input.sourceSystem)),
    ("occurred_at", .num (input.occurredAt.getD now)),
    ("idempotency_key", .str (trimSpace input.idempotencyKey)),
    ("payload", input.payload.getD (.obj [])), ("case_id", .uuid caseId),
    ("tenant_id", .str (trimSpace input.tenantId))]
  targetService := "case-orchestrator"

def ExternalEventInput.audit (input : ExternalEventInput) (caseId : Id)
    (status : IntegrationAuditStatus) (now : Instant) : IntegrationAuditEntry where
  tenantId := trimSpace input.tenantId
  direction := .inbound
  integrationType := .externalEventIngestion
  sourceOrTarget := trimSpace input.sourceSystem
  eventType := some (.external (trimSpace input.eventType))
  caseId := some caseId
  status := status
  occurredAt := now

/-- What `IngestExternalEvent` checks before its transaction: the tenant and the case.
    `validate` is `ValidateEventPayload`, which asks the event catalogue. -/
def ExternalEventInput.check (input : ExternalEventInput)
    (validate : String → Json → Except Err Unit) (tenant : Option String) :
    Except Err (String × Id) := do
  let ctxTenantId ← orFail tenant "IngestExternalEvent: tenant not found"
  let required := "IngestExternalEvent: tenant_id, case_id, event_type, source_system, " ++
    "idempotency_key are required"
  let tenantId := trimSpace input.tenantId
  ensure (tenantId != "" && trimSpace input.eventType != "" && trimSpace input.sourceSystem != "" &&
    trimSpace input.idempotencyKey != "") required
  let caseId ← orFail input.caseId required
  ensure (tenantId == ctxTenantId) "IngestExternalEvent: tenant mismatch"
  let _ ← (validate (trimSpace input.eventType) (input.payload.getD (.obj []))).mapError
    ("IngestExternalEvent: validate payload: " ++ ·)
  return (tenantId, caseId)

theorem ExternalEventInput.check_eq_ok {input : ExternalEventInput}
    {validate : String → Json → Except Err Unit} {tenantId : String}
    {caseId : Id} (h : input.check validate tenant = .ok (tenantId, caseId)) :
    tenant = some tenantId ∧ input.caseId = some caseId := by
  obtain ⟨ctxTenantId, htenant, h⟩ := bind_ok h
  obtain ⟨_, _, h⟩ := bind_ok h
  obtain ⟨k, hk, h⟩ := bind_ok h
  obtain ⟨_, hsame, h⟩ := bind_ok h
  obtain ⟨_, _, h⟩ := bind_ok h
  cases h
  rw [beq_iff_eq.mp (ensure_eq_ok.mp hsame)]
  exact ⟨orFail_eq_ok.mp htenant, orFail_eq_ok.mp hk⟩

/-- `IngestExternalEvent`, in one transaction. -/
def ingestExternalEvent (ctx : Ctx) (validate : String → Json → Except Err Unit)
    (tenant : Option String) (input : ExternalEventInput) (s : Store) : Except Err Store := do
  let (tenantId, caseId) ← input.check validate tenant
  ensure ((s.cases.get? caseId).any (fun c => c.tenantId == tenantId))
    ("IngestExternalEvent: case " ++ toString caseId ++ " not found for tenant")
  let s ← recordIdempotencyKey "IngestExternalEvent" s
    { keyspace := .externalEventIngestion, key := trimSpace input.idempotencyKey
      tenantId := tenantId, expiresAt := ctx.now + 7 * 24 * hour }
  let s := s.publish ((input.event caseId ctx.now).prepare tenantId)
  return recordIntegrationAudit s (input.audit caseId .success ctx.now)

end LoanWorkflow
