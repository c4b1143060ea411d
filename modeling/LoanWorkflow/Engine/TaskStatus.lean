import LoanWorkflow.Approval.Activation
import LoanWorkflow.Engine.Lifecycle
import LoanWorkflow.Engine.TaskCreation

/-! # Status of a task

    `updateTaskStatus` moves a task to a new status: a completion needs the
    approval of the gate and an accepted output, a start opens the gate, and
    waiting for an external system stops the SLA clock.
-/

namespace LoanWorkflow

variable {ctx : Ctx} {taskId : Id} {s s' : Store} {t : Task} {newStatus : TaskStatus}
  {errorDetail output : Option Json} {lib : Library}

/-! ## Checks -/

def TaskStatus.text : TaskStatus → String
  | .pending => "PENDING"
  | .assigned => "ASSIGNED"
  | .inProgress => "IN_PROGRESS"
  | .awaitingExternal => "AWAITING_EXTERNAL"
  | .completed => "COMPLETED"
  | .failed => "FAILED"
  | .cancelled => "CANCELLED"
  | .skipped => "SKIPPED"

def GateStatus.text : GateStatus → String
  | .pending => "PENDING"
  | .active => "ACTIVE"
  | .satisfied => "SATISFIED"
  | .failed => "FAILED"
  | .rejected => "REJECTED"
  | .rejectedReworkInitiated => "REJECTED_REWORK_INITIATED"
  | .expired => "EXPIRED"
  | .cancelled => "CANCELLED"

def ensureApprovalGateSatisfied (s : Store) (gateId : Id) : Except Err Unit := do
  let gate ← orFail (s.gates.get? gateId)
    "ensureApprovalGateSatisfied: load gate: no rows in result set"
  ensure (gate.gateStatus == .satisfied)
    (if gate.gateStatus.isRefused then
      "approval gate " ++ toString gateId ++ " is " ++ gate.gateStatus.text
    else
      "approval gate " ++ toString gateId ++ " is not satisfied (status=" ++
        gate.gateStatus.text ++ ")")

/-- A task that requires an approval is completed only behind a satisfied gate. -/
def ensureApproved (s : Store) (taskId : Id) (t : Task) (newStatus : TaskStatus) :
    Except Err Unit :=
  if newStatus = .completed ∧ t.requiresApproval = true then
    match t.approvalGateId with
    | none => .error ("task " ++ toString taskId ++ " requires approval but has no approval_gate_id")
    | some gateId => ensureApprovalGateSatisfied s gateId
  else .ok ()

/-- Codes are compared trimmed, over the whole configuration. -/
def findTaskDefinitionByCode (config : CaseTypeConfig) (code : String) : Option TaskDefinition :=
  ((config.stages.flatMap StageDefinition.definitions).map Prod.snd).find?
    (fun d => trimSpace d.code == trimSpace code)

def resolveCaseTypeConfig (s : Store) (caseId : Id) : Except Err CaseTypeConfig := do
  let c ← orFail (s.cases.get? caseId)
    ("ResolveCaseTypeConfig: case " ++ toString caseId ++ " not found")
  let ct ← orFail (s.caseTypes.get? c.caseTypeId)
    ("ResolveCaseTypeConfig: case " ++ toString caseId ++ " not found")
  return ct.config

/-- The output of a completed task is accepted by the schema of its definition. -/
def ensureOutputAccepted (lib : Library) (s : Store) (t : Task) (newStatus : TaskStatus)
    (output : Option Json) : Except Err Unit :=
  if newStatus = .completed then do
    let config ← resolveCaseTypeConfig s t.caseId
    match findTaskDefinitionByCode config t.taskDefinitionCode with
    | none => return ()
    | some taskDef =>
      let payload := output.getD t.outputPayload
      ensure payload.isMap "failed to parse output payload"
      validateTaskOutput lib taskDef payload
  else .ok ()

/-! ## Writes -/

def Task.advance (t : Task) (newStatus : TaskStatus) (output errorDetail : Option Json)
    (now : Instant) : Task :=
  { t with
    status := newStatus
    outputPayload := output.getD t.outputPayload
    errorDetail := errorDetail <|> t.errorDetail
    startedAt := if newStatus = .inProgress then some now else t.startedAt
    completedAt := if newStatus.isTerminal then some now else t.completedAt
    version := t.version + 1 }

/-- A task that starts opens the gate it needs. -/
def activateOnStart (ctx : Ctx) (s : Store) (taskId : Id) (t : Task) (newStatus : TaskStatus) :
    Except Err Store :=
  if newStatus = .inProgress ∧ t.requiresApproval = true then
    match t.approvalGateId with
    | none => .error ("task " ++ toString taskId ++ " requires approval but has no approval gate")
    | some gateId => repoActivateApprovalGate ctx taskId t.caseId gateId s
  else .ok s

/-- A task that comes back from an external system restarts its clock; unlike a resumed case,
    its log row records no elapsed time. -/
def resumeFromExternal (ctx : Ctx) (s : Store) (taskId : Id) (t : Task) : Except Err Store := do
  let pause := latestPause s .task taskId
  let due ← resumedDue ctx t.sla ((pause.map (·.elapsedBeforePauseMs)).getD 0)
  let s := (due.map (restartTask ctx.now taskId s)).getD s
  let s := s.logPause
    { entityType := .task, entityId := taskId
      pausedAt := (pause.map (·.pausedAt)).getD ctx.now, resumedAt := some ctx.now
      pauseReason := "IN_PROGRESS", elapsedBeforePauseMs := 0, action := .resume }
  return s.publish
    { eventType := .slaResumed, caseId := some t.caseId, taskId := some taskId
      payload := (Clock.ofTask taskId t.caseId).payload "IN_PROGRESS" }

def slaHooks (ctx : Ctx) (s : Store) (taskId : Id) (t : Task) (newStatus : TaskStatus) :
    Except Err Store :=
  if t.status = .awaitingExternal ∧ newStatus = .inProgress then resumeFromExternal ctx s taskId t
  else if t.status ≠ .awaitingExternal ∧ newStatus = .awaitingExternal then
    pauseClock ctx s (.ofTask taskId t.caseId) t.sla t.createdAt "AWAITING_EXTERNAL"
  else .ok s

def publishFinished (s : Store) (taskId : Id) (t : Task) (newStatus : TaskStatus) : Store :=
  let fields := [("case_id", Json.uuid t.caseId), ("task_id", .uuid taskId),
    ("task_definition_code", .str t.taskDefinitionCode), ("stage_code", .str t.stageCode),
    ("activity_code", .str t.activityCode), ("status", .str newStatus.text)]
  match newStatus with
  | .completed => s.publish
      { eventType := .taskCompleted, caseId := some t.caseId, taskId := some taskId
        payload := .obj fields, targetService := "case-orchestrator" }
  | .failed => s.publish
      { eventType := .taskFailed, caseId := some t.caseId, taskId := some taskId
        payload := .obj (fields ++ [("retries_exhausted", .bool (decide (t.maxRetries ≤ t.retryCount))),
          ("retry_count", .num t.retryCount), ("max_retries", .num t.maxRetries)])
        targetService := "case-orchestrator" }
  | _ => s

/-- `UpdateTaskStatus`, in one transaction. -/
def updateTaskStatus (lib : Library) (ctx : Ctx) (taskId : Id) (newStatus : TaskStatus)
    (output errorDetail : Option Json) (s : Store) : Except Err Store := do
  let t ← orFail (s.tasks.get? taskId)
    ("failed to lock task " ++ toString taskId ++ ": no rows in result set")
  ensure (!t.status.isTerminal)
    ("task " ++ toString taskId ++ " is in terminal status " ++ t.status.text)
  ensureApproved s taskId t newStatus
  ensureOutputAccepted lib s t newStatus output
  let s := s.updateTask taskId (fun t => t.advance newStatus output errorDetail ctx.now)
  let s ← activateOnStart ctx s taskId t newStatus
  let s ← slaHooks ctx s taskId t newStatus
  return publishFinished s taskId t newStatus

/-! ## What a status change does -/

/-- The columns of a task that clocks leave alone. -/
def Task.standing (t : Task) : TaskOrigin × TaskStatus × Bool × Option Id :=
  (t.origin, t.status, t.requiresApproval, t.approvalGateId)

/-- Only SLA columns, pause rows and events change. -/
structure ClockFrame (s s' : Store) : Prop where
  tasks : s.tasks.Grows Task.standing (fun _ => False) s'.tasks
  gates : s'.gates = s.gates
  requests : s'.requests = s.requests
  chains : s'.chains = s.chains
  cases : s'.cases = s.cases
  caseTypes : s'.caseTypes = s.caseTypes

namespace ClockFrame

theorem refl (s : Store) : ClockFrame s s := ⟨.refl _ _ _, rfl, rfl, rfl, rfl, rfl⟩

theorem trans {s'' : Store} (h : ClockFrame s s') (h' : ClockFrame s' s'') : ClockFrame s s'' :=
  ⟨h.tasks.trans h'.tasks, h'.gates.trans h.gates, h'.requests.trans h.requests,
    h'.chains.trans h.chains, h'.cases.trans h.cases, h'.caseTypes.trans h.caseTypes⟩

theorem pauseClock {clock : Clock} {sla : SLAColumns} {createdAt : Instant} {reason : String}
    (h : pauseClock ctx s clock sla createdAt reason = .ok s') : ClockFrame s s' := by
  obtain ⟨elapsed, -, h⟩ := bind_ok h
  cases h
  exact ⟨.refl _ _ _, rfl, rfl, rfl, rfl, rfl⟩

theorem updateTask (s : Store) (k : Id) {f : Task → Task} (hf : ∀ t, (f t).standing = t.standing) :
    ClockFrame s (s.updateTask k f) := ⟨.updateAt hf, rfl, rfl, rfl, rfl, rfl⟩

theorem resumeFromExternal (h : resumeFromExternal ctx s taskId t = .ok s') : ClockFrame s s' := by
  obtain ⟨due, -, h⟩ := bind_ok h
  cases h
  cases due with
  | none => exact ⟨.refl _ _ _, rfl, rfl, rfl, rfl, rfl⟩
  | some dueAt =>
    have hrestart := updateTask s taskId (f := fun t => t.restart ctx.now dueAt) fun _ => rfl
    exact ⟨hrestart.tasks, rfl, rfl, rfl, rfl, rfl⟩

theorem slaHooks (h : slaHooks ctx s taskId t newStatus = .ok s') : ClockFrame s s' := by
  unfold LoanWorkflow.slaHooks at h
  split at h
  · exact resumeFromExternal h
  · split at h
    · exact pauseClock h
    · cases h
      exact refl s

theorem publishFinished (s : Store) (taskId : Id) (t : Task) (newStatus : TaskStatus) :
    ClockFrame s (publishFinished s taskId t newStatus) := by
  cases newStatus <;> exact ⟨.refl _ _ _, rfl, rfl, rfl, rfl, rfl⟩

end ClockFrame

/-- A satisfied gate is what the check of a completion found. -/
theorem ensureApproved_ok {u : Unit} (h : ensureApproved s taskId t newStatus = .ok u)
    (hcompleted : newStatus = .completed) (hrequires : t.requiresApproval = true) :
    ∃ gateId gate, t.approvalGateId = some gateId ∧ s.gates.get? gateId = some gate ∧
      gate.gateStatus = .satisfied := by
  unfold ensureApproved at h
  rw [if_pos ⟨hcompleted, hrequires⟩] at h
  split at h
  · cases h
  · next gateId hgateId =>
    obtain ⟨gate, hgate, h⟩ := bind_ok h
    refine ⟨gateId, gate, hgateId, orFail_eq_ok.mp hgate, ?_⟩
    exact beq_iff_eq.mp (ensure_eq_ok.mp h)

/-- Starting a task leaves the store alone or opens the gate of the task. -/
theorem activateOnStart_step (h : activateOnStart ctx s taskId t newStatus = .ok s') :
    s' = s ∨ ∃ gateId gate, newStatus = .inProgress ∧ t.approvalGateId = some gateId ∧
      s.gates.get? gateId = some gate ∧
      ActivationStep s ctx gateId { gate with taskId := taskId, caseId := t.caseId } s' := by
  unfold activateOnStart at h
  split at h
  · next hstart =>
    split at h
    · cases h
    · next gateId hgateId =>
      obtain ⟨gate, hgate, hstep⟩ := repoActivateApprovalGate_step h
      exact Or.inr ⟨gateId, gate, hstart.1, hgateId, hgate, hstep⟩
  · cases h
    exact Or.inl rfl

/-- What a successful status change did: the task was not finished, a completion was
    approved, the new status was written, and the gate of a started task was opened. -/
theorem updateTaskStatus_step
    (h : updateTaskStatus lib ctx taskId newStatus output errorDetail s = .ok s') :
    ∃ t s₁, s.tasks.get? taskId = some t ∧ t.status.isTerminal = false ∧
      (newStatus = .completed → t.requiresApproval = true →
        ∃ gateId gate, t.approvalGateId = some gateId ∧ s.gates.get? gateId = some gate ∧
          gate.gateStatus = .satisfied) ∧
      activateOnStart ctx
        (s.updateTask taskId (fun t => t.advance newStatus output errorDetail ctx.now))
        taskId t newStatus = .ok s₁ ∧
      ClockFrame s₁ s' := by
  obtain ⟨t, ht, h⟩ := bind_ok h
  obtain ⟨u, hopen, h⟩ := bind_ok h
  obtain ⟨u', happroved, h⟩ := bind_ok h
  obtain ⟨-, -, h⟩ := bind_ok h
  obtain ⟨s₁, hactivated, h⟩ := bind_ok h
  obtain ⟨s₂, hhooks, h⟩ := bind_ok h
  cases h
  rw [ensure_eq_ok, Bool.not_eq_true'] at hopen
  exact ⟨t, s₁, orFail_eq_ok.mp ht, hopen, ensureApproved_ok happroved, hactivated,
    (ClockFrame.slaHooks hhooks).trans (.publishFinished s₂ taskId t newStatus)⟩

/-- A task that is marked as completed or failed: no gate is opened and no clock moves. -/
theorem updateTaskStatus_finished
    (hfinal : newStatus = .completed ∨ newStatus = .failed)
    (h : updateTaskStatus lib ctx taskId newStatus output errorDetail s = .ok s') :
    ∃ t, s.tasks.get? taskId = some t ∧ s' = publishFinished
      (s.updateTask taskId (fun t => t.advance newStatus output errorDetail ctx.now)) taskId t
        newStatus := by
  obtain ⟨t, ht, h⟩ := bind_ok h
  obtain ⟨-, -, h⟩ := bind_ok h
  obtain ⟨-, -, h⟩ := bind_ok h
  obtain ⟨-, -, h⟩ := bind_ok h
  obtain ⟨s₁, hactivated, h⟩ := bind_ok h
  obtain ⟨s₂, hhooks, h⟩ := bind_ok h
  have hstart : newStatus ≠ .inProgress := by rintro rfl; simp at hfinal
  have hwaits : newStatus ≠ .awaitingExternal := by rintro rfl; simp at hfinal
  simp only [activateOnStart, hstart, false_and, if_false, Except.ok.injEq] at hactivated
  simp only [slaHooks, hstart, hwaits, and_false, if_false, Except.ok.injEq] at hhooks
  subst hactivated hhooks
  cases h
  exact ⟨t, orFail_eq_ok.mp ht, rfl⟩

end LoanWorkflow
