import LoanWorkflow.Engine.TaskStatus
import LoanWorkflow.Framework.Autocommit
import LoanWorkflow.Framework.Strings

/-! # Status changes on the pool

    The worker loop calls `UpdateTaskStatus` with the pool as executor, so
    every statement of the call commits on its own. Here the call is a program
    of such statements, any of which may fail: an error of the code or of a
    statement ends the call and leaves what was written before. A few errors
    are ignored by the code, and the call goes on.
-/

namespace LoanWorkflow

/-! ## Statements and faults -/

/-- The events that a call publishes; the approvers of a gate are numbered. -/
inductive Publication where
  | noEligibleApprover
  | approvalRequested (i : Nat)
  | slaResumed
  | slaPaused
  | taskFinished
deriving DecidableEq, Repr

inductive PoolStatement where
  | lockTask
  | loadGate
  | loadConfig
  | loadOutput
  | updateStatus
  | lockGate
  | countPending
  | markActive
  | loadCase
  | insertRequest (i : Nat)
  | openGate
  | awaitApproval
  | loadPause
  | restartClock
  | logPause
  | insertEvent (p : Publication)
  | enqueueWebhooks (p : Publication)
deriving DecidableEq, Repr

/-- Which statements fail, and with which error. -/
abbrev Faults := PoolStatement → Option Err

/-- The error of a statement, as the code wraps it. -/
def Faults.wrapped (fails : Faults) (st : PoolStatement) (context : String) : Option Err :=
  (fails st).map (context ++ ": " ++ ·)

@[simp] theorem Faults.wrapped_eq_none {fails : Faults} {st : PoolStatement} {context : String} :
    fails.wrapped st context = none ↔ fails st = none := by
  simp [Faults.wrapped]

/-- No statement fails. -/
def noFaults : Faults := fun _ => none

/-- A program on the pool. -/
abbrev Pool (α : Type) := Autocommit Store Err α

open Autocommit

/-- `PublishEvent`: the outbox row, which `announce` writes, then the webhook deliveries. -/
def announceOnPool (fails : Faults) (p : Publication) (announce : Store → Store) : Pool Unit := do
  execute (fails.wrapped (.insertEvent p) "failed to publish event") (write announce)
  execute (fails.wrapped (.enqueueWebhooks p) "failed to enqueue webhook deliveries") (pure ())

/-- `PublishEvent` of a given event. -/
def publishOnPool (fails : Faults) (p : Publication) (e : Event) : Pool Unit :=
  announceOnPool fails p (·.publish e)

def Faults.spares (fails : Faults) (p : Publication) : Prop :=
  fails (.insertEvent p) = none ∧ fails (.enqueueWebhooks p) = none

/-! ## Checks -/

/-- Does the check of an approval read the gate? -/
def Task.readsGate (t : Task) (newStatus : TaskStatus) : Bool :=
  newStatus == .completed && t.requiresApproval && t.approvalGateId.isSome

/-- `ensureApproved`, on the pool. -/
def ensureApprovedOnPool (fails : Faults) (taskId : Id) (t : Task) (newStatus : TaskStatus) :
    Pool Unit :=
  execute (if t.readsGate newStatus then
      fails.wrapped .loadGate "ensureApprovalGateSatisfied: load gate" else none)
    (read fun s => ensureApproved s taskId t newStatus)

/-- `ensureOutputAccepted`, on the pool: the stored output is read when none is given. -/
def ensureOutputAcceptedOnPool (fails : Faults) (lib : Library) (t : Task)
    (newStatus : TaskStatus) (output : Option Json) : Pool Unit :=
  if newStatus = .completed then do
    let config ← execute (fails.wrapped .loadConfig "failed to load case type config")
      (read fun s => resolveCaseTypeConfig s t.caseId)
    match findTaskDefinitionByCode config t.taskDefinitionCode with
    | none => pure ()
    | some taskDef => do
      execute (if output.isNone then fails.wrapped .loadOutput "failed to load output payload"
        else none) (pure ())
      read fun _ => do
        let payload := output.getD t.outputPayload
        ensure payload.isMap "failed to parse output payload"
        validateTaskOutput lib taskDef payload
  else pure ()

def lockOnPool (fails : Faults) (lib : Library) (taskId : Id) (newStatus : TaskStatus)
    (output : Option Json) : Pool Task := do
  let t ← execute (fails.wrapped .lockTask ("failed to lock task " ++ toString taskId))
    (read fun s => orFail (s.tasks.get? taskId)
      ("failed to lock task " ++ toString taskId ++ ": no rows in result set"))
  read fun _ => ensure (!t.status.isTerminal)
    ("task " ++ toString taskId ++ " is in terminal status " ++ t.status.text)
  ensureApprovedOnPool fails taskId t newStatus
  ensureOutputAcceptedOnPool fails lib t newStatus output
  return t

/-! ## Opening the gate -/

/-- An error that the insertion of a request ignores; the texts are ASCII. -/
def isDuplicate (e : Err) : Bool :=
  Strings.contains (Strings.toUpper e.toList) "DUPLICATE".toList

/-- The event of a request; one that met a duplicate has no key. -/
def requestedOnPool (gateId : Id) (gate : ApprovalGate) (more : List (String × Json))
    (requestId : Option Id) (approver : String) : Event :=
  match requestId with
  | some k => requestedEvent gateId gate "event_reason" more k approver
  | none =>
    { eventType := .approvalRequested, caseId := some gate.caseId, taskId := some gate.taskId
      payload := .obj ([("gate_id", .uuid gateId), ("request_id", .str ""),
        ("case_id", .uuid gate.caseId), ("task_id", .uuid gate.taskId),
        ("approver_id", .str approver), ("request_status", .str "PENDING"),
        ("event_reason", .str "approval_requested")] ++ more) }

def requestInsertion (fails : Faults) (i : Nat) (row : ApprovalRequest) (s : Store) :
    Except Err (Id × Store) :=
  match fails (.insertRequest i) with
  | some e => .error e
  | none => insertRequest s row

/-- The key of the inserted request, if the index did not refuse it. -/
def insertRequestOnPool (fails : Faults) (i : Nat) (row : ApprovalRequest) :
    Pool (Option Id) where
  run s := match requestInsertion fails i row s with
    | .ok (k, s') => (.ok (some k), s')
    | .error e =>
      if isDuplicate e then (.ok none, s)
      else (.error ("activateApprovalGate: insert request: " ++ e), s)

/-- One request per approver, each with its event. -/
def insertRequestsOnPool (fails : Faults) (row : String → ApprovalRequest)
    (event : Option Id → String → Event) : Nat → List String → Pool Unit
  | _, [] => pure ()
  | i, approver :: rest => do
    let requestId ← insertRequestOnPool fails i (row approver)
    publishOnPool fails (.approvalRequested i) (event requestId approver)
    insertRequestsOnPool fails row event (i + 1) rest

/-- Insert the requests, open the gate and let the task wait. -/
def openGateOnPool (fails : Faults) (ctx : Ctx) (gateId : Id) (gate : ApprovalGate)
    (expiresAt : Instant) (approvers : List String) : Pool Unit := do
  insertRequestsOnPool fails (requestRow gateId gate expiresAt)
    (requestedOnPool gateId gate [("approval_expires", .num expiresAt)]) 0 approvers
  execute (fails.wrapped .openGate "activateApprovalGate: update gate active")
    (write fun s => s.updateGate gateId (fun g => g.activate ctx.now))
  execute (fails.wrapped .awaitApproval "activateApprovalGate: update task waiting status")
    (write fun s => s.updateTask gate.taskId Task.awaitApproval)

/-- The event of a gate without an eligible approver; an error of its statements is ignored. -/
def announceNoApprover (fails : Faults) (ctx : Ctx) (gateId : Id) (gate : ApprovalGate)
    (c : CaseInstance) : Pool Unit :=
  match ctx.selectApprovers gate c with
  | .error .noEligibleApprover =>
    attempt (publishOnPool fails .noEligibleApprover
      { eventType := .noEligibleApprover, caseId := some gate.caseId, taskId := some gate.taskId
        payload := .obj [("gate_id", .uuid gateId), ("case_id", .uuid gate.caseId),
          ("task_id", .uuid gate.taskId), ("event_reason", .str "no_eligible_approver")] })
  | _ => pure ()

/-- The expiry of requests; an unreadable calendar means the wall clock. -/
def expiryOrWallClock (ctx : Ctx) (gate : ApprovalGate) (c : CaseInstance) : Instant :=
  match requestExpiry ctx gate c with
  | .ok expiresAt => expiresAt
  | .error _ => ctx.now + approvalTimeout gate

/-- `activateApprovalGate` of the task repository for a gate without pending requests. -/
def requestApprovals (fails : Faults) (ctx : Ctx) (gateId : Id) (gate : ApprovalGate) :
    Pool Unit := do
  let c ← execute (fails.wrapped .loadCase "activateApprovalGate: load case data")
    (read fun s => orFail (s.cases.get? gate.caseId)
      "activateApprovalGate: load case data: no rows in result set")
  match chooseApprovers ctx gate c with
  | .ok approvers =>
    openGateOnPool fails ctx gateId gate (expiryOrWallClock ctx gate c) approvers
  | .error e => do
    announceNoApprover fails ctx gateId gate c
    fail e

/-- `activateApprovalGate` of the task repository for a gate that is not closed. -/
def reopenOrRequest (fails : Faults) (ctx : Ctx) (gateId : Id) (gate : ApprovalGate) :
    Pool Unit := do
  let pending ← execute (fails.wrapped .countPending "activateApprovalGate: count pending requests")
    (read fun s => .ok (pendingRequests s gateId))
  if 0 < pending then
    execute (fails.wrapped .markActive "activateApprovalGate: mark active")
      (write fun s => s.updateGate gateId (fun g => g.activate ctx.now))
  else requestApprovals fails ctx gateId gate

/-- `activateApprovalGate` of the task repository, on the pool. -/
def activateApprovalGateOnPool (fails : Faults) (ctx : Ctx) (taskId caseId gateId : Id) :
    Pool Unit := do
  let gate ← execute (fails.wrapped .lockGate "activateApprovalGate: load gate")
    (read fun s => orFail (s.gates.get? gateId)
      "activateApprovalGate: load gate: no rows in result set")
  if gate.gateStatus = .satisfied then pure ()
  else if gate.gateStatus.isRefused then fail "activateApprovalGate: gate is terminal"
  else reopenOrRequest fails ctx gateId { gate with taskId := taskId, caseId := caseId }

/-- A task that starts opens the gate it needs. -/
def activateOnStartOnPool (fails : Faults) (ctx : Ctx) (taskId : Id) (t : Task)
    (newStatus : TaskStatus) : Pool Unit :=
  if newStatus = .inProgress ∧ t.requiresApproval = true then
    match t.approvalGateId with
    | none => fail ("task " ++ toString taskId ++ " requires approval but has no approval gate")
    | some gateId => activateApprovalGateOnPool fails ctx taskId t.caseId gateId
  else pure ()

/-! ## Clocks and events -/

/-- The latest pause of a task; a pause that cannot be read counts as none. -/
def pauseOnPool (fails : Faults) (taskId : Id) (s : Store) : Option SLAPauseLog :=
  match fails .loadPause with
  | some _ => none
  | none => latestPause s .task taskId

/-- Write the new due date of a clock that has one. -/
def restartOnPool (fails : Faults) (ctx : Ctx) (taskId : Id) (due : Option Instant) : Pool Unit :=
  match due with
  | some dueAt =>
    execute (fails.wrapped .restartClock "failed to update task SLA after resume")
      (write fun s => restartTask ctx.now taskId s dueAt)
  | none => pure ()

/-- `resumeFromExternal`, on the pool. -/
def resumeFromExternalOnPool (fails : Faults) (ctx : Ctx) (taskId : Id) (t : Task) :
    Pool Unit := do
  let pause ← read fun s => .ok (pauseOnPool fails taskId s)
  let due ← read fun _ => resumedDue ctx t.sla ((pause.map (·.elapsedBeforePauseMs)).getD 0)
  restartOnPool fails ctx taskId due
  execute (fails.wrapped .logPause "failed to append task SLA resume log")
    (write fun s => s.logPause
      { entityType := .task, entityId := taskId
        pausedAt := (pause.map (·.pausedAt)).getD ctx.now, resumedAt := some ctx.now
        pauseReason := "IN_PROGRESS", elapsedBeforePauseMs := 0, action := .resume })
  publishOnPool fails .slaResumed
    { eventType := .slaResumed, caseId := some t.caseId, taskId := some taskId
      payload := (Clock.ofTask taskId t.caseId).payload "IN_PROGRESS" }

/-- The clock of a task that starts to wait stops. -/
def pauseForExternalOnPool (fails : Faults) (ctx : Ctx) (taskId : Id) (t : Task) :
    Pool Unit := do
  let elapsed ← read fun _ => elapsedMs ctx t.sla t.createdAt
  execute (fails.wrapped .logPause "failed to append task SLA pause log")
    (write fun s => s.logPause
      { entityType := .task, entityId := taskId, pausedAt := ctx.now
        pauseReason := "AWAITING_EXTERNAL", elapsedBeforePauseMs := elapsed, action := .pause })
  publishOnPool fails .slaPaused
    { eventType := .slaPaused, caseId := some t.caseId, taskId := some taskId
      payload := (Clock.ofTask taskId t.caseId).payload "AWAITING_EXTERNAL" }

/-- `slaHooks`, on the pool. -/
def slaHooksOnPool (fails : Faults) (ctx : Ctx) (taskId : Id) (t : Task)
    (newStatus : TaskStatus) : Pool Unit :=
  if t.status = .awaitingExternal ∧ newStatus = .inProgress then
    resumeFromExternalOnPool fails ctx taskId t
  else if t.status ≠ .awaitingExternal ∧ newStatus = .awaitingExternal then
    pauseForExternalOnPool fails ctx taskId t
  else pure ()

/-- Publish the event of a task that is finished. -/
def publishFinishedOnPool (fails : Faults) (taskId : Id) (t : Task) (newStatus : TaskStatus) :
    Pool Unit :=
  if newStatus = .completed ∨ newStatus = .failed then
    announceOnPool fails .taskFinished (fun s => publishFinished s taskId t newStatus)
  else pure ()

/-! ## The call -/

/-- What the call does once the status is written. -/
def afterUpdate (fails : Faults) (ctx : Ctx) (taskId : Id) (t : Task) (newStatus : TaskStatus) :
    Pool Unit := do
  activateOnStartOnPool fails ctx taskId t newStatus
  slaHooksOnPool fails ctx taskId t newStatus
  publishFinishedOnPool fails taskId t newStatus

/-- `UpdateTaskStatus`, on the pool. -/
def updateTaskStatusOnPool (fails : Faults) (lib : Library) (ctx : Ctx) (taskId : Id)
    (newStatus : TaskStatus) (output errorDetail : Option Json) : Pool Unit := do
  let t ← lockOnPool fails lib taskId newStatus output
  execute (fails.wrapped .updateStatus "failed to update task status")
    (write fun s => s.updateTask taskId (fun t => t.advance newStatus output errorDetail ctx.now))
  afterUpdate fails ctx taskId t newStatus

/-! ## What the statements after the update keep -/

def EventType.isFinish : EventType → Bool
  | .taskCompleted | .taskFailed => true
  | _ => false

/-- A relation that the statements of an activation keep, whatever becomes of them. -/
structure KeptByActivation (taskId : Id) (R : Store → Store → Prop) : Prop where
  refl : ∀ s, R s s
  trans : ∀ {s₁ s₂ s₃}, R s₁ s₂ → R s₂ s₃ → R s₁ s₃
  publish : ∀ s e, e.eventType.isFinish = false → R s (s.publish e)
  request : ∀ s row, R s { s with requests := s.requests.insert row }
  gate : ∀ s k f, R s (s.updateGate k f)
  await : ∀ s, R s (s.updateTask taskId Task.awaitApproval)

/-- A relation that the SLA hooks keep as well. -/
structure KeptByHooks (taskId : Id) (R : Store → Store → Prop) : Prop extends
    KeptByActivation taskId R where
  restart : ∀ s now dueAt, R s (restartTask now taskId s dueAt)
  log : ∀ s row, R s (s.logPause row)

namespace KeptByActivation

variable {taskId : Id} {R : Store → Store → Prop} {fails : Faults} {ctx : Ctx}

variable (h : KeptByActivation taskId R)

include h

theorem execute_write (fault : Option Err) {f : Store → Store}
    (hf : ∀ s, R s (f s)) : Moves R (execute fault (write f) : Pool Unit) :=
  .execute h.refl fault hf

theorem execute_read {α : Type} (fault : Option Err)
    (f : Store → Except Err α) : Moves R (execute fault (read f) : Pool α) :=
  .execute h.refl fault h.refl

theorem announceOnPool (p : Publication) {announce : Store → Store}
    (hannounce : ∀ s, R s (announce s)) : Moves R (announceOnPool fails p announce) :=
  .bind h.trans (h.execute_write _ hannounce) fun _ => .execute h.refl _ h.refl

theorem publishOnPool (p : Publication) {e : Event}
    (he : e.eventType.isFinish = false) : Moves R (publishOnPool fails p e) :=
  h.announceOnPool p fun s => h.publish s e he

theorem insertRequestOnPool (i : Nat) (row : ApprovalRequest) :
    Moves R (insertRequestOnPool fails i row) := by
  intro s
  unfold LoanWorkflow.insertRequestOnPool
  cases hinsert : requestInsertion fails i row s with
  | error e =>
    simp only [hinsert]
    split <;> exact h.refl s
  | ok r =>
    unfold requestInsertion at hinsert
    split at hinsert
    · cases hinsert
    · next hfault =>
      have heq := (insertRequest_eq hinsert).2
      simp only [requestInsertion, hfault, hinsert]
      rw [heq]
      exact h.request s row

theorem insertRequestsOnPool {row : String → ApprovalRequest}
    {event : Option Id → String → Event}
    (hevent : ∀ k approver, (event k approver).eventType = .approvalRequested) (i : Nat)
    (approvers : List String) : Moves R (insertRequestsOnPool fails row event i approvers) := by
  induction approvers generalizing i with
  | nil => exact h.refl
  | cons approver rest ih =>
    refine .bind h.trans (h.insertRequestOnPool i _) fun k => .bind h.trans ?_ fun _ => ih (i + 1)
    apply h.publishOnPool
    rw [hevent]
    rfl

theorem requestApprovals (gateId : Id) {gate : ApprovalGate}
    (hgate : gate.taskId = taskId) : Moves R (requestApprovals fails ctx gateId gate) := by
  refine .bind h.trans (h.execute_read _ _) fun c => ?_
  cases chooseApprovers ctx gate c with
  | ok approvers =>
    refine .bind h.trans (h.insertRequestsOnPool ?_ 0 approvers) fun _ =>
      .bind h.trans (h.execute_write _ fun s => h.gate s _ _) fun _ => h.execute_write _ ?_
    · intro k approver
      cases k <;> rfl
    · rw [hgate]
      exact h.await
  | error e =>
    refine .bind h.trans ?_ fun _ => h.refl
    unfold announceNoApprover
    split
    · exact h.publishOnPool _ rfl
    · exact h.refl

theorem activateOnStartOnPool (t : Task) (newStatus : TaskStatus) :
    Moves R (activateOnStartOnPool fails ctx taskId t newStatus) := by
  unfold LoanWorkflow.activateOnStartOnPool
  split
  · cases t.approvalGateId with
    | none => exact h.refl
    | some gateId =>
      refine .bind h.trans (h.execute_read _ _) fun gate => ?_
      split
      · exact h.refl
      · split
        · exact h.refl
        · refine .bind h.trans (h.execute_read _ _) fun pending => ?_
          split
          · exact h.execute_write _ fun s => h.gate s _ _
          · exact h.requestApprovals gateId rfl
  · exact h.refl

end KeptByActivation

theorem KeptByHooks.slaHooksOnPool {taskId : Id} {R : Store → Store → Prop}
    (h : KeptByHooks taskId R) {fails : Faults} {ctx : Ctx} (t : Task) (newStatus : TaskStatus) :
    Moves R (slaHooksOnPool fails ctx taskId t newStatus) := by
  have hk := h.toKeptByActivation
  unfold LoanWorkflow.slaHooksOnPool
  split
  · refine .bind hk.trans hk.refl fun pause => .bind hk.trans hk.refl fun due =>
      .bind hk.trans ?_ fun _ => .bind hk.trans (hk.execute_write _ fun s => h.log s _) fun _ =>
        hk.publishOnPool _ rfl
    cases due with
    | none => exact hk.refl
    | some dueAt => exact hk.execute_write _ fun s => h.restart s _ _
  · split
    · exact .bind hk.trans hk.refl fun elapsed =>
        .bind hk.trans (hk.execute_write _ fun s => h.log s _) fun _ =>
          hk.publishOnPool _ rfl
    · exact hk.refl

end LoanWorkflow
