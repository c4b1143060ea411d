import LoanWorkflow.Approval.Requests

/-! # Opening a gate

    Two functions open a gate for votes: `ActivateApprovalGate` of the approval
    package, and `activateApprovalGate` of the task repository, which runs when
    a task goes in progress. They differ in the statuses they accept and in
    what they do when the business calendar cannot be read.
-/

namespace LoanWorkflow

variable {ctx : Ctx} {gateId : Id} {s s' : Store}
variable {gate : ApprovalGate} {event : Id → String → Event} {approvers : List String}

/-! ## Rows -/

def ApprovalGate.activate (g : ApprovalGate) (now : Instant) : ApprovalGate :=
  { g with
    gateStatus := .active
    openedAt := some (g.openedAt.getD now)
    version := g.version + 1 }

def Task.awaitApproval (t : Task) : Task :=
  { t with
    status := if t.status = .inProgress then .awaitingExternal else t.status
    version := t.version + 1 }

/-- The request of one approver, in the first tier of the chain. -/
def requestRow (gateId : Id) (gate : ApprovalGate) (expiresAt : Instant) (approver : String) :
    ApprovalRequest where
  approvalGateId := gateId
  approverId := approver
  tier := gate.chainDefinition.head?.map (·.tier)
  expiresAt := expiresAt

/-! ## Approvers and expiry -/

/-- The selected approvers, or the fallback supervisor when nobody is eligible. -/
def chooseApprovers (ctx : Ctx) (gate : ApprovalGate) (c : CaseInstance) :
    Except Err (List String) :=
  match ctx.selectApprovers gate c with
  | .ok approvers =>
    if approvers.isEmpty then .error "no eligible approver found" else .ok approvers
  | .error (.failed e) => .error e
  | .error .noEligibleApprover =>
    let role := gate.fallbackSupervisorRole.getD ""
    let fallback := if isBlank role then none else ctx.activeUserByRole (trimSpace role)
    if fallback.getD "" = "" then .error "no eligible approver found"
    else .ok [fallback.getD ""]

def approvalTimeout (gate : ApprovalGate) : Duration :=
  if hoursToDuration gate.approvalTimeoutHours ≤ 0 then 24 * hour
  else hoursToDuration gate.approvalTimeoutHours

/-- The expiry of requests that are opened now. -/
def requestExpiry (ctx : Ctx) (gate : ApprovalGate) (c : CaseInstance) : Except Err Instant :=
  match c.sla.calendarId with
  | some calendarId => ctx.addBusinessHours ctx.now (approvalTimeout gate) calendarId
  | none => .ok (ctx.now + approvalTimeout gate)

/-! ## Opening -/

/-- One request per approver, each with its event. -/
def insertRequests (row : String → ApprovalRequest) (event : Id → String → Event) :
    List String → Store → Except Err Store
  | [], s => .ok s
  | approver :: rest, s => do
    let (k, s) ← insertRequest s (row approver)
    insertRequests row event rest (s.publish (event k approver))

/-- Insert the requests, open the gate and let the task wait. -/
def openGate (ctx : Ctx) (gateId : Id) (gate : ApprovalGate) (expiresAt : Instant)
    (event : Id → String → Event) (approvers : List String) (s : Store) : Except Err Store := do
  let s ← insertRequests (requestRow gateId gate expiresAt) event approvers s
  let s := s.updateGate gateId (fun g => g.activate ctx.now)
  return s.updateTask gate.taskId Task.awaitApproval

/-- The number of pending requests of a gate. -/
def pendingRequests (s : Store) (gateId : Id) : Nat :=
  s.requests.count (fun r => r.approvalGateId == gateId && r.status == .pending)

/-- The event of an opened request; the two functions name the reason differently. -/
def requestedEvent (gateId : Id) (gate : ApprovalGate) (reasonKey : String)
    (more : List (String × Json)) (requestId : Id) (approver : String) : Event where
  eventType := .approvalRequested
  caseId := some gate.caseId
  taskId := some gate.taskId
  payload := .obj ([("gate_id", .uuid gateId), ("request_id", .uuid requestId),
    ("case_id", .uuid gate.caseId), ("task_id", .uuid gate.taskId),
    ("approver_id", .str approver), ("request_status", .str "PENDING"),
    (reasonKey, .str "approval_requested")] ++ more)

/-- `ActivateApprovalGate` of the approval package. -/
def activateApprovalGate (ctx : Ctx) (gateId : Id) (s : Store) : Except Err Store := do
  let gate ← orFail (s.gates.get? gateId)
    "ActivateApprovalGate: load gate: sql: no rows in result set"
  if gate.gateStatus = .satisfied ∨ gate.gateStatus = .failed then return s
  else if 0 < pendingRequests s gateId then
    return s.updateGate gateId (fun g => g.activate ctx.now)
  else
    let c ← orFail (s.cases.get? gate.caseId)
      "ActivateApprovalGate: load case: sql: no rows in result set"
    let approvers ← chooseApprovers ctx gate c
    let expiresAt ← requestExpiry ctx gate c
    openGate ctx gateId gate expiresAt (requestedEvent gateId gate "reason" []) approvers s

/-- The statuses from which the task repository refuses to open a gate. -/
def GateStatus.isRefused : GateStatus → Bool
  | .failed | .rejected | .rejectedReworkInitiated | .expired => true
  | _ => false

/-- `activateApprovalGate` of the task repository: an unreadable calendar means the wall
    clock, and the task and case come from the caller. -/
def repoActivateApprovalGate (ctx : Ctx) (taskId caseId gateId : Id) (s : Store) :
    Except Err Store := do
  let gate ← orFail (s.gates.get? gateId) "activateApprovalGate: load gate: no rows in result set"
  if gate.gateStatus = .satisfied then return s
  else if gate.gateStatus.isRefused then .error "activateApprovalGate: gate is terminal"
  else if 0 < pendingRequests s gateId then
    return s.updateGate gateId (fun g => g.activate ctx.now)
  else
    let c ← orFail (s.cases.get? caseId)
      "activateApprovalGate: load case data: no rows in result set"
    let gate := { gate with taskId := taskId, caseId := caseId }
    let approvers ← chooseApprovers ctx gate c
    let expiresAt := match requestExpiry ctx gate c with
      | .ok expiresAt => expiresAt
      | .error _ => ctx.now + approvalTimeout gate
    openGate ctx gateId gate expiresAt
      (requestedEvent gateId gate "event_reason" [("approval_expires", .num expiresAt)])
      approvers s

/-! ## What opening does -/

theorem insertRequests_eq {row : String → ApprovalRequest}
    (h : insertRequests row event approvers s = .ok s') :
    ∃ outbox, s' = { s with
      requests := (approvers.map row).foldl Table.insert s.requests
      outbox := outbox } := by
  induction approvers generalizing s with
  | nil =>
    cases h
    exact ⟨_, rfl⟩
  | cons approver rest ih =>
    obtain ⟨⟨k, s₁⟩, hinsert, h⟩ := bind_ok h
    obtain ⟨-, rfl⟩ := insertRequest_eq hinsert
    obtain ⟨outbox, rfl⟩ := ih h
    exact ⟨outbox, rfl⟩

/-- What a successful activation did: nothing on a satisfied or failed gate, reopen a gate
    that has pending requests, or open it with new ones. -/
inductive ActivationStep (s : Store) (ctx : Ctx) (gateId : Id) (gate : ApprovalGate) :
    Store → Prop
  | unchanged (h : gate.gateStatus = .satisfied ∨ gate.gateStatus = .failed) :
      ActivationStep s ctx gateId gate s
  | reopened (hstatus : gate.gateStatus ≠ .satisfied) (hpending : 0 < pendingRequests s gateId) :
      ActivationStep s ctx gateId gate (s.updateGate gateId (fun g => g.activate ctx.now))
  | opened (c : CaseInstance) (approvers : List String) (expiresAt : Instant)
      (outbox : Table Event) (hstatus : gate.gateStatus ≠ .satisfied)
      (hpending : pendingRequests s gateId = 0) (hcase : s.cases.get? gate.caseId = some c)
      (hchosen : chooseApprovers ctx gate c = .ok approvers) :
      ActivationStep s ctx gateId gate
        { s with
          requests := (approvers.map (requestRow gateId gate expiresAt)).foldl Table.insert
            s.requests
          gates := s.gates.updateAt gateId (fun g => g.activate ctx.now)
          tasks := s.tasks.updateAt gate.taskId Task.awaitApproval
          outbox := outbox }

theorem ActivationStep.caseTypes_eq
    (h : ActivationStep s ctx gateId gate s') : s'.caseTypes = s.caseTypes := by
  cases h <;> rfl

theorem openGate_step {expiresAt : Instant} {c : CaseInstance}
    (hstatus : gate.gateStatus ≠ .satisfied) (hpending : pendingRequests s gateId = 0)
    (hcase : s.cases.get? gate.caseId = some c)
    (hchosen : chooseApprovers ctx gate c = .ok approvers)
    (h : openGate ctx gateId gate expiresAt event approvers s = .ok s') :
    ActivationStep s ctx gateId gate s' := by
  obtain ⟨s₁, hinsert, h⟩ := bind_ok h
  obtain ⟨outbox, rfl⟩ := insertRequests_eq hinsert
  cases h
  exact .opened c approvers expiresAt outbox hstatus hpending hcase hchosen

theorem activateApprovalGate_step (h : activateApprovalGate ctx gateId s = .ok s') :
    ∃ gate, s.gates.get? gateId = some gate ∧ ActivationStep s ctx gateId gate s' := by
  obtain ⟨gate, hgate, h⟩ := bind_ok h
  refine ⟨gate, orFail_eq_ok.mp hgate, ?_⟩
  split at h
  · next hclosed =>
    cases h
    exact .unchanged hclosed
  · next hopen =>
    have hstatus : gate.gateStatus ≠ .satisfied := fun hs => hopen (Or.inl hs)
    split at h
    · next hpending =>
      cases h
      exact .reopened hstatus hpending
    · next hpending =>
      obtain ⟨c, hcase, h⟩ := bind_ok h
      obtain ⟨approvers, hchosen, h⟩ := bind_ok h
      obtain ⟨expiresAt, -, h⟩ := bind_ok h
      exact openGate_step hstatus (by omega) (orFail_eq_ok.mp hcase) hchosen h

theorem repoActivateApprovalGate_step {taskId caseId : Id}
    (h : repoActivateApprovalGate ctx taskId caseId gateId s = .ok s') :
    ∃ gate, s.gates.get? gateId = some gate ∧
      ActivationStep s ctx gateId { gate with taskId := taskId, caseId := caseId } s' := by
  obtain ⟨gate, hgate, h⟩ := bind_ok h
  refine ⟨gate, orFail_eq_ok.mp hgate, ?_⟩
  split at h
  · next hclosed =>
    cases h
    exact .unchanged (Or.inl hclosed)
  · next hstatus =>
    split at h
    · cases h
    · split at h
      · next hpending =>
        cases h
        exact .reopened hstatus hpending
      · next hpending =>
        obtain ⟨c, hcase, h⟩ := bind_ok h
        obtain ⟨approvers, hchosen, h⟩ := bind_ok h
        exact openGate_step (by exact hstatus) (by omega) (orFail_eq_ok.mp hcase) hchosen h

end LoanWorkflow
