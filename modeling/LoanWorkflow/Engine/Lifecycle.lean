import LoanWorkflow.Sla.PauseLog

/-! # Lifecycle of a case

    Suspension, resumption, release, withdrawal and emergency closing of a
    case. Each operation locks the case, asks the transition table, rewrites
    the case and its tasks, and publishes an event. Suspension and resumption
    also stop and restart the SLA clocks of the case and of its open tasks.

    All five touch one case only, and only while it is not closed
    (`MovesOpenCase`). Cloning copies a case and its tasks (`cloneCase`).
-/

namespace LoanWorkflow

variable {clock : Clock} {ctx : Ctx} {caseId : Id} {sla : SLAColumns} {s s' : Store}
  {reason : String}
variable {updates : CaseInstance → CaseInstance} {requestedStatus status : CaseStatus}
  {resumeAt : Option Instant} {restart : Store → Instant → Store} {initiatedBy userId : String}
  {u : Unit} {s'' : Store}

/-! ## The transition table -/

def CaseStatus.text : CaseStatus → String
  | .open => "OPEN"
  | .inProgress => "IN_PROGRESS"
  | .completed => "COMPLETED"
  | .cancelled => "CANCELLED"
  | .suspended => "SUSPENDED"
  | .rejected => "REJECTED"
  | .cloned => "CLONED"
  | .exception => "EXCEPTION"
  | .allocatable => "ALLOCATABLE"

/-- The statuses that the transition table allows after a status. -/
def CaseStatus.allowed : CaseStatus → List CaseStatus
  | .open => [.inProgress, .cancelled, .suspended]
  | .inProgress => [.completed, .cancelled, .suspended, .allocatable]
  | .suspended => [.inProgress, .cancelled]
  | .cloned => [.open, .inProgress]
  -- the terminal statuses, and those the table does not list
  | .completed | .cancelled | .rejected | .exception | .allocatable => []

def validateLifecycleTransition (currentStatus requestedStatus : CaseStatus)
    (initiatedBy : String) : Except Err Unit :=
  ensure (currentStatus.allowed.contains requestedStatus)
    ("invalid state transition: from " ++ currentStatus.text ++ " to " ++ requestedStatus.text ++
      " (initiated by " ++ initiatedBy ++ ")")

/-- The table lets no closed case go anywhere. -/
theorem validateLifecycleTransition_open {currentStatus : CaseStatus}
    (h : validateLifecycleTransition currentStatus requestedStatus initiatedBy = .ok u) :
    currentStatus.isTerminal = false := by
  unfold validateLifecycleTransition at h
  rw [ensure_eq_ok] at h
  cases currentStatus <;> first | rfl | cases h

/-! ## Rows -/

def getCaseInstanceWithLock (s : Store) (caseId : Id) : Except Err CaseInstance :=
  orFail (s.cases.get? caseId)
    ("failed to fetch case " ++ toString caseId ++ " with lock: no rows in result set")

/-- The status and some other columns. -/
def updateCaseLifecycle (s : Store) (caseId : Id) (status : CaseStatus)
    (updates : CaseInstance → CaseInstance) : Except Err Store := do
  ensure (s.cases.get? caseId).isSome ("case " ++ toString caseId ++ " not found")
  return s.updateCase caseId
    (fun c => { updates c with status := status, rowVersion := c.rowVersion + 1 })

def Task.requeue (t : Task) : Task :=
  { t with
    status := .pending
    assignedService := none
    assigneeId := none
    assignedAt := none
    version := t.version + 1 }

/-- Put the tasks of a case with some statuses back into the queue. -/
def requeueTasks (s : Store) (caseId : Id) (p : TaskStatus → Bool) : Store :=
  { s with tasks := s.tasks.updateWhere (fun t => t.caseId == caseId && p t.status) Task.requeue }

/-- A task that is closed along with its case. -/
def Task.cancelWithCase (t : Task) (now : Instant) : Task :=
  { t with status := .cancelled, completedAt := some now, version := t.version + 1 }

def cancelOpenTasks (s : Store) (caseId : Id) (now : Instant) : Store :=
  { s with
    tasks := s.tasks.updateWhere (fun t => t.caseId == caseId && !t.status.isTerminal)
      (fun t => t.cancelWithCase now) }

/-! ## SLA clocks of a suspended case -/

/-- Working time since the clock started, in milliseconds; without a calendar none is
    counted. -/
def elapsedMs (ctx : Ctx) (sla : SLAColumns) (createdAt : Instant) : Except Err Int :=
  match sla.calendarId with
  | some calendarId => do
    let elapsed ← ctx.businessHoursElapsed (sla.effectiveStartTime.getD createdAt) ctx.now calendarId
    return toMilliseconds elapsed
  | none => .ok 0

def pauseClock (ctx : Ctx) (s : Store) (clock : Clock) (sla : SLAColumns) (createdAt : Instant)
    (reason : String) : Except Err Store := do
  let elapsed ← elapsedMs ctx sla createdAt
  let s := s.logPause
    { entityType := clock.entityType, entityId := clock.entityId, pausedAt := ctx.now
      pauseReason := reason, elapsedBeforePauseMs := elapsed, action := .pause }
  return s.publish
    { eventType := .slaPaused, caseId := some clock.caseId, taskId := clock.taskId
      payload := clock.payload reason }

/-- The tasks of a case that still have work to do. -/
def openTasks (s : Store) (caseId : Id) : List (Id × Task) :=
  s.tasks.rows.filter (fun r => r.2.caseId == caseId && r.2.status.isOpen)

def appendCaseSLAPauseLogs (ctx : Ctx) (s : Store) (caseId : Id) (reason : String) :
    Except Err Store := do
  let c ← orFail (s.cases.get? caseId)
    "appendCaseSLAPauseLogs: load case SLA state: no rows in result set"
  let s ← pauseClock ctx s (.ofCase caseId) c.sla c.createdAt reason
  (openTasks s caseId).foldlM
    (fun s r => pauseClock ctx s (.ofTask r.1 caseId) r.2.sla r.2.createdAt reason) s

/-- The due date of a clock that restarts now with the rest of its duration; none when the
    clock has no duration. -/
def resumedDue (ctx : Ctx) (sla : SLAColumns) (elapsed : Int) : Except Err (Option Instant) :=
  match sla.durationMs with
  | none => .ok none
  | some duration =>
    if 0 < duration then
      let remaining := max 0 (ofMilliseconds (duration - elapsed))
      match sla.calendarId with
      | some calendarId => (ctx.addBusinessHours ctx.now remaining calendarId).map some
      | none => .ok (some (ctx.now + remaining))
    else .ok none

/-- Restart one clock; `restart` writes its new due date. -/
def resumeClock (ctx : Ctx) (s : Store) (clock : Clock) (sla : SLAColumns)
    (restart : Store → Instant → Store) (reason : String) : Except Err Store := do
  let pause := latestPause s clock.entityType clock.entityId
  let elapsed := (pause.map (·.elapsedBeforePauseMs)).getD 0
  let due ← resumedDue ctx sla elapsed
  let s := (due.map (restart s)).getD s
  let s := s.logPause
    { entityType := clock.entityType, entityId := clock.entityId
      pausedAt := (pause.map (·.pausedAt)).getD ctx.now, resumedAt := some ctx.now
      pauseReason := reason, elapsedBeforePauseMs := elapsed, action := .resume }
  return s.publish
    { eventType := .slaResumed, caseId := some clock.caseId, taskId := clock.taskId
      payload := clock.payload reason }

def appendCaseSLAResumeLogs (ctx : Ctx) (s : Store) (caseId : Id) (reason : String) :
    Except Err Store := do
  let c ← orFail (s.cases.get? caseId)
    "appendCaseSLAResumeLogs: load case resume state: no rows in result set"
  let s ← resumeClock ctx s (.ofCase caseId) c.sla (restartCase ctx.now caseId) reason
  (openTasks s caseId).foldlM
    (fun s r => resumeClock ctx s (.ofTask r.1 caseId) r.2.sla (restartTask ctx.now r.1) reason) s

/-! ## Operations -/

def suspendCase (ctx : Ctx) (caseId : Id) (reason : String) (resumeAt : Option Instant)
    (s : Store) : Except Err Store := do
  let c ← getCaseInstanceWithLock s caseId
  validateLifecycleTransition c.status .suspended "system"
  let s ← updateCaseLifecycle s caseId .suspended
    (fun c => { c with suspendReason := some reason, resumeAt := resumeAt })
  let s := requeueTasks s caseId TaskStatus.isOpen
  let s ← appendCaseSLAPauseLogs ctx s caseId "CASE_SUSPENDED"
  return s.publish
    { eventType := .caseSuspended, caseId := some caseId
      payload := .obj [("case_id", .uuid caseId), ("reason", .str reason),
        ("resume_at", (resumeAt.map (fun t => Json.num t)).getD .null)] }

/-- The waiting tasks of a case that lie in a workbasket, with its key. -/
def queuedTasks (s : Store) (caseId : Id) : List (Id × Id) :=
  s.tasks.rows.filterMap (fun r =>
    if r.2.caseId == caseId && r.2.status == .pending then
      r.2.workbasketId.map (fun workbasketId => (r.1, workbasketId))
    else none)

def resumeCase (ctx : Ctx) (caseId : Id) (s : Store) : Except Err Store := do
  let c ← getCaseInstanceWithLock s caseId
  validateLifecycleTransition c.status .inProgress "system"
  let s ← updateCaseLifecycle s caseId .inProgress
    (fun c => { c with resumeAt := none, suspendReason := none })
  let s := { s with
    tasks := s.tasks.updateWhere (fun t => t.caseId == caseId && t.status == .pending)
      (fun t => { t with version := t.version + 1 }) }
  let s := (queuedTasks s caseId).foldl (fun s r => s.publish
    { eventType := .taskQueued, caseId := some caseId, taskId := some r.1
      payload := .obj [("task_id", .uuid r.1), ("workbasket_id", .uuid r.2)] }) s
  let s ← appendCaseSLAResumeLogs ctx s caseId "CASE_RESUMED"
  return s.publish { eventType := .caseResumed, caseId := some caseId }

def releaseCase (ctx : Ctx) (caseId : Id) (userId : String) (s : Store) : Except Err Store := do
  let c ← getCaseInstanceWithLock s caseId
  validateLifecycleTransition c.status .allocatable userId
  let s := s.updateCase caseId (fun c =>
    { c with status := .allocatable, assignedUserId := none, rowVersion := c.rowVersion + 1 })
  let s := requeueTasks s caseId (fun status => status != .pending && status.isOpen)
  return s.publish
    { eventType := .caseReleased, caseId := some caseId
      payload := .obj [("case_id", .uuid caseId), ("released_by", .str userId),
        ("released_at", .num ctx.now)] }

def withdrawCase (ctx : Ctx) (caseId : Id) (reason : String) (s : Store) : Except Err Store := do
  let c ← getCaseInstanceWithLock s caseId
  validateLifecycleTransition c.status .cancelled "applicant"
  let s ← updateCaseLifecycle s caseId .cancelled
    (fun c => { c with withdrawalReason := some reason, completedAt := some ctx.now })
  let s := cancelOpenTasks s caseId ctx.now
  return s.publish
    { eventType := .caseWithdrawn, caseId := some caseId
      payload := .obj [("case_id", .uuid caseId), ("reason", .str reason)] }

def emergencyClose (ctx : Ctx) (caseId : Id) (reason supervisorId fourEyesToken : String)
    (s : Store) : Except Err Store := do
  ensure (fourEyesToken != "") "four-eyes approval token required"
  let (_, row) ← orFail
    (s.fourEyesTokens.find? (fun row => row.token == fourEyesToken &&
      decide (ctx.now < row.expiresAt) && row.consumedAt.isNone))
    "EmergencyClose: four-eyes approval token invalid or expired: no rows in result set"
  ensure (row.caseId == caseId)
    ("EmergencyClose: four-eyes approval token invalid or expired: token not issued for case " ++
      toString caseId)
  ensure (row.issuerId != supervisorId) "EmergencyClose: four-eyes requires a different supervisor"
  let s := { s with
    fourEyesTokens := s.fourEyesTokens.updateWhere (fun row => row.token == fourEyesToken)
      (fun row => { row with consumedAt := some ctx.now, consumedBy := some supervisorId }) }
  let c ← getCaseInstanceWithLock s caseId
  ensure (!c.status.isTerminal)
    ("EmergencyClose: case is in a terminal state: case " ++ toString caseId ++ " status " ++
      c.status.text)
  validateLifecycleTransition c.status .cancelled supervisorId
  let s ← updateCaseLifecycle s caseId .cancelled (fun c =>
    { c with
      emergencyReason := some reason
      supervisorId := some supervisorId
      emergencyClosedAt := some ctx.now
      completedAt := some ctx.now })
  let s := cancelOpenTasks s caseId ctx.now
  return s.publish
    { eventType := .caseEmergencyClosed, caseId := some caseId
      payload := .obj [("case_id", .uuid caseId), ("reason", .str reason),
        ("supervisor_id", .str supervisorId), ("approver_id", .str row.issuerId),
        ("four_eyes_token", .str fourEyesToken)] }

/-! ## What the operations leave alone -/

/-- A step about a case: the other cases, the time at which a case was created and the links to
    deals stay as they are. -/
structure WithinCase (caseId : Id) (s s' : Store) : Prop where
  others : s.cases.AgreesOff caseId s'.cases
  created : s.cases.Grows CaseInstance.createdAt (fun _ => False) s'.cases
  links : s'.caseDealLinks = s.caseDealLinks

namespace WithinCase

theorem of_eq (hcases : s'.cases = s.cases) (hlinks : s'.caseDealLinks = s.caseDealLinks) :
    WithinCase caseId s s' :=
  ⟨.of_eq hcases, .of_eq hcases, hlinks⟩

theorem trans (h : WithinCase caseId s s') (h' : WithinCase caseId s' s'') :
    WithinCase caseId s s'' :=
  ⟨h.others.trans h'.others, h.created.trans h'.created, h'.links.trans h.links⟩

theorem updateCase {f : CaseInstance → CaseInstance} (hf : ∀ c, (f c).createdAt = c.createdAt) :
    WithinCase caseId s (s.updateCase caseId f) :=
  ⟨.updateAt caseId s.cases f, .updateAt hf, rfl⟩

end WithinCase

theorem updateCaseLifecycle_step (h : updateCaseLifecycle s caseId status updates = .ok s')
    (hupdates : ∀ c, (updates c).createdAt = c.createdAt) :
    s' = s.updateCase caseId
      (fun c => { updates c with status := status, rowVersion := c.rowVersion + 1 }) ∧
    WithinCase caseId s s' := by
  obtain ⟨-, -, h⟩ := bind_ok h
  cases h
  exact ⟨rfl, .updateCase hupdates⟩

/-- A store with the cases, the tasks and the links of another one. -/
def SameWork (s s' : Store) : Prop :=
  s'.cases = s.cases ∧ s'.tasks = s.tasks ∧ s'.caseDealLinks = s.caseDealLinks

theorem pauseClock_frame {createdAt : Instant}
    (h : pauseClock ctx s clock sla createdAt reason = .ok s') : SameWork s s' := by
  obtain ⟨elapsed, -, h⟩ := bind_ok h
  cases h
  exact ⟨rfl, rfl, rfl⟩

/-- Stopping the clocks rewrites no case and no task. -/
theorem appendCaseSLAPauseLogs_frame (h : appendCaseSLAPauseLogs ctx s caseId reason = .ok s') :
    SameWork s s' := by
  obtain ⟨c, -, h⟩ := bind_ok h
  obtain ⟨s₁, hcase, h⟩ := bind_ok h
  refine foldlM_invariant (P := SameWork s) ?_ (pauseClock_frame hcase) h
  intro b r b' _ hb hpause
  obtain ⟨hcases, htasks, hlinks⟩ := pauseClock_frame hpause
  exact ⟨hcases.trans hb.1, htasks.trans hb.2.1, hlinks.trans hb.2.2⟩

theorem publish_all_frame {α : Type} (event : α → Event) (xs : List α) (s : Store) :
    SameWork s (xs.foldl (fun s x => s.publish (event x)) s) := by
  induction xs generalizing s with
  | nil => exact ⟨rfl, rfl, rfl⟩
  | cons x xs ih => exact ih (s.publish (event x))

/-- The case of a task and the status it is in. -/
def Task.place (t : Task) : Id × TaskStatus := (t.caseId, t.status)

/-- A step about a case that moves no task. -/
structure KeepsPlaces (caseId : Id) (s s' : Store) : Prop extends WithinCase caseId s s' where
  places : s.tasks.Grows Task.place (fun _ => False) s'.tasks

theorem KeepsPlaces.trans (h : KeepsPlaces caseId s s')
    (h' : KeepsPlaces caseId s' s'') : KeepsPlaces caseId s s'' :=
  ⟨h.toWithinCase.trans h'.toWithinCase, h.places.trans h'.places⟩

theorem SameWork.keepsPlaces (h : SameWork s s') : KeepsPlaces caseId s s' :=
  ⟨.of_eq h.1 h.2.2, .of_eq h.2.1⟩

theorem resumeClock_step {k : Id} (hrestart : ∀ dueAt, KeepsPlaces k s (restart s dueAt))
    (h : resumeClock ctx s clock sla restart reason = .ok s') : KeepsPlaces k s s' := by
  obtain ⟨due, -, h⟩ := bind_ok h
  cases h
  cases due with
  | none => exact SameWork.keepsPlaces ⟨rfl, rfl, rfl⟩
  | some dueAt => exact (hrestart dueAt).trans (SameWork.keepsPlaces ⟨rfl, rfl, rfl⟩)

/-- Restarting the clocks rewrites no other case and moves no task. -/
theorem appendCaseSLAResumeLogs_step (h : appendCaseSLAResumeLogs ctx s caseId reason = .ok s') :
    KeepsPlaces caseId s s' := by
  obtain ⟨c, -, h⟩ := bind_ok h
  obtain ⟨s₁, hcase, h⟩ := bind_ok h
  have hrestart : ∀ dueAt, WithinCase caseId s (restartCase ctx.now caseId s dueAt) := by
    intro dueAt
    apply WithinCase.updateCase
    intro c
    rfl
  have hfirst := resumeClock_step (fun dueAt => ⟨hrestart dueAt, .refl _ _ _⟩) hcase
  refine foldlM_invariant (P := KeepsPlaces caseId s) ?_ hfirst h
  intro b r b' _ hb hresume
  have hplaces : ∀ dueAt, b.tasks.Grows Task.place (fun _ => False)
      (b.tasks.updateAt r.1 (fun t => t.restart ctx.now dueAt)) := fun _ => .updateAt fun _ => rfl
  -- a task's clock writes no case at all
  exact hb.trans (resumeClock_step (fun dueAt => ⟨.of_eq rfl rfl, hplaces dueAt⟩) hresume)

/-- A step touched one case only, and this case was not closed before it. -/
structure MovesOpenCase (s : Store) (caseId : Id) (s' : Store) : Prop where
  notClosed : ∀ c, s.cases.get? caseId = some c → c.status.isTerminal = false
  others : s.cases.AgreesOff caseId s'.cases

/-- What the operations have in common. -/
structure LifecycleStep (s : Store) (caseId : Id) (s' : Store) : Prop extends
    MovesOpenCase s caseId s', WithinCase caseId s s'

/-- Loading the case and asking the table is what protects a closed case. -/
theorem LifecycleStep.of_validated {c : CaseInstance}
    (hload : getCaseInstanceWithLock s caseId = .ok c)
    (hvalid : validateLifecycleTransition c.status requestedStatus initiatedBy = .ok u)
    (hwithin : WithinCase caseId s s') : LifecycleStep s caseId s' := by
  refine { hwithin with notClosed := ?_ }
  intro c' hc'
  have hc : s.cases.get? caseId = some c := orFail_eq_ok.mp hload
  have hsame : c' = c := Option.some.inj (hc'.symm.trans hc)
  rw [hsame]
  exact validateLifecycleTransition_open hvalid

/-- A case is suspended for a reason, and its open tasks wait again. -/
theorem suspendCase_step (h : suspendCase ctx caseId reason resumeAt s = .ok s') :
    LifecycleStep s caseId s' ∧ s'.tasks = (requeueTasks s caseId TaskStatus.isOpen).tasks ∧
      ∃ c, s'.cases.get? caseId = some c ∧ c.suspendReason = some reason := by
  obtain ⟨c, hload, h⟩ := bind_ok h
  obtain ⟨u, hvalid, h⟩ := bind_ok h
  obtain ⟨s₁, hupdate, h⟩ := bind_ok h
  obtain ⟨s₂, hpause, h⟩ := bind_ok h
  cases h
  obtain ⟨hcases, htasks, hlinks⟩ := appendCaseSLAPauseLogs_frame hpause
  have hrow : s.cases.get? caseId = some c := orFail_eq_ok.mp hload
  obtain ⟨rfl, hwithin⟩ := updateCaseLifecycle_step hupdate fun _ => rfl
  refine ⟨.of_validated hload hvalid (hwithin.trans (.of_eq hcases hlinks)), ?_⟩
  refine ⟨htasks, { c with
    suspendReason := some reason
    resumeAt := resumeAt
    status := .suspended
    rowVersion := c.rowVersion + 1 }, ?_, rfl⟩
  show s₂.cases.get? caseId = _
  rw [hcases]
  exact Table.get?_updateAt_of_get? hrow

/-- Resuming a case moves no task. -/
theorem resumeCase_step (h : resumeCase ctx caseId s = .ok s') :
    LifecycleStep s caseId s' ∧ s.tasks.Grows Task.place (fun _ => False) s'.tasks := by
  obtain ⟨c, hload, h⟩ := bind_ok h
  obtain ⟨u, hvalid, h⟩ := bind_ok h
  obtain ⟨s₁, hupdate, h⟩ := bind_ok h
  obtain ⟨s₂, hresume, h⟩ := bind_ok h
  cases h
  obtain ⟨rfl, hwithin⟩ := updateCaseLifecycle_step hupdate fun _ => rfl
  -- only the version of a waiting task is written besides
  have hversions : s.tasks.Grows Task.place (fun _ => False)
      (s.tasks.updateWhere (fun t => t.caseId == caseId && t.status == .pending)
        (fun t => { t with version := t.version + 1 })) := .updateWhere_of fun _ _ => rfl
  have hqueue := (publish_all_frame _ _ _).keepsPlaces.trans (appendCaseSLAResumeLogs_step hresume)
  refine ⟨.of_validated hload hvalid (hwithin.trans ?_), hversions.trans hqueue.places⟩
  exact ⟨hqueue.others, hqueue.created, hqueue.links⟩

/-- The open tasks of a released case wait again; the reason of a suspension stays. -/
theorem releaseCase_step (h : releaseCase ctx caseId userId s = .ok s') :
    LifecycleStep s caseId s' ∧
      s'.tasks = (requeueTasks s caseId (fun status => status != .pending && status.isOpen)).tasks ∧
      s.cases.Keeps CaseInstance.suspendReason s'.cases := by
  obtain ⟨c, hload, h⟩ := bind_ok h
  obtain ⟨u, hvalid, h⟩ := bind_ok h
  cases h
  have hwithin : WithinCase caseId s (s.updateCase caseId (fun c =>
      { c with status := .allocatable, assignedUserId := none, rowVersion := c.rowVersion + 1 })) :=
    .updateCase fun _ => rfl
  exact ⟨.of_validated hload hvalid (hwithin.trans (.of_eq rfl rfl)), rfl, .updateAt fun _ => rfl⟩

theorem withdrawCase_step (h : withdrawCase ctx caseId reason s = .ok s') :
    LifecycleStep s caseId s' ∧ s'.tasks = (cancelOpenTasks s caseId ctx.now).tasks := by
  obtain ⟨c, hload, h⟩ := bind_ok h
  obtain ⟨u, hvalid, h⟩ := bind_ok h
  obtain ⟨s₁, hupdate, h⟩ := bind_ok h
  cases h
  obtain ⟨rfl, hwithin⟩ := updateCaseLifecycle_step hupdate fun _ => rfl
  exact ⟨.of_validated hload hvalid (hwithin.trans (.of_eq rfl rfl)), rfl⟩

theorem emergencyClose_step {supervisorId token : String}
    (h : emergencyClose ctx caseId reason supervisorId token s = .ok s') :
    LifecycleStep s caseId s' ∧ s'.tasks = (cancelOpenTasks s caseId ctx.now).tasks := by
  obtain ⟨-, -, h⟩ := bind_ok h
  obtain ⟨row, -, h⟩ := bind_ok h
  obtain ⟨-, -, h⟩ := bind_ok h
  obtain ⟨-, -, h⟩ := bind_ok h
  obtain ⟨c, hload, h⟩ := bind_ok h
  obtain ⟨-, -, h⟩ := bind_ok h
  obtain ⟨u, hvalid, h⟩ := bind_ok h
  obtain ⟨s₁, hupdate, h⟩ := bind_ok h
  cases h
  obtain ⟨rfl, hwithin⟩ := updateCaseLifecycle_step hupdate fun _ => rfl
  -- the token is consumed before the case is closed
  exact ⟨.of_validated hload hvalid ⟨hwithin.others, hwithin.created, hwithin.links⟩, rfl⟩

/-! ## Cloning -/

/-- The copy of a case; the columns that the insertion does not name have their defaults. -/
def CaseInstance.clone (c : CaseInstance) (sourceCaseId : Id) (now : Instant) : CaseInstance where
  tenantId := c.tenantId
  caseTypeId := c.caseTypeId
  parentCaseId := c.parentCaseId
  sourceCaseId := some sourceCaseId
  currentStageCode := c.currentStageCode
  currentStageOrdinal := c.currentStageOrdinal
  status := .cloned
  metadata := c.metadata
  maxReworkAttempts := 3
  createdAt := now

/-- The copy of a task. Neither `requires_approval` nor `approval_gate_id` is copied. -/
def Task.clone (t : Task) (newCaseId : Id) (now : Instant) : Task where
  caseId := newCaseId
  taskDefinitionCode := t.taskDefinitionCode
  activityCode := t.activityCode
  stageCode := t.stageCode
  priority := t.priority
  dueAt := t.dueAt
  maxRetries := t.maxRetries
  inputPayload := t.inputPayload
  idempotencyKey := "cloned-" ++ toString newCaseId ++ "-" ++ t.idempotencyKey
  createdAt := now

/-- Insert a task; the unique index on the key refuses a second one. -/
def insertTask (s : Store) (task : Task) : Except Err Store :=
  match s.tasks.find? (fun t => t.idempotencyKey == task.idempotencyKey) with
  | some _ => .error "duplicate key value violates unique constraint \"uq_tasks_idempotency_key\""
  | none => .ok { s with tasks := s.tasks.insert task }

def tasksOf (s : Store) (caseId : Id) : List Task :=
  (s.tasks.rows.map Prod.snd).filter (fun t => t.caseId == caseId)

/-- `CloneCase` of the engine and the repository: the copy of the case and of all its tasks. -/
def cloneCase (ctx : Ctx) (sourceCaseId : Id) (s : Store) : Except Err Store := do
  let source ← orFail (s.cases.get? sourceCaseId)
    ("CloneCase: case not found: " ++ toString sourceCaseId)
  let newCaseId := s.cases.fresh
  let copies := (tasksOf s sourceCaseId).map (fun t => t.clone newCaseId ctx.now)
  let s := { s with cases := s.cases.insert (source.clone sourceCaseId ctx.now) }
  let s ← copies.foldlM insertTask s
  return s.publish
    { eventType := .caseCloned, caseId := some newCaseId
      payload := .obj [("source_case_id", .uuid sourceCaseId), ("new_case_id", .uuid newCaseId),
        ("cloned_at", .num ctx.now)] }

theorem mem_tasksOf {t : Task} (h : t ∈ tasksOf s caseId) :
    t.caseId = caseId ∧ ∃ k, s.tasks.get? k = some t := by
  obtain ⟨hmem, hcase⟩ := List.mem_filter.mp h
  obtain ⟨r, hr, rfl⟩ := List.mem_map.mp hmem
  exact ⟨beq_iff_eq.mp hcase, r.1, Table.get?_eq_some_iff.mpr hr⟩

/-- What a clone wrote: a case under a fresh key, and copies of the tasks of its source. -/
theorem cloneCase_step {sourceCaseId : Id} (h : cloneCase ctx sourceCaseId s = .ok s') :
    ∃ source copies outbox, s.cases.get? sourceCaseId = some source ∧
      copies = (tasksOf s sourceCaseId).map (fun t => t.clone s.cases.fresh ctx.now) ∧
      s' = { s with
        cases := s.cases.insert (source.clone sourceCaseId ctx.now)
        tasks := copies.foldl Table.insert s.tasks
        outbox := outbox } := by
  have hinsert : ∀ (copies : List Task) (s s' : Store), copies.foldlM insertTask s = .ok s' →
      s' = { s with tasks := copies.foldl Table.insert s.tasks } := by
    intro copies
    induction copies with
    | nil =>
      intro s s' h
      cases h
      rfl
    | cons t copies ih =>
      intro s s' h
      rw [List.foldlM_cons] at h
      obtain ⟨s₁, hone, h⟩ := bind_ok h
      unfold insertTask at hone
      split at hone
      · cases hone
      · cases hone
        exact ih _ s' h
  obtain ⟨source, hsource, h⟩ := bind_ok h
  obtain ⟨s₁, hcopied, h⟩ := bind_ok h
  cases h
  have heq := hinsert _ _ _ hcopied
  subst heq
  exact ⟨source, _, _, orFail_eq_ok.mp hsource, rfl, rfl⟩

end LoanWorkflow
