import LoanWorkflow.Exception.Failure

/-! # Requeueing of dead tasks

    An operator takes an entry out of the dead-letter queue: the task starts
    anew, under a new idempotency key, and the entry is kept as deleted.
-/

namespace LoanWorkflow

def TaskDLQEntry.isActive (d : TaskDLQEntry) : Bool := d.softDeletedAt.isNone

/-- The arguments of a requeue, and the identifier that the database generates for it. -/
structure RequeueCall where
  now : Instant
  dlqId : Id
  operatorId : String
  generatedId : String

def RequeueCall.newIdempotency (call : RequeueCall) (taskId : Id) : String :=
  "requeue:" ++ toString taskId ++ ":" ++ call.generatedId

def Task.startOver (t : Task) (key : String) : Task :=
  { t with
    status := .pending
    retryCount := 0
    nextRetryAt := none
    assignedService := none
    assignedAt := none
    startedAt := none
    completedAt := none
    lastHeartbeatAt := none
    errorDetail := none
    isPoisonPill := false
    poisonPillQuarantinedAt := none
    poisonPillReason := none
    idempotencyKey := key
    version := t.version + 1 }

def TaskDLQEntry.takeOut (d : TaskDLQEntry) (now : Instant) : TaskDLQEntry :=
  { d with
    softDeletedAt := some now
    requeueCount := d.requeueCount + 1
    lastRequeueAt := some now
    quarantineReleasedAt := if d.isPoisonPill then some now else d.quarantineReleasedAt }

def RequeueCall.historyRow (call : RequeueCall) (entry : TaskDLQEntry) (t : Task) :
    RetryHistoryEntry where
  taskId := entry.taskId
  caseId := entry.caseId
  attemptNumber := 0
  retryCountBefore := t.retryCount
  maxRetries := t.maxRetries
  backoffStrategy := .fixed
  baseIntervalSeconds := 1
  maxIntervalSeconds := 1
  computedIntervalSeconds := 0
  scheduledAt := call.now
  nextAttemptAt := none
  errorCode := "DLQ_REQUEUE"
  errorClass := .unknown
  errorDetail := .obj [("operator_id", .str call.operatorId), ("source", .str "DLQ_REQUEUE"),
    ("dlq_id", .uuid call.dlqId), ("task_id", .uuid entry.taskId), ("case_id", .uuid entry.caseId),
    ("new_idempotency", .str (call.newIdempotency entry.taskId))]
  sourceService := call.operatorId
  outcome := .dlqRequeued

def RequeueCall.event (call : RequeueCall) (entry : TaskDLQEntry) : Event where
  eventType := .taskRequeued
  caseId := some entry.caseId
  taskId := some entry.taskId
  payload := .obj [("case_id", .uuid entry.caseId), ("task_id", .uuid entry.taskId),
    ("dlq_id", .uuid call.dlqId), ("operator_id", .str call.operatorId),
    ("requeue_count", .num (entry.requeueCount + 1)),
    ("released_poison_pill", .bool entry.isPoisonPill)]
  targetService := "case-orchestrator"

/-- The table of tasks refuses a key that is taken, the one of entries a
    deletion before the entry was made. -/
def requeueDLQEntry (call : RequeueCall) (s : Store) : Except Err Store := do
  ensure (trimSpace call.operatorId != "") "RequeueDLQEntry: operatorID is required"
  let entry ← orFail ((s.dlq.get? call.dlqId).filter (·.isActive))
    ("RequeueDLQEntry: active dlq entry " ++ toString call.dlqId ++ " not found")
  let t ← orFail (s.tasks.get? entry.taskId)
    "RequeueDLQEntry: load task state: sql: no rows in result set"
  let key := call.newIdempotency entry.taskId
  ensure (s.tasks.rows.all (fun r => r.1 == entry.taskId || r.2.idempotencyKey != key))
    "RequeueDLQEntry: update task: duplicate key value violates unique constraint"
  ensure (decide (entry.movedAt ≤ call.now))
    "RequeueDLQEntry: soft-delete dlq entry: new row violates check constraint"
  return { s with
    tasks := s.tasks.updateAt entry.taskId (·.startOver key)
    dlq := s.dlq.updateAt call.dlqId (·.takeOut call.now)
    retryHistory := s.retryHistory.insert (call.historyRow entry t)
    outbox := s.outbox.insert (call.event entry) }

/-- What a requeue did: the entry was in the queue, its task starts anew under a free key. -/
structure RequeueStep (call : RequeueCall) (entry : TaskDLQEntry) (t : Task) (s s' : Store) :
    Prop where
  found : s.dlq.get? call.dlqId = some entry
  active : entry.isActive = true
  row : s.tasks.get? entry.taskId = some t
  free : ∀ j t', s.tasks.get? j = some t' → j ≠ entry.taskId →
    t'.idempotencyKey ≠ call.newIdempotency entry.taskId
  tasks : s'.tasks =
    s.tasks.updateAt entry.taskId (·.startOver (call.newIdempotency entry.taskId))
  dlq : s'.dlq = s.dlq.updateAt call.dlqId (·.takeOut call.now)
  cases : s'.cases = s.cases
  caseTypes : s'.caseTypes = s.caseTypes

theorem requeueDLQEntry_step {call : RequeueCall} {s s' : Store}
    (h : requeueDLQEntry call s = .ok s') : ∃ entry t, RequeueStep call entry t s s' := by
  obtain ⟨_, -, h⟩ := bind_ok h
  obtain ⟨entry, hentry, h⟩ := bind_ok h
  obtain ⟨t, ht, h⟩ := bind_ok h
  obtain ⟨_, hfree, h⟩ := bind_ok h
  obtain ⟨_, -, h⟩ := bind_ok h
  cases h
  obtain ⟨hget, hactive⟩ := Option.filter_eq_some_iff.mp (orFail_eq_ok.mp hentry)
  refine ⟨entry, t, hget, hactive, orFail_eq_ok.mp ht, ?_, rfl, rfl, rfl, rfl⟩
  intro j t' ht' hne hkey
  rw [ensure_eq_ok, List.all_eq_true] at hfree
  have hrow := hfree _ (Table.get?_eq_some_iff.mp ht')
  simp [hne, hkey] at hrow

end LoanWorkflow
