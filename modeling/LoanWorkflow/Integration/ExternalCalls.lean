import LoanWorkflow.Framework.Transaction
import LoanWorkflow.Integration.ExternalCompletion

/-! # The transactions of external calls

    `CompleteTaskFromExternal` and `IngestExternalEvent`, statement by
    statement. Both find out about a duplicate by letting the insert of the
    key fail, and go on in the transaction that this has aborted: the audit
    row cannot be written and the commit rolls back. So a duplicate is an
    error (`ExternalCall.run_eq`), as the atomic steps have it.
-/

namespace LoanWorkflow

variable {entry : IntegrationAuditEntry} {s s' : Store} {context : String} {α : Type}

/-! ## Statements -/

/-- The database errors of the modelled statements. -/
inductive StatementError where
  /-- SQLSTATE 23505. -/
  | uniqueViolation

/-- The text of an error of a statement or a commit. -/
def errorText : TxError StatementError → Err
  | .failed .uniqueViolation => "duplicate key value violates unique constraint"
  | .inFailedTransaction =>
    "current transaction is aborted, commands ignored until end of transaction block"
  | .commitRollback => "commit unexpectedly resulted in rollback"
  | .done => "sql: transaction has already been committed or rolled back"

abbrev Transaction := Autocommit (Tx Store) Err

/-- The insert into `idempotency_keys`, whose primary key is the pair of keyspace and key. -/
def insertIdempotencyKey (row : IdempotencyKey) (s : Store) :
    Except StatementError (Unit × Store) :=
  match s.idempotencyKey? row.keyspace row.key with
  | some _ => .error .uniqueViolation
  | none => .ok ((), { s with idempotencyKeys := s.idempotencyKeys.insert row })

def select {α : Type} (f : Store → α) (s : Store) : Except StatementError (α × Store) :=
  .ok (f s, s)

def write (f : Store → Store) (s : Store) : Except StatementError (Unit × Store) := .ok ((), f s)

/-- Execute a statement, or give up with its error. -/
def execute {α : Type} (context : String) (f : Store → Except StatementError (α × Store)) :
    Transaction α := do
  match ← Tx.exec f with
  | .ok a => return a
  | .error e => Autocommit.fail (context ++ errorText e)

def commitOr (context : String) : Transaction Unit := do
  match ← Tx.commit with
  | .ok () => return ()
  | .error e => Autocommit.fail (context ++ errorText e)

/-- `CheckAndRecordIdempotencyKey`, and what its caller does with the two answers. -/
def checkIdempotencyKey (context : String) (row : IdempotencyKey)
    (duplicate fresh : Transaction Unit) : Transaction Unit := do
  match ← Tx.exec (insertIdempotencyKey row) with
  | .ok () => fresh
  | .error (.failed .uniqueViolation) => duplicate
  | .error e =>
    Autocommit.fail (context ++ "CheckAndRecordIdempotencyKey: insert key: " ++ errorText e)

/-- Write an audit row; an error is only logged. -/
def tryAudit (entry : IntegrationAuditEntry) (next : Transaction Unit) : Transaction Unit := do
  let _ ← Tx.exec (write (fun s => recordIntegrationAudit s entry))
  next

/-! ## The two functions -/

def ExternalTaskCompletion.duplicateAudit (output : ExternalTaskCompletion) (tenantId : String)
    (taskId : Id) (now : Instant) : IntegrationAuditEntry where
  tenantId := tenantId
  direction := .inbound
  integrationType := .externalTaskCompletion
  sourceOrTarget := trimSpace output.assignedService
  eventType := some .taskCompleted
  taskId := some taskId
  status := .duplicateRejected
  occurredAt := now

/-- The part of `CompleteTaskFromExternal` behind the idempotency key. -/
def completeFresh (ctx : Ctx) (tenantId : String) (taskId : Id) (output : ExternalTaskCompletion) :
    Transaction Unit := do
  let row ← execute "CompleteTaskFromExternal: load task: "
    (select fun s => (s.tasks.get? taskId).filter (fun t => t.tenantId == tenantId))
  let t ← Tx.lift (orFail row "CompleteTaskFromExternal: load task: sql: no rows in result set")
  let _ ← Tx.lift (ensure (t.assignedService.getD "" == trimSpace output.assignedService)
    "CompleteTaskFromExternal: assigned service mismatch")
  let _ ← Tx.lift (ensure (t.status == .inProgress)
    "CompleteTaskFromExternal: invalid task transition")
  let _ ← execute "CompleteTaskFromExternal: update task completion: " (write fun s =>
    s.updateTask taskId (fun t => t.report output (output.completedAt.getD ctx.now)))
  let _ ← execute "CompleteTaskFromExternal: publish completion event: " (write fun s =>
    s.publish ((completionEvent t.caseId taskId output).prepare tenantId))
  tryAudit (output.audit tenantId t.caseId taskId ctx.now)
    (commitOr "CompleteTaskFromExternal: commit: ")

/-- `CompleteTaskFromExternal`. -/
def completeTaskFromExternalTx (ctx : Ctx) (tenant : Option String) (idempotencyKey : String)
    (output : ExternalTaskCompletion) : Transaction Unit := do
  let tenantId ← Tx.lift (orFail tenant "CompleteTaskFromExternal: tenant not found")
  let key := output.key idempotencyKey
  let _ ← Tx.lift (ensure (key != "") "CompleteTaskFromExternal: idempotency key is required")
  let taskId ← Tx.lift (orFail output.taskId "CompleteTaskFromExternal: task_id is required")
  let _ ← Tx.lift (ensure (trimSpace output.assignedService != "")
    "CompleteTaskFromExternal: assigned_service is required")
  let _ ← Tx.lift (ensure (output.status == .completed || output.status == .failed)
    ("CompleteTaskFromExternal: unsupported status " ++ output.status.text))
  checkIdempotencyKey "CompleteTaskFromExternal: check idempotency: "
    { keyspace := .taskCompletion, key := key, tenantId := tenantId
      expiresAt := ctx.now + 30 * 24 * hour }
    (tryAudit (output.duplicateAudit tenantId taskId ctx.now)
      (commitOr "CompleteTaskFromExternal: commit duplicate flow: "))
    (completeFresh ctx tenantId taskId output)

/-- The part of `IngestExternalEvent` behind the idempotency key. -/
def ingestFresh (ctx : Ctx) (tenantId : String) (caseId : Id) (input : ExternalEventInput) :
    Transaction Unit := do
  let _ ← execute "IngestExternalEvent: insert outbox event: " (write fun s =>
    s.publish ((input.event caseId ctx.now).prepare tenantId))
  tryAudit (input.audit caseId .success ctx.now) (commitOr "IngestExternalEvent: commit: ")

/-- `IngestExternalEvent`. -/
def ingestExternalEventTx (ctx : Ctx) (validate : String → Json → Except Err Unit)
    (tenant : Option String) (input : ExternalEventInput) : Transaction Unit := do
  let (tenantId, caseId) ← Tx.lift (input.check validate tenant)
  let exists? ← execute "IngestExternalEvent: verify case: "
    (select fun s => (s.cases.get? caseId).any (fun c => c.tenantId == tenantId))
  let _ ← Tx.lift (ensure exists?
    ("IngestExternalEvent: case " ++ toString caseId ++ " not found for tenant"))
  checkIdempotencyKey "IngestExternalEvent: check idempotency: "
    { keyspace := .externalEventIngestion, key := trimSpace input.idempotencyKey
      tenantId := tenantId, expiresAt := ctx.now + 7 * 24 * hour }
    (tryAudit (input.audit caseId .duplicateRejected ctx.now)
      (commitOr "IngestExternalEvent: commit duplicate flow: "))
    (ingestFresh ctx tenantId caseId input)

/-! ## The transactions are the atomic steps -/

def atomically (x : Except Err Store) : Except Err (Unit × Store) := x.map (fun s => ((), s))

@[simp] theorem atomically_bind (x : Except Err α) (f : α → Except Err Store) :
    atomically (x >>= f) = x >>= fun a => atomically (f a) := by
  cases x <;> rfl

section rules

variable {x : Except Err (Unit × Store)}

theorem implements_execute {f : Store → Except StatementError (α × Store)}
    {k : α → Transaction Unit} {a : α} (hf : f s = .ok (a, s')) (h : Tx.Implements (k a) s' x) :
    Tx.Implements (execute context f >>= k) s x := by
  intro start
  have hrun : (execute context f).run (.active start s) = (.ok a, .active start s') := by
    have hexec : (Tx.exec (δ := Err) f).run (.active start s) =
        (.ok (.ok a), .active start s') := by
      simp only [Tx.exec, hf]
    exact Autocommit.run_bind_of_run hexec
  rw [Autocommit.run_bind_of_run hrun]
  exact h start

theorem implements_commitOr (context : String) : Tx.Implements (commitOr context) s (.ok ((), s)) :=
  Tx.implements_commit rfl

theorem implements_tryAudit {next : Transaction Unit}
    (h : Tx.Implements next (recordIntegrationAudit s entry) x) :
    Tx.Implements (tryAudit entry next) s x :=
  Tx.implements_exec_ok rfl h

/-- In the aborted transaction of a duplicate, the audit row is refused and the commit fails. -/
theorem failsAborted_duplicate (entry : IntegrationAuditEntry) (context : String) :
    Tx.FailsAborted (tryAudit entry (commitOr context))
      (context ++ "commit unexpectedly resulted in rollback") :=
  Tx.failsAborted_exec (Tx.failsAborted_commit rfl)

/-- The check of the key is the atomic one, if the caller goes on with `fresh` as `g` does. -/
theorem implements_checkIdempotencyKey (caller : String) {row : IdempotencyKey}
    {fresh : Transaction Unit} {g : Store → Except Err (Unit × Store)}
    (h : ∀ s', recordIdempotencyKey caller s row = .ok s' → Tx.Implements fresh s' (g s')) :
    Tx.Implements
      (checkIdempotencyKey context row
        (tryAudit entry (commitOr (caller ++ ": commit duplicate flow: "))) fresh) s
      (recordIdempotencyKey caller s row >>= g) := by
  unfold recordIdempotencyKey at h ⊢
  cases hkey : s.idempotencyKey? row.keyspace row.key with
  | some r =>
    apply Tx.implements_exec_error (e := .uniqueViolation)
    · simp only [insertIdempotencyKey, hkey]
    · have hfails := failsAborted_duplicate entry (caller ++ ": commit duplicate flow: ")
      rwa [String.append_assoc] at hfails
  | none =>
    rw [hkey] at h
    apply Tx.implements_exec_ok (b := ())
    · simp only [insertIdempotencyKey, hkey]
      rfl
    · exact h _ rfl

end rules

theorem completeTaskFromExternalTx_implements (ctx : Ctx) (tenant : Option String)
    (idempotencyKey : String) (output : ExternalTaskCompletion) (s : Store) :
    Tx.Implements (completeTaskFromExternalTx ctx tenant idempotencyKey output) s
      (atomically (completeTaskFromExternal ctx tenant idempotencyKey output s)) := by
  unfold completeTaskFromExternalTx completeTaskFromExternal
  simp only [atomically_bind]
  refine Tx.implements_lift_bind fun tenantId _ => ?_
  refine Tx.implements_lift_bind fun _ _ => ?_
  refine Tx.implements_lift_bind fun taskId _ => ?_
  refine Tx.implements_lift_bind fun _ _ => ?_
  refine Tx.implements_lift_bind fun _ _ => ?_
  refine implements_checkIdempotencyKey "CompleteTaskFromExternal" fun s' _ => ?_
  refine implements_execute rfl ?_
  refine Tx.implements_lift_bind fun t _ => ?_
  refine Tx.implements_lift_bind fun _ _ => ?_
  refine Tx.implements_lift_bind fun _ _ => ?_
  refine implements_execute rfl ?_
  refine implements_execute rfl ?_
  exact implements_tryAudit (implements_commitOr _)

theorem ingestExternalEventTx_implements (ctx : Ctx) (validate : String → Json → Except Err Unit)
    (tenant : Option String) (input : ExternalEventInput) (s : Store) :
    Tx.Implements (ingestExternalEventTx ctx validate tenant input) s
      (atomically (ingestExternalEvent ctx validate tenant input s)) := by
  unfold ingestExternalEventTx ingestExternalEvent
  simp only [atomically_bind]
  refine Tx.implements_lift_bind fun checked _ => ?_
  refine implements_execute rfl ?_
  refine Tx.implements_lift_bind fun _ _ => ?_
  refine implements_checkIdempotencyKey "IngestExternalEvent" fun s' _ => ?_
  refine implements_execute rfl ?_
  exact implements_tryAudit (implements_commitOr _)

/-! ## Calls -/

inductive ExternalCall where
  | completeTask (ctx : Ctx) (tenant : Option String) (idempotencyKey : String)
      (output : ExternalTaskCompletion)
  | ingestEvent (ctx : Ctx) (validate : String → Json → Except Err Unit) (tenant : Option String)
      (input : ExternalEventInput)

variable {call : ExternalCall}

namespace ExternalCall

def tenant : ExternalCall → Option String
  | .completeTask _ tenant _ _ => tenant
  | .ingestEvent _ _ tenant _ => tenant

def keyspace : ExternalCall → IdempotencyKeyspace
  | .completeTask .. => .taskCompletion
  | .ingestEvent .. => .externalEventIngestion

def key : ExternalCall → String
  | .completeTask _ _ idempotencyKey output => output.key idempotencyKey
  | .ingestEvent _ _ _ input => trimSpace input.idempotencyKey

@[simp] theorem key_completeTask (ctx : Ctx) (tenant : Option String) (idempotencyKey : String)
    (output : ExternalTaskCompletion) :
    (completeTask ctx tenant idempotencyKey output).key = output.key idempotencyKey := by
  rw [key]

def program : ExternalCall → Transaction Unit
  | .completeTask ctx tenant idempotencyKey output =>
    completeTaskFromExternalTx ctx tenant idempotencyKey output
  | .ingestEvent ctx validate tenant input => ingestExternalEventTx ctx validate tenant input

/-- The call: its result, and the store that it leaves. -/
def run (call : ExternalCall) (s : Store) : Except Err Unit × Store := Tx.transact call.program s

def exec : ExternalCall → Store → Except Err Store
  | .completeTask ctx tenant idempotencyKey output, s =>
    completeTaskFromExternal ctx tenant idempotencyKey output s
  | .ingestEvent ctx validate tenant input, s => ingestExternalEvent ctx validate tenant input s

/-- The call has the outcome of the atomic step. -/
theorem run_eq (call : ExternalCall) (s : Store) :
    call.run s = Tx.outcome s (atomically (call.exec s)) := by
  cases call with
  | completeTask ctx tenant idempotencyKey output =>
    exact (completeTaskFromExternalTx_implements ctx tenant idempotencyKey output s).transact_eq
  | ingestEvent ctx validate tenant input =>
    exact (ingestExternalEventTx_implements ctx validate tenant input s).transact_eq

theorem run_of_ok (h : call.exec s = .ok s') : call.run s = (.ok (), s') := by
  rw [run_eq, h]
  rfl

theorem run_of_error {e : Err} (h : call.exec s = .error e) : call.run s = (.error e, s) := by
  rw [run_eq, h]
  rfl

/-- What a call that succeeds has done: its key is new, and with it come an event of its
    tenant and at most one change of a task of its tenant. -/
structure Accepted (call : ExternalCall) (s s' : Store) (tenantId : String) : Prop where
  tenant : call.tenant = some tenantId
  fresh : s.idempotencyKey? call.keyspace call.key = none
  keys : ∃ row, row.keyspace = call.keyspace ∧ row.key = call.key ∧ row.tenantId = tenantId ∧
    s'.idempotencyKeys = s.idempotencyKeys.insert row
  event : ∃ e, e.tenantId = tenantId ∧ s'.outbox = s.outbox.insert e
  tasks : s'.tasks = s.tasks ∨ ∃ k t f, s.tasks.get? k = some t ∧ t.tenantId = tenantId ∧
    s'.tasks = s.tasks.updateAt k f ∧ ∀ t, (f t).tenantId = t.tenantId
  cases : s'.cases = s.cases

theorem accepted_of_exec (h : call.exec s = .ok s') : ∃ tenantId, Accepted call s s' tenantId := by
  cases call with
  | completeTask ctx tenant idempotencyKey output =>
    replace h : completeTaskFromExternal ctx tenant idempotencyKey output s = .ok s' := h
    obtain ⟨tenantId, htenant, h⟩ := bind_ok h
    obtain ⟨_, _, h⟩ := bind_ok h
    obtain ⟨taskId, _, h⟩ := bind_ok h
    obtain ⟨_, _, h⟩ := bind_ok h
    obtain ⟨_, _, h⟩ := bind_ok h
    obtain ⟨s₁, hrecord, h⟩ := bind_ok h
    obtain ⟨t, ht, h⟩ := bind_ok h
    obtain ⟨_, _, h⟩ := bind_ok h
    obtain ⟨_, _, h⟩ := bind_ok h
    cases h
    obtain ⟨hfresh, rfl⟩ := recordIdempotencyKey_eq_ok hrecord
    obtain ⟨hget, hsame⟩ := Option.filter_eq_some_iff.mp (orFail_eq_ok.mp ht)
    let row : IdempotencyKey :=
      { keyspace := .taskCompletion, key := output.key idempotencyKey, tenantId := tenantId
        expiresAt := ctx.now + 30 * 24 * hour }
    let e := (completionEvent t.caseId taskId output).prepare tenantId
    let report := fun t : Task => t.report output (output.completedAt.getD ctx.now)
    exact ⟨tenantId,
      { tenant := orFail_eq_ok.mp htenant
        fresh := by rw [key_completeTask]; exact hfresh
        keys := ⟨row, rfl, by rw [key_completeTask], rfl, rfl⟩
        event := ⟨e, rfl, rfl⟩
        tasks := Or.inr ⟨taskId, t, report, hget, beq_iff_eq.mp hsame, rfl, fun _ => rfl⟩
        cases := rfl }⟩
  | ingestEvent ctx validate tenant input =>
    replace h : ingestExternalEvent ctx validate tenant input s = .ok s' := h
    obtain ⟨⟨tenantId, caseId⟩, hcheck, h⟩ := bind_ok h
    obtain ⟨_, _, h⟩ := bind_ok h
    obtain ⟨s₁, hrecord, h⟩ := bind_ok h
    cases h
    obtain ⟨hfresh, rfl⟩ := recordIdempotencyKey_eq_ok hrecord
    let row : IdempotencyKey :=
      { keyspace := .externalEventIngestion, key := trimSpace input.idempotencyKey
        tenantId := tenantId, expiresAt := ctx.now + 7 * 24 * hour }
    let e := (input.event caseId ctx.now).prepare tenantId
    exact ⟨tenantId,
      { tenant := (ExternalEventInput.check_eq_ok hcheck).1
        fresh := hfresh
        keys := ⟨row, rfl, rfl, rfl, rfl⟩
        event := ⟨e, rfl, rfl⟩
        tasks := Or.inl rfl
        cases := rfl }⟩

end ExternalCall

end LoanWorkflow
